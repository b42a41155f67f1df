/-
This file says what a resolved connection has in common with the stored one, and which variable a
failed resolution names.
-/

import ImpalaAdapter.Proofs.Settings.Resolution

namespace ImpalaAdapter.Settings

open Connection

/-- The names in the references of a text, from left to right. -/
def references (text : String) : List String :=
  (segments text.toList).filterMap Segment.name?

section
variable (environment : Environment)

/-- Every variable that the texts refer to can be read. -/
def AllSet (texts : List String) : Prop :=
  ∀ text ∈ texts, ∀ reference ∈ references text, (environment.read? reference).isSome

/-- The variable is the leftmost unset one of the first text that refers to an unset one. -/
def IsFirstUnset (texts : List String) (reference : String) : Prop :=
  ∃ before text after earlier later,
    texts = before ++ text :: after ∧ references text = earlier ++ reference :: later ∧
      AllSet environment before ∧ (∀ other ∈ earlier, (environment.read? other).isSome) ∧
      environment.read? reference = none

/-- The value is the text with the values of its variables. -/
def Expands (text value : String) : Prop :=
  expand environment text = .ok value

/-- The keys stay, and each value is expanded under its key. -/
def ExpandsEach (stored resolved : Tunnel) : Prop :=
  ∀ key : String, Option.Rel (Expands environment) stored[key]? resolved[key]?

/-- Each text of the stored parameters is expanded where it stands, and nothing else changes. -/
structure ExpandsTo (stored resolved : Parameters) : Prop where
  tunnel : Option.Rel (ExpandsEach environment) stored.tunnel resolved.tunnel
  host : Expands environment stored.host resolved.host
  database : Expands environment stored.database resolved.database
  additionalOptions : Option.Rel (Expands environment) stored.additionalOptions
    resolved.additionalOptions
  port : resolved.port = stored.port
  ssl : resolved.ssl = stored.ssl

variable {environment} {text value : String}

theorem unsetIn?_eq_none_iff :
    unsetIn? environment text = none ↔
      ∀ reference ∈ references text, (environment.read? reference).isSome := by
  rw [unsetIn?, firstUnset?, List.find?_eq_none, references]
  simp only [Option.isNone_iff_eq_none, Option.isSome_iff_ne_none, ne_eq]

theorem unsetIn?_eq_some_iff {reference : String} :
    unsetIn? environment text = some reference ↔
      ∃ earlier later, references text = earlier ++ reference :: later ∧
        (∀ other ∈ earlier, (environment.read? other).isSome) ∧
        environment.read? reference = none := by
  rw [unsetIn?, firstUnset?, List.find?_eq_some_iff_append, references]
  simp only [Option.isNone_iff_eq_none, Option.not_isNone]
  constructor
  · intro found
    obtain ⟨unset, earlier, later, split, set⟩ := found
    exact ⟨earlier, later, split, set, unset⟩
  · intro leftmost
    obtain ⟨earlier, later, split, set, unset⟩ := leftmost
    exact ⟨unset, earlier, later, split, set⟩

variable {parameters : Parameters}

theorem unset?_eq_none_iff :
    parameters.unset? environment = none ↔ AllSet environment parameters.texts := by
  rw [Parameters.unset?, List.findSome?_eq_none_iff]
  simp only [unsetIn?_eq_none_iff]
  rfl

theorem unset?_eq_some_iff {reference : String} :
    parameters.unset? environment = some reference ↔
      IsFirstUnset environment parameters.texts reference := by
  rw [Parameters.unset?, List.findSome?_eq_some_iff]
  simp only [unsetIn?_eq_none_iff, unsetIn?_eq_some_iff]
  constructor
  · intro found
    obtain ⟨before, text, after, texts, ⟨earlier, later, split, set, unset⟩, allSet⟩ := found
    exact ⟨before, text, after, earlier, later, texts, split, allSet, set, unset⟩
  · intro first
    obtain ⟨before, text, after, earlier, later, texts, split, allSet, set, unset⟩ := first
    exact ⟨before, text, after, texts, ⟨earlier, later, split, set, unset⟩, allSet⟩

theorem expands_iff :
    Expands environment text value ↔
      unsetIn? environment text = none ∧ value = expanded environment text := by
  rw [Expands, expand_unlessUnset]
  cases unsetIn? environment text with
  | none => simp [unlessUnset, eq_comm]
  | some name => simp [unlessUnset]

/-- A text is expanded when it is among texts whose variables can all be read. -/
theorem AllSet.expands {texts : List String} (allSet : AllSet environment texts)
    (member : text ∈ texts) : Expands environment text (expanded environment text) :=
  expands_iff.mpr ⟨unsetIn?_eq_none_iff.mpr (allSet text member), rfl⟩

/-- A relation that holds along a function holds along it on options. -/
theorem rel_map {Source Image : Type} {relation : Source → Image → Prop}
    {function : Source → Image} {source : Option Source}
    (along : ∀ value, source = some value → relation value (function value)) :
    Option.Rel relation source (source.map function) := by
  cases source with
  | none => exact .none
  | some value => exact .some (along value rfl)

theorem rel_self {Source : Type} {relation : Source → Source → Prop} {source : Option Source}
    (reflexive : ∀ value, source = some value → relation value value) :
    Option.Rel relation source source := by
  have mapped : Option.Rel relation source (source.map id) := rel_map reflexive
  rwa [Option.map_id] at mapped

/-- A related value is the image of the first one when the relation is a function. -/
theorem eq_map_of_rel {Source Image : Type} {relation : Source → Image → Prop}
    {function : Source → Image}
    (functional : ∀ source image, relation source image → image = function source)
    {source : Option Source} {image : Option Image} (related : Option.Rel relation source image) :
    image = source.map function := by
  cases related with
  | none => rfl
  | some related => rw [functional _ _ related, Option.map_some]

theorem mem_texts_of_tunnel {tunnel : Tunnel} {key : String}
    (found : parameters.tunnel = some tunnel) (stored : tunnel[key]? = some value) :
    value ∈ parameters.texts := by
  have entry : (key, value) ∈ tunnel.toList :=
    Std.ExtTreeMap.mem_toList_iff_getElem?_eq_some.mpr stored
  rw [Parameters.texts, Parameters.tunnelTexts, found]
  simp only [List.mem_append]
  exact .inl (.inl (List.mem_map_of_mem entry))

theorem mem_texts_of_additionalOptions (found : parameters.additionalOptions = some value) :
    value ∈ parameters.texts := by
  simp [Parameters.texts, found]

theorem AllSet.expandsTo (allSet : AllSet environment parameters.texts) :
    ExpandsTo environment parameters (parameters.expanded environment) where
  host := allSet.expands (by simp [Parameters.texts])
  database := allSet.expands (by simp [Parameters.texts])
  additionalOptions := by
    apply rel_map
    intro options found
    exact allSet.expands (mem_texts_of_additionalOptions found)
  tunnel := by
    apply rel_map
    intro tunnel found key
    rw [Std.ExtTreeMap.getElem?_map]
    apply rel_map
    intro value stored
    exact allSet.expands (mem_texts_of_tunnel found stored)
  port := rfl
  ssl := rfl

theorem Expands.eq (expands : Expands environment text value) : value = expanded environment text :=
  (expands_iff.mp expands).2

theorem ExpandsEach.eq {stored resolved : Tunnel} (each : ExpandsEach environment stored resolved) :
    resolved = stored.map fun _ value => expanded environment value := by
  apply Std.ExtTreeMap.ext_getElem?
  intro key
  rw [Std.ExtTreeMap.getElem?_map]
  exact eq_map_of_rel (fun _ _ expands => expands.eq) (each key)

/-- Nothing about the resolved parameters is left open. -/
theorem ExpandsTo.eq {resolved : Parameters} (expands : ExpandsTo environment parameters resolved) :
    resolved = parameters.expanded environment := by
  have tunnel := eq_map_of_rel (fun _ _ each => each.eq) expands.tunnel
  have additionalOptions := eq_map_of_rel (fun _ _ expands => expands.eq) expands.additionalOptions
  rw [Parameters.expanded, ← tunnel, ← expands.host.eq, ← expands.database.eq,
    ← additionalOptions, ← expands.port, ← expands.ssl]

/-- Parameters without dollar signs stay as they are. -/
theorem expandsTo_self (noDollar : ∀ text ∈ parameters.texts, '$' ∉ text.toList) :
    ExpandsTo environment parameters parameters := by
  have stays (text : String) (member : text ∈ parameters.texts) : Expands environment text text :=
    expand_of_not_mem (noDollar text member) environment
  constructor
  case host => exact stays _ (by simp [Parameters.texts])
  case database => exact stays _ (by simp [Parameters.texts])
  case additionalOptions =>
    apply rel_self
    intro options found
    exact stays options (mem_texts_of_additionalOptions found)
  case tunnel =>
    apply rel_self
    intro tunnel found key
    apply rel_self
    intro value stored
    exact stays value (mem_texts_of_tunnel found stored)
  case port => rfl
  case ssl => rfl

theorem allSet_of_noDollar (noDollar : ∀ text ∈ parameters.texts, '$' ∉ text.toList) :
    AllSet environment parameters.texts := by
  intro text member
  have kept : Expands environment text text := expand_of_not_mem (noDollar text member) environment
  exact unsetIn?_eq_none_iff.mp (expands_iff.mp kept).1

/-- Either all variables are set or there is a first one that is not. -/
theorem exists_isFirstUnset (unset : ¬ AllSet environment parameters.texts) :
    ∃ reference, IsFirstUnset environment parameters.texts reference := by
  rw [← unset?_eq_none_iff, ← ne_eq, Option.ne_none_iff_exists'] at unset
  obtain ⟨reference, found⟩ := unset
  exact ⟨reference, unset?_eq_some_iff.mp found⟩

end

/-- A stored connection is resolved by the expansion of its texts, when all variables in them are
set. Otherwise the failure names the first variable that is not. A resolution only reads the
settings, and of them only the connection of the given name. -/
theorem resolvedConnection_outcome (settings : Settings) (name : String)
    (environment : Environment) :
    (name ∉ settings.connections →
      settings.resolvedConnection environment name = .error (.connectionNotFound name)) ∧
    (∀ stored, settings.connections[name]? = some stored →
      (AllSet environment stored.texts →
        ∃ resolved, settings.resolvedConnection environment name = .ok resolved ∧
          ExpandsTo environment stored resolved) ∧
      (¬ AllSet environment stored.texts →
        ∃ reference, IsFirstUnset environment stored.texts reference) ∧
      (∀ reference, IsFirstUnset environment stored.texts reference ↔
        settings.resolvedConnection environment name = .error (.missingVariable reference)) ∧
      ((∀ text ∈ stored.texts, '$' ∉ text.toList) →
        settings.resolvedConnection environment name = .ok stored)) ∧
    ∀ other : Settings, other.connections[name]? = settings.connections[name]? →
      other.resolvedConnection environment name = settings.resolvedConnection environment name := by
  refine ⟨?_, ?_, ?_⟩
  · intro absent
    have missing : settings.connections[name]? = none := Std.ExtTreeMap.getElem?_eq_none absent
    rw [resolvedConnection_eq, missing]
  · intro stored found
    have outcome : settings.resolvedConnection environment name =
        unlessUnset (stored.unset? environment) (stored.expanded environment) := by
      rw [resolvedConnection_eq, found]
    have resolves (allSet : AllSet environment stored.texts) :
        settings.resolvedConnection environment name = .ok (stored.expanded environment) := by
      rw [outcome, unset?_eq_none_iff.mpr allSet, unlessUnset]
    refine ⟨?_, exists_isFirstUnset, ?_, ?_⟩
    · intro allSet
      exact ⟨_, resolves allSet, allSet.expandsTo⟩
    · intro reference
      rw [← unset?_eq_some_iff, outcome]
      cases stored.unset? environment with
      | none => simp [unlessUnset]
      | some first => simp [unlessUnset]
    · intro noDollar
      rw [resolves (allSet_of_noDollar noDollar), ← (expandsTo_self noDollar).eq]
  · intro other same
    rw [resolvedConnection_eq, resolvedConnection_eq, same]

/-- Every kind of text refers to variables, and the keys of the tunnel are not in order. -/
def tunnelledParameters : Parameters where
  host := "$HOST"
  port := some 21051
  database := "$\x7bDB\x7d"
  ssl := true
  additionalOptions := some "note=$5"
  tunnel := some (Std.ExtTreeMap.ofList [("ssh_user", "$USER"), ("ssh_host", "x$A$B")])

def tunnelledSettings : Settings where
  connections := Std.ExtTreeMap.ofList
    [("prod", tunnelledParameters), ("dev", { database := "sandbox" })]

/-- The values of the variables are not read again. -/
def tunnelledEnvironment : Environment :=
  .ofList [("USER", .text "me"), ("A", .text "-"), ("B", .text "$A"), ("HOST", .text "db"),
    ("DB", .text "sales"), ("5", .text "")]

def partialEnvironment : Environment :=
  .ofList [("USER", .text "me"), ("A", .text "-")]

theorem resolvedConnection_outcome_tunnelled :
    (AllSet tunnelledEnvironment tunnelledParameters.texts ∧
        ¬ AllSet partialEnvironment tunnelledParameters.texts ∧
        IsFirstUnset partialEnvironment tunnelledParameters.texts "B") ∧
      tunnelledSettings.resolvedConnection partialEnvironment "none" =
        .error (.connectionNotFound "none") ∧
      (∃ resolved,
        tunnelledSettings.resolvedConnection tunnelledEnvironment "prod" = .ok resolved ∧
          ExpandsTo tunnelledEnvironment tunnelledParameters resolved) ∧
      tunnelledSettings.resolvedConnection partialEnvironment "prod" =
        .error (.missingVariable "B") ∧
      tunnelledSettings.resolvedConnection partialEnvironment "dev" =
        .ok { database := "sandbox" } := by
  have allSet : AllSet tunnelledEnvironment tunnelledParameters.texts :=
    unset?_eq_none_iff.mp (by decide +kernel)
  have first : IsFirstUnset partialEnvironment tunnelledParameters.texts "B" :=
    unset?_eq_some_iff.mp (by decide +kernel)
  have unset : ¬ AllSet partialEnvironment tunnelledParameters.texts := by
    rw [← unset?_eq_none_iff, unset?_eq_some_iff.mpr first]
    exact Option.some_ne_none _
  have prod : tunnelledSettings.connections["prod"]? = some tunnelledParameters := rfl
  have dev : tunnelledSettings.connections["dev"]? = some { database := "sandbox" } := rfl
  have absent : "none" ∉ tunnelledSettings.connections := by
    simp [tunnelledSettings]
  obtain ⟨resolved, outcome, expands⟩ :=
    ((resolvedConnection_outcome tunnelledSettings "prod" tunnelledEnvironment).2.1 _ prod).1 allSet
  have failing :=
    (resolvedConnection_outcome tunnelledSettings "prod" partialEnvironment).2.1 _ prod
  have plain := (resolvedConnection_outcome tunnelledSettings "dev" partialEnvironment).2.1 _ dev
  refine ⟨⟨allSet, unset, first⟩, ?_, ⟨resolved, outcome, expands⟩, ?_, ?_⟩
  · exact (resolvedConnection_outcome tunnelledSettings "none" partialEnvironment).1 absent
  · exact (failing.2.2.1 "B").mp first
  · exact plain.2.2.2 (by decide)

end ImpalaAdapter.Settings
