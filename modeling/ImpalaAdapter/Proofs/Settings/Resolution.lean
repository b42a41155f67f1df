/-
This file says which texts of a connection are expanded, and which of them fails first.
-/

import ImpalaAdapter.Proofs.Settings.Expansion
import ImpalaAdapter.Settings.Resolve

namespace ImpalaAdapter

/-- A table is made again of its own entries. -/
theorem NameTable.ofList_toList {Entry : Type} (table : NameTable Entry) :
    Std.ExtTreeMap.ofList table.toList = table := by
  apply Std.ExtTreeMap.ext_getElem?
  intro name
  cases found : table[name]? with
  | some entry =>
      apply Std.ExtTreeMap.getElem?_ofList_of_mem Std.ReflCmp.compare_self
        Std.ExtTreeMap.distinct_keys_toList
      exact Std.ExtTreeMap.mem_toList_iff_getElem?_eq_some.mpr found
  | none =>
      apply Std.ExtTreeMap.getElem?_ofList_of_contains_eq_false
      rw [Std.ExtTreeMap.map_fst_toList_eq_keys, ← Bool.not_eq_true, List.contains_iff_mem,
        Std.ExtTreeMap.mem_keys, Std.ExtTreeMap.mem_iff_isSome_getElem?, found]
      simp

namespace Settings

/-- A value is there unless a variable that it needs cannot be read. -/
def unlessUnset {Value : Type} (unset : Option String) (value : Value) :
    Except SettingsError Value :=
  match unset with
  | some name => .error (.missingVariable name)
  | none => .ok value

/-- Values come one after another, up to the first one that is not there. -/
theorem mapM_unlessUnset {Item Value : Type} (unset : Item → Option String) (value : Item → Value)
    (items : List Item) :
    items.mapM (fun item => unlessUnset (unset item) (value item)) =
      unlessUnset (items.findSome? unset) (items.map value) := by
  induction items with
  | nil => rfl
  | cons item others inductionHypothesis =>
      rw [List.mapM_cons, inductionHypothesis, List.findSome?_cons]
      cases unset item with
      | some name => rfl
      | none => cases others.findSome? unset <;> rfl

/-- The leftmost reference in a text to a variable that cannot be read. -/
def unsetIn? (environment : Environment) (text : String) : Option String :=
  firstUnset? environment (segments text.toList)

/-- Each reference in the text is replaced by the value of its variable. -/
def expanded (environment : Environment) (text : String) : String :=
  String.ofList ((segments text.toList).flatMap (Segment.replacement environment))

section
variable (environment : Environment)

theorem expand_unlessUnset (text : String) :
    expand environment text =
      unlessUnset (unsetIn? environment text) (expanded environment text) :=
  expand_eq environment text

theorem expandTunnel_eq (tunnel : Connection.Tunnel) :
    expandTunnel environment tunnel =
      unlessUnset ((tunnel.toList.map Prod.snd).findSome? (unsetIn? environment))
        (tunnel.map fun _ value => expanded environment value) := by
  have each : (fun (entry : String × String) => do
        let value ← expand environment entry.2
        pure (entry.1, value)) =
      fun entry => unlessUnset (unsetIn? environment entry.2)
        (entry.1, expanded environment entry.2) := by
    funext entry
    rw [expand_unlessUnset]
    cases unsetIn? environment entry.2 <;> rfl
  have entries := mapM_unlessUnset (fun entry : String × String => unsetIn? environment entry.2)
    (fun entry => (entry.1, expanded environment entry.2)) tunnel.toList
  rw [← each, ← Std.ExtTreeMap.toList_map (f := fun _ value => expanded environment value)]
    at entries
  rw [expandTunnel, List.findSome?_map]
  show (tunnel.toList.mapM _ >>= _) =
    unlessUnset (tunnel.toList.findSome? fun entry => unsetIn? environment entry.2) _
  rw [entries]
  cases tunnel.toList.findSome? fun entry => unsetIn? environment entry.2 with
  | some name => rfl
  | none => exact congrArg Except.ok (NameTable.ofList_toList _)

end

/-- A text that is absent is expanded to no text. -/
theorem expandOptional_eq {Text : Type} {expansion : Text → Except SettingsError Text}
    {unset : Text → Option String} {value : Text → Text}
    (each : ∀ text, expansion text = unlessUnset (unset text) (value text)) (text : Option Text) :
    expandOptional expansion text = unlessUnset (text.bind unset) (text.map value) := by
  cases text with
  | none => rfl
  | some text =>
      rw [expandOptional, each, Option.bind_some, Option.map_some]
      cases unset text <;> rfl

end Settings

namespace Connection.Parameters

open Settings

/-- The values of a tunnel come in the order of their keys. -/
def tunnelTexts (parameters : Parameters) : List String :=
  match parameters.tunnel with
  | some tunnel => tunnel.toList.map Prod.snd
  | none => []

/-- The texts that can refer to variables, in the order in which they are expanded. -/
def texts (parameters : Parameters) : List String :=
  parameters.tunnelTexts ++ [parameters.host, parameters.database] ++
    parameters.additionalOptions.toList

variable (environment : Environment) (parameters : Parameters)

/-- The leftmost reference in the first text that refers to a variable that cannot be read. -/
def unset? : Option String :=
  parameters.texts.findSome? (unsetIn? environment)

/-- Only the texts are expanded. -/
def expanded : Parameters where
  host := Settings.expanded environment parameters.host
  port := parameters.port
  database := Settings.expanded environment parameters.database
  ssl := parameters.ssl
  additionalOptions := parameters.additionalOptions.map (Settings.expanded environment)
  tunnel := parameters.tunnel.map fun tunnel =>
    tunnel.map fun _ value => Settings.expanded environment value

end Connection.Parameters

namespace Settings

open Connection

theorem expandParameters_eq (environment : Environment) (parameters : Parameters) :
    expandParameters environment parameters =
      unlessUnset (parameters.unset? environment) (parameters.expanded environment) := by
  have tunnelUnset : parameters.tunnelTexts.findSome? (unsetIn? environment) =
      parameters.tunnel.bind fun tunnel =>
        (tunnel.toList.map Prod.snd).findSome? (unsetIn? environment) := by
    rw [Parameters.tunnelTexts]
    cases parameters.tunnel <;> rfl
  have optionsUnset : parameters.additionalOptions.toList.findSome? (unsetIn? environment) =
      parameters.additionalOptions.bind (unsetIn? environment) := by
    cases parameters.additionalOptions <;> simp
  rw [expandParameters, expandOptional_eq (expandTunnel_eq environment),
    expandOptional_eq (expand_unlessUnset environment), expand_unlessUnset, expand_unlessUnset,
    Parameters.unset?, Parameters.texts, List.findSome?_append, List.findSome?_append,
    tunnelUnset, optionsUnset, List.findSome?_cons, List.findSome?_cons, List.findSome?_nil]
  cases parameters.tunnel.bind fun tunnel =>
      (tunnel.toList.map Prod.snd).findSome? (unsetIn? environment) with
  | some name => rfl
  | none =>
      cases unsetIn? environment parameters.host with
      | some name => rfl
      | none =>
          cases unsetIn? environment parameters.database with
          | some name => rfl
          | none => cases parameters.additionalOptions.bind (unsetIn? environment) <;> rfl

theorem resolvedConnection_eq (settings : Settings) (environment : Environment) (name : String) :
    settings.resolvedConnection environment name =
      match settings.connections[name]? with
      | none => .error (.connectionNotFound name)
      | some stored => unlessUnset (stored.unset? environment) (stored.expanded environment) := by
  rw [resolvedConnection, connection]
  cases settings.connections[name]? with
  | none => rfl
  | some stored => exact expandParameters_eq environment stored

end Settings

end ImpalaAdapter
