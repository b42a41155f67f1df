/-
This file gives the descriptor that is built from parameters, property by property.
-/

import ImpalaAdapter.Proofs.Connection.Merge

namespace ImpalaAdapter.Connection

/-- The options as they were read, with the keys as they were written. -/
def Parameters.options (parameters : Parameters) : List (String × String) :=
  (parameters.additionalOptions.map readOptions).getD []

theorem canonicalOptions_eq (parameters : Parameters) :
    canonicalOptions parameters =
      parameters.options.map fun (key, value) => (canonicalKey key, value) :=
  rfl

/-- Each key is made canonical without its value. -/
theorem map_fst_canonicalOptions (parameters : Parameters) :
    (canonicalOptions parameters).map Prod.fst =
      (parameters.options.map Prod.fst).map canonicalKey := by
  rw [canonicalOptions_eq, List.map_map, List.map_map]
  rfl

namespace Descriptor

attribute [ext] Descriptor

/-- An option turns SSL on with any spelling of `true`. -/
theorem ssl_ofParameters_iff (parameters : Parameters) :
    (ofParameters parameters).ssl = true ↔ parameters.ssl = true ∨
      ∃ value, (sslKey, value) ∈ canonicalOptions parameters ∧
        Text.equalsIgnoringCase value "true" = true := by
  simp only [ofParameters, Bool.or_eq_true, List.any_eq_true, enablesSsl, Bool.and_eq_true,
    beq_iff_eq]
  grind

/-- Parameters with the same address, database and effective SSL flag give descriptors that differ
at most in their properties and tunnels. -/
theorem ofParameters_congr {first second : Parameters} (host : first.host = second.host)
    (port : first.port = second.port) (database : first.database = second.database)
    (effective : (ofParameters first).ssl = (ofParameters second).ssl) :
    ofParameters first =
      { ofParameters second with
        properties := (ofParameters first).properties
        tunnel := first.tunnel } := by
  apply Descriptor.ext
  case host => simp only [ofParameters, host]
  case port => simp only [ofParameters, port]
  case database => simp only [ofParameters, database]
  case ssl => exact effective
  case properties => simp only
  case tunnel => simp only [ofParameters]

/-- The value that a property has when no option sets it. -/
def presetValue? (database : String) (ssl : Bool) (key : String) : Option String :=
  if key = databaseKey then some database
  else if key = sslKey then some (flagText ssl)
  else defaultProperties.lookup key

theorem lastValue?_presets (database : String) (ssl : Bool) (key : String) :
    lastValue? (defaultProperties ++ [(sslKey, flagText ssl), (databaseKey, database)]) key =
      presetValue? database ssl key := by
  have once : lastValue? defaultProperties key = defaultProperties.lookup key := by
    simp only [defaultProperties, lastValue?_cons, List.lookup_cons]
    grind [lastValue?]
  rw [lastValue?_append, once, lastValue?_cons, lastValue?_cons, presetValue?]
  grind [lastValue?]

theorem properties_ofParameters (parameters : Parameters) :
    (ofParameters parameters).properties = mergeProperties (defaultProperties ++
      [(sslKey, flagText (ofParameters parameters).ssl), (databaseKey, parameters.database)] ++
      canonicalOptions parameters) := by
  simp only [ofParameters]

theorem property?_ofParameters (parameters : Parameters) (key : String) :
    (ofParameters parameters).property? key =
      (lastValue? (canonicalOptions parameters) key).or
        (presetValue? parameters.database (ofParameters parameters).ssl key) := by
  rw [property?, properties_ofParameters, getElem?_mergeProperties, lastValue?_append,
    lastValue?_presets]

/-- SSL raises an advisory when no option is about the server certificate. -/
def raisedAdvisories (parameters : Parameters) : List Advisory :=
  if (ofParameters parameters).ssl ∧ trustKey ∉ (canonicalOptions parameters).map Prod.fst then
    [.untrustedServerCertificate]
  else []

/-- Parameters with a database build their descriptor, and each advisory is one more event. -/
theorem build_named {parameters : Parameters}
    (named : Text.isBlankText parameters.database = false) :
    build parameters = .ok
      ({ value := ofParameters parameters, advisories := raisedAdvisories parameters },
        (ofParameters parameters).builtEvent ((canonicalOptions parameters).map Prod.fst) ::
          (raisedAdvisories parameters).map Advisory.event) := by
  unfold build raisedAdvisories
  rw [named]
  by_cases raised : (ofParameters parameters).ssl ∧
    trustKey ∉ (canonicalOptions parameters).map Prod.fst
  · simp [raised.1, raised.2, Advised.raise]
  · have silent : ((ofParameters parameters).ssl &&
        !((canonicalOptions parameters).map Prod.fst).contains trustKey) = false := by
      simpa using raised
    simp only [silent, if_neg raised]
    rfl

/-- A build that succeeds had a database, and its result is the one that the parameters say. -/
theorem eq_of_build_eq_ok {parameters : Parameters} {advised : Advised Descriptor}
    {events : List Event} (built : build parameters = .ok (advised, events)) :
    Text.isBlankText parameters.database = false ∧
      advised = { value := ofParameters parameters, advisories := raisedAdvisories parameters } ∧
      events = (ofParameters parameters).builtEvent ((canonicalOptions parameters).map Prod.fst) ::
        (raisedAdvisories parameters).map Advisory.event := by
  cases named : Text.isBlankText parameters.database with
  | true => simp [build, named] at built
  | false =>
      rw [build_named named] at built
      obtain ⟨same, sameEvents⟩ := Prod.mk.inj (Except.ok.inj built)
      exact ⟨rfl, same.symm, sameEvents.symm⟩

/-- A build raises no other advisory than the one about the server certificate. -/
theorem untrusted_of_build {parameters : Parameters} {advised : Advised Descriptor}
    {events : List Event} (built : build parameters = .ok (advised, events)) :
    ∀ advisory ∈ advised.advisories, advisory = .untrustedServerCertificate := by
  obtain ⟨_, rfl, _⟩ := eq_of_build_eq_ok built
  intro advisory raised
  rw [raisedAdvisories] at raised
  split at raised
  · exact List.mem_singleton.mp raised
  · cases raised

theorem build_eq_ok {parameters : Parameters} {advised : Advised Descriptor} {events : List Event}
    (built : build parameters = .ok (advised, events)) :
    Text.isBlankText parameters.database = false ∧ advised.value = ofParameters parameters := by
  obtain ⟨named, described, _⟩ := eq_of_build_eq_ok built
  exact ⟨named, by rw [described]⟩

/-- These options repeat known keys in several spellings, and one of them has no value. -/
def repeatedOptions : Parameters where
  host := "impala"
  database := "sales"
  additionalOptions := some " ?useSSL=no; USESSL = TRUE&Database=dw;;CharacterEncoding;x=1=2&x=;X=3"

theorem canonicalOptions_repeatedOptions :
    canonicalOptions repeatedOptions = [("useSSL", "no"), ("useSSL", "TRUE"), ("database", "dw"),
      ("characterEncoding", ""), ("x", "1=2"), ("x", ""), ("X", "3")] := by
  decide +kernel

end Descriptor

end ImpalaAdapter.Connection
