/-
This file describes the parts of a connection string, and says when its path names no database.
-/

import ImpalaAdapter.Proofs.Connection.Build
import ImpalaAdapter.Proofs.Connection.OptionSpelling

namespace ImpalaAdapter.Connection

theorem cleanText_of_mem_knownKeys :
    ∀ known ∈ knownKeys, CleanText known ∧ '=' ∉ known.toList := by
  decide

theorem cleanOptions_options (parameters : Parameters) : CleanOptions parameters.options := by
  rw [Parameters.options]
  cases parameters.additionalOptions with
  | none => simp [CleanOptions]
  | some text => exact cleanOptions_readEntries _

/-- A canonical key is a clean one, and values stay as they were read. -/
theorem cleanOptions_canonicalOptions (parameters : Parameters) :
    CleanOptions (canonicalOptions parameters) := by
  intro option member
  rw [canonicalOptions_eq] at member
  obtain ⟨⟨written, value⟩, given, rfl⟩ := List.mem_map.mp member
  obtain ⟨cleanKey, cleanValue, noEquals⟩ := cleanOptions_options parameters _ given
  rcases canonicalKey_cases written with same | known
  · simp only [same]
    exact ⟨cleanKey, cleanValue, noEquals⟩
  · have cleanKnown := cleanText_of_mem_knownKeys _ known
    exact ⟨cleanKnown.1, cleanValue, cleanKnown.2⟩

/-- A clean text is blank only when it is empty. -/
theorem CleanText.isBlankText_iff {text : String} (clean : CleanText text) :
    Text.isBlankText text = true ↔ text = "" := by
  constructor
  · intro blank
    have nothing := clean.1.eq_nil (List.all_eq_true.mp blank)
    exact String.toList_injective nothing
  · rintro rfl
    rfl

namespace Descriptor

/-- The query has the merged properties other than the database. -/
theorem mem_queryProperties {descriptor : Descriptor} {key value : String} :
    (key, value) ∈ descriptor.queryProperties ↔
      key ≠ databaseKey ∧ descriptor.property? key = some value := by
  rw [queryProperties, List.mem_filter, Std.ExtTreeMap.mem_toList_iff_getElem?_eq_some, property?,
    and_comm]
  simp

theorem cleanOptions_presets (ssl : Bool) :
    CleanOptions (defaultProperties ++ [(sslKey, flagText ssl)]) := by
  cases ssl with
  | false => decide
  | true => decide

/-- Only the database can be unclean, since it is configured outside the options. -/
theorem cleanOptions_queryProperties (parameters : Parameters) :
    CleanOptions (ofParameters parameters).queryProperties := by
  rintro ⟨key, value⟩ member
  obtain ⟨other, found⟩ := mem_queryProperties.mp member
  rw [property?, properties_ofParameters, getElem?_mergeProperties] at found
  rcases List.mem_append.mp (mem_of_lastValue? found) with isPreset | isOption
  · apply cleanOptions_presets (ofParameters parameters).ssl
    simp only [List.mem_append, List.mem_cons, Prod.mk.injEq, List.not_mem_nil,
      or_false] at isPreset ⊢
    tauto
  · exact cleanOptions_canonicalOptions parameters _ isOption

/-- The SSL property is never missing. -/
theorem queryProperties_ofParameters_ne_nil (parameters : Parameters) :
    (ofParameters parameters).queryProperties ≠ [] := by
  have preset : presetValue? parameters.database (ofParameters parameters).ssl sslKey =
      some (flagText (ofParameters parameters).ssl) := rfl
  obtain ⟨value, found⟩ : ∃ value, (ofParameters parameters).property? sslKey = some value := by
    rw [property?_ofParameters, preset]
    cases lastValue? (canonicalOptions parameters) sslKey <;> simp
  exact List.ne_nil_of_mem (mem_queryProperties.mpr ⟨by decide, found⟩)

/-- The last option for the database replaces the configured database. -/
theorem property?_databaseKey (parameters : Parameters) :
    (ofParameters parameters).property? databaseKey =
      some ((lastValue? (canonicalOptions parameters) databaseKey).getD parameters.database) := by
  have preset : presetValue? parameters.database (ofParameters parameters).ssl databaseKey =
      some parameters.database := rfl
  rw [property?_ofParameters, preset]
  cases lastValue? (canonicalOptions parameters) databaseKey <;> rfl

/-- Every connection string has a path and a query. -/
theorem connectionString_ofParameters {parameters : Parameters} {database : String}
    (path : (ofParameters parameters).property? databaseKey = some database) :
    (ofParameters parameters).connectionString =
      "impala://" ++ (ofParameters parameters).host ++ ":" ++
        toString (ofParameters parameters).port.toNat ++ "/" ++ database ++ "?" ++
        (ofParameters parameters).queryText := by
  have query : (ofParameters parameters).queryProperties.isEmpty = false :=
    List.isEmpty_eq_false_iff.mpr (queryProperties_ofParameters_ne_nil parameters)
  simp only [connectionString, path, query, Option.getD_some, String.append_assoc,
    Bool.false_eq_true, if_false]

/-- The path of a connection string is blank exactly when the last option for the database has no
value, whatever the configured database. -/
theorem isBlankText_path_iff {parameters : Parameters} {advised : Advised Descriptor}
    {events : List Event} (built : build parameters = .ok (advised, events)) :
    ∃ database, advised.value.property? databaseKey = some database ∧
      advised.value.connectionString =
        "impala://" ++ advised.value.host ++ ":" ++ toString advised.value.port.toNat ++ "/" ++
          database ++ "?" ++ advised.value.queryText ∧
      (Text.isBlankText database = true ↔
        lastValue? (canonicalOptions parameters) databaseKey = some "") := by
  obtain ⟨named, described⟩ := build_eq_ok built
  rw [described]
  have path := property?_databaseKey parameters
  refine ⟨_, path, connectionString_ofParameters path, ?_⟩
  cases last : lastValue? (canonicalOptions parameters) databaseKey with
  | none => simp [named]
  | some value =>
      have clean := (cleanOptions_canonicalOptions parameters _ (mem_of_lastValue? last)).2.1
      rw [Option.getD_some, clean.isBlankText_iff, Option.some.injEq]

/-- The first option for the database has no value, and the last one names it in another case. -/
def renamed : Parameters where
  host := "h"
  database := "sales"
  additionalOptions := some "database=;DATABASE = d w "

theorem isBlankText_path_renamed :
    ∃ advised events, build renamed = .ok (advised, events) ∧
      advised.value.property? databaseKey = some "d w" ∧
      Text.isBlankText "d w" = false := by
  have built := build_named (by decide : Text.isBlankText renamed.database = false)
  have last : lastValue? (canonicalOptions renamed) databaseKey = some "d w" := by
    decide
  have path : (ofParameters renamed).property? databaseKey = some "d w" := by
    rw [property?_databaseKey, last]
    rfl
  obtain ⟨database, found, _, blank⟩ := isBlankText_path_iff built
  obtain rfl : "d w" = database := Option.some.inj (path.symm.trans found)
  refine ⟨_, _, built, path, eq_false_of_ne_true ?_⟩
  intro isBlank
  exact absurd (last.symm.trans (blank.mp isBlank)) (by decide)

/-- The only option takes the name of the database away. -/
def nameless : Parameters where
  host := "h"
  database := "sales"
  additionalOptions := some "database="

/-- These parameters are accepted, and their connection string has an empty path. -/
theorem nameless_path :
    ∃ advised events, build nameless = .ok (advised, events) ∧
      advised.value.property? databaseKey = some "" ∧ Text.isBlankText "" = true ∧
      advised.value.connectionString = "impala://h:21050/?characterEncoding=UTF8" ++
        "&useCompression=true&useSSL=false&useUnicode=true&zeroDateTimeBehavior=convertToNull" := by
  have last : lastValue? (canonicalOptions nameless) databaseKey = some "" := by
    decide
  refine ⟨_, _, build_named (by decide), ?_, by decide, by decide⟩
  rw [property?_databaseKey, last]
  rfl

end Descriptor

end ImpalaAdapter.Connection
