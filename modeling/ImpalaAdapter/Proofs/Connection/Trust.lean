/-
This file adds an option about the server certificate to the parameters of a connection, and shows
that it takes the advisory away and changes nothing else.
-/

import ImpalaAdapter.Proofs.Connection.ConnectionString

namespace ImpalaAdapter.Connection

open Text

/-- One more option is written behind the others, with a semicolon between them. -/
def Parameters.withOption (parameters : Parameters) (key value : String) : Parameters :=
  let entry := key ++ "=" ++ value
  { parameters with
    additionalOptions := some <|
      match parameters.additionalOptions with
      | some text => text ++ ";" ++ entry
      | none => entry }

/-- A plain key is read back as it is written, also at the start of a text. -/
structure PlainKey (key : String) : Prop where
  clean : CleanText key
  noEquals : '=' ∉ key.toList
  unmarked : key.toList.head? ≠ some '?'

variable {key value known : String}

/-- A character without case stands in a key when it stands in a spelling of it. -/
theorem mem_of_spelled (spelled : equalsIgnoringCase known key = true) {character : Char}
    (caseless : character.toLower = character) (member : character ∈ key.toList) :
    character ∈ known.toList.map Char.toLower := by
  rw [equalsIgnoringCase, beq_iff_eq] at spelled
  rw [spelled, ← caseless]
  exact List.mem_map_of_mem member

/-- The known keys have letters only, and so has every spelling of them. -/
theorem plainKey_of_spelled (isKnown : known ∈ knownKeys)
    (spelled : equalsIgnoringCase known key = true) : PlainKey key := by
  have letters : ∀ known ∈ knownKeys, (known.toList.map Char.toLower).all fun character =>
      !isBlank character && !(character ∈ [';', '&', '=', '?']) := by
    decide
  have absent {mark : Char} (caseless : mark.toLower = mark)
      (isMark : mark ∈ [';', '&', '=', '?']) : mark ∉ key.toList := by
    intro member
    have standing := List.all_eq_true.mp (letters known isKnown) mark
      (mem_of_spelled spelled caseless member)
    simp [isMark] at standing
  have solid (character : Char) (member : character ∈ key.toList) : isBlank character = false := by
    apply eq_false_of_ne_true
    intro blank
    have standing := List.all_eq_true.mp (letters known isKnown) character
      (mem_of_spelled spelled (toLower_of_isBlank blank) member)
    simp [blank] at standing
  refine ⟨⟨⟨?_, ?_⟩, absent rfl (by simp), absent rfl (by simp)⟩, absent rfl (by simp), ?_⟩
  · intro character first
    exact solid character (List.mem_of_mem_head? first)
  · intro character last
    exact solid character (List.mem_of_mem_getLast? last)
  · intro marked
    exact absent (rfl : '?'.toLower = '?') (by simp) (List.mem_of_mem_head? marked)

theorem toList_entry (key value : String) :
    (key ++ "=" ++ value).toList = key.toList ++ '=' :: value.toList := by
  simp

/-- An entry of its own is read as its option, with the value trimmed. -/
theorem readEntries_plain (plain : PlainKey key)
    (clear : ∀ character ∈ value.toList, separatesOptions character = false) :
    readEntries (key ++ "=" ++ value).toList = [(key, Text.trimmed value)] := by
  have clearEntry : ∀ character ∈ key.toList ++ '=' :: value.toList,
      separatesOptions character = false := by
    rw [List.forall_mem_append, List.forall_mem_cons]
    exact ⟨clear_iff.mpr plain.clean.2, by decide, clear⟩
  rw [toList_entry, readEntries_pair plain.noEquals clearEntry, trim_of_isTrimmed plain.clean.1,
    String.ofList_toList, Text.trimmed]

/-- An entry starts with its key, or with the equals sign behind an empty key. -/
theorem head?_trimStart_plain (plain : PlainKey key) (value : String) :
    (trimStart (key ++ "=" ++ value).toList).head? ≠ some '?' := by
  have unmarked := plain.unmarked
  rw [toList_entry, trimStart_append_cons (by decide), trimStart_of_isTrimmed plain.clean.1]
  cases opening : key.toList with
  | nil => simp
  | cons first rest => simpa [opening] using unmarked

/-- The new option is read last, whatever the text before it. -/
theorem options_withOption (parameters : Parameters) (plain : PlainKey key)
    (clear : ∀ character ∈ value.toList, separatesOptions character = false) :
    (parameters.withOption key value).options =
      parameters.options ++ [(key, Text.trimmed value)] := by
  have entry := readEntries_plain plain clear
  cases given : parameters.additionalOptions with
  | none =>
      simp only [Parameters.options, Parameters.withOption, given, Option.map_some,
        Option.getD_some, Option.map_none, Option.getD_none, List.nil_append]
      rw [readOptions_of_unmarked (head?_trimStart_plain plain value), entry]
  | some text =>
      have letters : text ++ ";" ++ (key ++ "=" ++ value) =
          String.ofList (text.toList ++ ';' :: (key ++ "=" ++ value).toList) := by
        apply String.toList_injective
        simp
      simp only [Parameters.options, Parameters.withOption, given, Option.map_some,
        Option.getD_some]
      rw [letters, readOptions_append_separator (by decide), String.ofList_toList, entry]

namespace Descriptor

section
variable (parameters : Parameters) (spelled : equalsIgnoringCase trustKey key = true)
  (clear : ∀ character ∈ value.toList, separatesOptions character = false)
include spelled clear

/-- Every spelling of the trust key gives one more option with that key. -/
theorem canonicalOptions_withTrust :
    canonicalOptions (parameters.withOption key value) =
      canonicalOptions parameters ++ [(trustKey, Text.trimmed value)] := by
  have isKnown : trustKey ∈ knownKeys := by decide
  have options := options_withOption parameters (plainKey_of_spelled isKnown spelled) clear
  simp only [canonicalOptions_eq, options, List.map_append, List.map_cons, List.map_nil,
    canonicalKey_eq isKnown spelled]

/-- The trust key says nothing about SSL. -/
theorem ssl_withTrust :
    (ofParameters (parameters.withOption key value)).ssl = (ofParameters parameters).ssl := by
  have other : enablesSsl (trustKey, Text.trimmed value) = false := by
    have different : (trustKey == sslKey) = false := by decide
    rw [enablesSsl, different, Bool.false_and]
  simp only [ofParameters, canonicalOptions_withTrust parameters spelled clear, List.any_append,
    List.any_cons, List.any_nil, other, Bool.or_false]
  rfl

/-- No field changes but the properties. -/
theorem ofParameters_withTrust :
    ofParameters (parameters.withOption key value) =
      { ofParameters parameters with
        properties := (ofParameters (parameters.withOption key value)).properties } :=
  ofParameters_congr rfl rfl rfl (ssl_withTrust parameters spelled clear)

/-- The option comes last, so its value decides. -/
theorem property?_withTrust (name : String) :
    (ofParameters (parameters.withOption key value)).property? name =
      if name = trustKey then some (Text.trimmed value)
      else (ofParameters parameters).property? name := by
  have database : (parameters.withOption key value).database = parameters.database := rfl
  rw [property?_ofParameters, property?_ofParameters, ssl_withTrust parameters spelled clear,
    canonicalOptions_withTrust parameters spelled clear, lastValue?_append, lastValue?_cons,
    database]
  by_cases same : name = trustKey
  · simp [same, lastValue?]
  · simp [same, Ne.symm same, lastValue?]

theorem raisedAdvisories_withTrust :
    raisedAdvisories (parameters.withOption key value) = [] := by
  rw [raisedAdvisories, canonicalOptions_withTrust parameters spelled clear]
  simp

end

variable {parameters : Parameters}

/-- An option is about the server certificate when its key, as written, is a spelling of the trust
key. -/
theorem trustKey_mem_iff : trustKey ∈ (canonicalOptions parameters).map Prod.fst ↔
    ∃ option ∈ parameters.options, canonicalKey option.1 = trustKey := by
  rw [map_fst_canonicalOptions]
  simp

theorem raisedAdvisories_of_open (encrypted : (ofParameters parameters).ssl = true)
    (silent : ∀ option ∈ parameters.options, canonicalKey option.1 ≠ trustKey) :
    raisedAdvisories parameters = [.untrustedServerCertificate] := by
  have absent : trustKey ∉ (canonicalOptions parameters).map Prod.fst := by
    rw [trustKey_mem_iff]
    rintro ⟨option, member, spelled⟩
    exact silent option member spelled
  rw [raisedAdvisories, if_pos ⟨encrypted, absent⟩]

theorem raisedAdvisories_of_settled (settled : ¬ ((ofParameters parameters).ssl = true ∧
    ∀ option ∈ parameters.options, canonicalKey option.1 ≠ trustKey)) :
    raisedAdvisories parameters = [] := by
  rw [raisedAdvisories, if_neg]
  rintro ⟨encrypted, absent⟩
  refine settled ⟨encrypted, ?_⟩
  intro option member spelled
  exact absent (trustKey_mem_iff.mpr ⟨option, member, spelled⟩)

/-- There is one advisory when SSL is on and no option is about the server certificate, and none
otherwise. Such an option, in any case of its key, takes the advisory away and sets its property to
its trimmed value, whatever the options before it. Nothing else changes. -/
theorem build_withTrust {advised : Advised Descriptor} {events : List Event}
    (built : build parameters = .ok (advised, events)) :
    (advised.value.ssl = true ∧
        (∀ option ∈ parameters.options, canonicalKey option.1 ≠ trustKey) →
      advised.advisories = [.untrustedServerCertificate]) ∧
    (¬ (advised.value.ssl = true ∧
        ∀ option ∈ parameters.options, canonicalKey option.1 ≠ trustKey) →
      advised.advisories = []) ∧
    ∀ key value, equalsIgnoringCase trustKey key = true → ';' ∉ value.toList →
      '&' ∉ value.toList →
        ∃ trusted trustedEvents,
          build (parameters.withOption key value) = .ok (trusted, trustedEvents) ∧
          trusted.advisories = [] ∧
          trusted.value = { advised.value with properties := trusted.value.properties } ∧
          ∀ name, trusted.value.property? name =
            if name = trustKey then some (Text.trimmed value)
            else advised.value.property? name := by
  obtain ⟨named, rfl, _⟩ := eq_of_build_eq_ok built
  refine ⟨?_, raisedAdvisories_of_settled, ?_⟩
  · rintro ⟨encrypted, silent⟩
    exact raisedAdvisories_of_open encrypted silent
  · intro key value spelled noSemicolon noAmpersand
    have clear := clear_iff.mpr ⟨noSemicolon, noAmpersand⟩
    have rebuilt : build (parameters.withOption key value) = _ := build_named named
    exact ⟨_, _, rebuilt, raisedAdvisories_withTrust parameters spelled clear,
      ofParameters_withTrust parameters spelled clear,
      property?_withTrust parameters spelled clear⟩

/-- The text of these options has question marks at its start, an empty key and an open end. -/
def unsettled : Parameters where
  host := "h"
  database := "sales"
  additionalOptions := some " ??useSsl = TRUE; =x &; trust=1 ; "

theorem build_withTrust_unsettled :
    ∃ advised events, build unsettled = .ok (advised, events) ∧
      advised.advisories = [.untrustedServerCertificate] ∧
      ∃ trusted trustedEvents,
        build (unsettled.withOption "TRUSTserverCertificate" " no = x ") =
          .ok (trusted, trustedEvents) ∧
        trusted.advisories = [] ∧ trusted.value.ssl = true ∧
        trusted.value.property? trustKey = some "no = x" ∧
        trusted.value.property? "trust" = some "1" := by
  have built := build_named (by decide : Text.isBlankText unsettled.database = false)
  have encrypted : (ofParameters unsettled).ssl = true := by decide
  obtain ⟨raised, _, settle⟩ := build_withTrust built
  obtain ⟨trusted, trustedEvents, rebuilt, silent, kept, property⟩ :=
    settle "TRUSTserverCertificate" " no = x " (by decide) (by decide) (by decide)
  refine ⟨_, _, built, raised ⟨encrypted, by decide⟩, trusted, trustedEvents, rebuilt, silent, ?_,
    ?_, ?_⟩
  · rw [kept]
    exact encrypted
  · rw [property, if_pos rfl]
    decide
  · rw [property, if_neg (by decide)]
    decide

end Descriptor

end ImpalaAdapter.Connection
