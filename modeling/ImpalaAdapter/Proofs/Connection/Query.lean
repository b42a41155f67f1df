/-
This file reads the query of a connection string back as options.
-/

import ImpalaAdapter.Proofs.Connection.ConnectionString
import Mathlib.Data.String.Basic
import Mathlib.Order.Bounds.Basic

namespace ImpalaAdapter.Connection

open Text

variable {first others : List (String × String)} {entry : List Char} {key value : String}

/-- A key that stands first in a text is read without its question marks and without the blanks
that follow them. -/
def bareKey (key : String) : String :=
  String.ofList (trim (dropQuestionMarks key.toList))

theorem bareKey_of_unmarked (trimmed : IsTrimmed key.toList)
    (unmarked : key.toList.head? ≠ some '?') : bareKey key = key := by
  rw [bareKey, dropQuestionMarks_of_head? unmarked, trim_of_isTrimmed trimmed, String.ofList_toList]

/-- What is left of a key with question marks is shorter, even when the rest has more of them. -/
theorem bareKey_of_marked (marked : key.toList.head? = some '?') : bareKey key ≠ key := by
  obtain ⟨rest, letters⟩ := List.head?_eq_some_iff.mp marked
  have dropped : dropQuestionMarks key.toList = dropQuestionMarks rest := by
    rw [letters]
    rfl
  have shorter : (trim (dropQuestionMarks rest)).length ≤ rest.length :=
    (length_trim_le _).trans (List.dropWhile_sublist _).length_le
  intro same
  have unchanged := congrArg String.toList same
  rw [bareKey, String.toList_ofList, dropped, letters] at unchanged
  rw [unchanged, List.length_cons] at shorter
  omega

theorem bareKey_eq_iff (trimmed : IsTrimmed key.toList) :
    bareKey key = key ↔ key.toList.head? ≠ some '?' := by
  constructor
  · intro same marked
    exact bareKey_of_marked marked same
  · exact bareKey_of_unmarked trimmed

/-- Taking letters away from a clean key leaves a clean key. -/
theorem cleanText_bareKey (clean : CleanText key) (noEquals : '=' ∉ key.toList) :
    CleanText (bareKey key) ∧ '=' ∉ (bareKey key).toList := by
  have kept {character : Char} (member : character ∈ dropQuestionMarks key.toList) :
      character ∈ key.toList := (List.dropWhile_sublist _).subset member
  constructor
  · apply cleanText_trim
    intro character member
    exact clear_iff.mpr clean.2 character (kept member)
  · rw [bareKey, String.toList_ofList]
    intro member
    exact noEquals (kept (mem_of_mem_trim member))

/-- A query has an ampersand before each of its further entries. -/
def furtherEntries (properties : List (String × String)) : List Char :=
  properties.flatMap fun property => '&' :: (property.1.toList ++ '=' :: property.2.toList)

theorem toList_intercalate_entries (key value : String) (others : List (String × String)) :
    ("&".intercalate (((key, value) :: others).map fun (key, value) =>
      key ++ "=" ++ value)).toList =
      key.toList ++ '=' :: (value.toList ++ furtherEntries others) := by
  induction others generalizing key value with
  | nil => simp [furtherEntries]
  | cons option others inductionHypothesis =>
      have further := inductionHypothesis option.1 option.2
      simp only [List.map_cons] at further ⊢
      rw [String.intercalate_cons_cons, String.toList_append, further]
      simp [furtherEntries]

/-- Whatever the first entry spells, the further entries spell their properties. -/
theorem spellsEntries_furtherEntries (spells : SpellsEntry first entry)
    (others : List (String × String)) :
    SpellsEntries (first ++ others) (entry ++ furtherEntries others) := by
  induction others generalizing first entry with
  | nil => simpa [furtherEntries] using SpellsEntries.single spells
  | cons option others inductionHypothesis =>
      have further := inductionHypothesis
        (.option option.1 option.2 (padded_self option.1.toList) (padded_self option.2.toList))
      simpa [furtherEntries] using SpellsEntries.cons spells (.inr rfl) further

/-- The blanks around the first key are not read. -/
theorem readEntries_furtherEntries {written : List Char} (padded : Padded key.toList written)
    (clean : CleanOptions ((key, value) :: others)) :
    readEntries (written ++ '=' :: (value.toList ++ furtherEntries others)) =
      (key, value) :: others := by
  have spells := spellsEntries_furtherEntries
    (.option key value padded (padded_self value.toList)) others
  exact readEntries_of_spellsEntries clean (by simpa using spells)

namespace Descriptor

variable {descriptor : Descriptor} {parameters : Parameters}

theorem toList_queryText (listed : descriptor.queryProperties = (key, value) :: others) :
    descriptor.queryText.toList =
      key.toList ++ '=' :: (value.toList ++ furtherEntries others) := by
  rw [queryText, listed, toList_intercalate_entries]

/-- The entries of a query are read as its properties. -/
theorem readEntries_queryText (parameters : Parameters) :
    readEntries (ofParameters parameters).queryText.toList =
      (ofParameters parameters).queryProperties := by
  obtain ⟨⟨key, value⟩, others, listed⟩ :=
    List.exists_cons_of_ne_nil (queryProperties_ofParameters_ne_nil parameters)
  have clean := cleanOptions_queryProperties parameters
  rw [listed] at clean
  rw [toList_queryText listed, listed]
  exact readEntries_furtherEntries (padded_self key.toList) clean

/-- As a whole text the query loses the question marks of its first key. -/
theorem readOptions_queryText
    (listed : (ofParameters parameters).queryProperties = (key, value) :: others) :
    readOptions (ofParameters parameters).queryText = (bareKey key, value) :: others := by
  have clean := cleanOptions_queryProperties parameters
  rw [listed] at clean
  obtain ⟨⟨cleanKey, cleanValue, noEquals⟩, cleanOthers⟩ := List.forall_mem_cons.mp clean
  have droppedWithinKey : dropQuestionMarks (trimStart (ofParameters parameters).queryText.toList) =
      dropQuestionMarks key.toList ++ '=' :: (value.toList ++ furtherEntries others) := by
    rw [toList_queryText listed, trimStart_append_cons (by decide),
      trimStart_of_isTrimmed cleanKey.1]
    exact dropWhile_append_cons (by decide)
  have paddedKey : Padded (bareKey key).toList (dropQuestionMarks key.toList) := by
    rw [bareKey, String.toList_ofList]
    exact padded_trim _
  have cleanBare := cleanText_bareKey cleanKey noEquals
  rw [readOptions_eq, droppedWithinKey]
  apply readEntries_furtherEntries paddedKey
  exact List.forall_mem_cons.mpr ⟨⟨cleanBare.1, cleanValue, cleanBare.2⟩, cleanOthers⟩

/-- The properties of a query come in the order of their keys. -/
theorem pairwise_queryProperties (descriptor : Descriptor) :
    descriptor.queryProperties.Pairwise fun earlier later => earlier.1 < later.1 := by
  apply List.Pairwise.filter
  apply Std.ExtTreeMap.ordered_keys_toList.imp
  intro earlier later ordered
  exact compareOfLessAndEq_eq_lt.mp ordered

/-- The first key of a query is the smallest one other than the database. -/
theorem isLeast_of_listed (listed : descriptor.queryProperties = (key, value) :: others) :
    IsLeast {key | key ∈ descriptor.properties ∧ key ≠ databaseKey} key := by
  have ordered := descriptor.pairwise_queryProperties
  rw [listed, List.pairwise_cons] at ordered
  have isFirst : (key, value) ∈ descriptor.queryProperties := by simp [listed]
  obtain ⟨other, found⟩ := mem_queryProperties.mp isFirst
  constructor
  · exact ⟨Std.ExtTreeMap.mem_iff_isSome_getElem?.mpr (Option.isSome_of_eq_some found), other⟩
  · rintro later ⟨isProperty, laterOther⟩
    obtain ⟨laterValue, laterFound⟩ :=
      Option.isSome_iff_exists.mp (Std.ExtTreeMap.mem_iff_isSome_getElem?.mp isProperty)
    have isLater := mem_queryProperties.mpr ⟨laterOther, laterFound⟩
    rw [listed] at isLater
    rcases List.mem_cons.mp isLater with same | isLater
    · exact le_of_eq (congrArg Prod.fst same).symm
    · exact le_of_lt (ordered.1 _ isLater)

/-- A connection string ends with a query of the merged properties other than the database, in the
order of their keys. The query is read back as these properties unless the smallest of the keys
starts with a question mark. -/
theorem readOptions_query_iff {advised : Advised Descriptor} {events : List Event}
    (built : build parameters = .ok (advised, events)) :
    ∃ database smallest, advised.value.property? databaseKey = some database ∧
      advised.value.connectionString =
        "impala://" ++ advised.value.host ++ ":" ++ toString advised.value.port.toNat ++ "/" ++
          database ++ "?" ++ advised.value.queryText ∧
      (advised.value.queryProperties.Pairwise fun earlier later => earlier.1 < later.1) ∧
      (∀ key value, (key, value) ∈ advised.value.queryProperties ↔
        key ≠ databaseKey ∧ advised.value.property? key = some value) ∧
      IsLeast {key | key ∈ advised.value.properties ∧ key ≠ databaseKey} smallest ∧
      (readOptions advised.value.queryText = advised.value.queryProperties ↔
        smallest.toList.head? ≠ some '?') := by
  rw [(build_eq_ok built).2]
  have path := property?_databaseKey parameters
  obtain ⟨⟨key, value⟩, others, listed⟩ :=
    List.exists_cons_of_ne_nil (queryProperties_ofParameters_ne_nil parameters)
  have clean := cleanOptions_queryProperties parameters (key, value) (by simp [listed])
  refine ⟨_, key, path, connectionString_ofParameters path, pairwise_queryProperties _,
    fun _ _ => mem_queryProperties, isLeast_of_listed listed, ?_⟩
  rw [readOptions_queryText listed, listed, ← bareKey_eq_iff clean.1.1]
  simp

/-- The question mark of the second key is smaller than every letter, so this key comes first. -/
def markedKey : Parameters where
  host := "h"
  database := "sales"
  additionalOptions := some "a==;? ?b = x "

theorem queryProperties_markedKey :
    (ofParameters markedKey).queryProperties = [("? ?b", "x"), ("a", "="),
      ("characterEncoding", "UTF8"), ("useCompression", "true"), ("useSSL", "false"),
      ("useUnicode", "true"), ("zeroDateTimeBehavior", "convertToNull")] := by
  decide

/-- The options are read back differently here, with the key `?b` in place of `? ?b`. -/
theorem readOptions_query_markedKey :
    ∃ advised events, build markedKey = .ok (advised, events) ∧
      IsLeast {key | key ∈ advised.value.properties ∧ key ≠ databaseKey} "? ?b" ∧
      readOptions advised.value.queryText ≠ advised.value.queryProperties := by
  have built := build_named (by decide : Text.isBlankText markedKey.database = false)
  have least := isLeast_of_listed queryProperties_markedKey
  obtain ⟨_, smallest, _, _, _, _, isLeast, restored⟩ := readOptions_query_iff built
  obtain rfl : smallest = "? ?b" := isLeast.unique least
  refine ⟨_, _, built, least, ?_⟩
  intro same
  exact absurd (restored.mp same) (by decide)

end Descriptor

end ImpalaAdapter.Connection
