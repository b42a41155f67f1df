/-
This file describes the texts that spell a list of options, and shows that each one is read back as
its list.
-/

import ImpalaAdapter.Proofs.Connection.OptionReading

namespace ImpalaAdapter.Connection

open Text

/-- A clean text neither starts nor ends with a blank, and it has no separators. -/
def CleanText (text : String) : Prop :=
  IsTrimmed text.toList ∧ ';' ∉ text.toList ∧ '&' ∉ text.toList

def CleanOptions (options : List (String × String)) : Prop :=
  ∀ option ∈ options, CleanText option.1 ∧ CleanText option.2 ∧ '=' ∉ option.1.toList

instance (text : String) : Decidable (CleanText text) :=
  inferInstanceAs (Decidable (_ ∧ _))

instance (options : List (String × String)) : Decidable (CleanOptions options) :=
  inferInstanceAs (Decidable (∀ option ∈ options, _ ∧ _))

/-- An entry spells one option with blanks around its key and around its value, or it spells no
option. -/
inductive SpellsEntry : List (String × String) → List Char → Prop
  | blank {blanks : List Char} (blank : AllBlank blanks) : SpellsEntry [] blanks
  | option (key value : String) {keyText valueText : List Char}
      (paddedKey : Padded key.toList keyText) (paddedValue : Padded value.toList valueText) :
      SpellsEntry [(key, value)] (keyText ++ '=' :: valueText)

/-- Either separator can stand between two entries. -/
inductive SpellsEntries : List (String × String) → List Char → Prop
  | single {options : List (String × String)} {entry : List Char}
      (spells : SpellsEntry options entry) : SpellsEntries options entry
  | cons {options others : List (String × String)} {entry rest : List Char} {separator : Char}
      (spells : SpellsEntry options entry) (separates : separator = ';' ∨ separator = '&')
      (further : SpellsEntries others rest) :
      SpellsEntries (options ++ others) (entry ++ separator :: rest)

/-- Blanks and then question marks can stand before the entries. -/
def Spells (options : List (String × String)) (text : String) : Prop :=
  ∃ blanks marks entries : List Char, AllBlank blanks ∧ (∀ character ∈ marks, character = '?') ∧
    SpellsEntries options entries ∧ text.toList = blanks ++ marks ++ entries

variable {options others : List (String × String)} {entry entries rest : List Char}
  {text : String} {separator : Char}

theorem clear_iff {text : List Char} :
    (∀ character ∈ text, separatesOptions character = false) ↔ ';' ∉ text ∧ '&' ∉ text := by
  constructor
  · intro clear
    exact ⟨fun member => absurd (clear ';' member) (by decide),
      fun member => absurd (clear '&' member) (by decide)⟩
  · rintro ⟨noSemicolon, noAmpersand⟩ character member
    apply eq_false_of_ne_true
    intro separates
    rcases separatesOptions_iff.mp separates with rfl | rfl
    · exact noSemicolon member
    · exact noAmpersand member

/-- A clean text has no separators, and blanks around it add none. -/
theorem CleanText.clear_of_padded {padded : List Char} (clean : CleanText text)
    (around : Padded text.toList padded) :
    ∀ character ∈ padded, separatesOptions character = false := by
  intro character member
  rcases around.mem member with blank | inside
  · exact separatesOptions_of_isBlank blank
  · exact clear_iff.mpr clean.2 character inside

/-- A trimmed part of an entry is clean. -/
theorem cleanText_trim {part : List Char}
    (clear : ∀ character ∈ part, separatesOptions character = false) :
    CleanText (String.ofList (trim part)) := by
  rw [CleanText, String.toList_ofList]
  refine ⟨isTrimmed_trim part, clear_iff.mp ?_⟩
  intro character member
  exact clear character (mem_of_mem_trim member)

theorem cleanOptions_entry
    (clear : ∀ character ∈ entry, separatesOptions character = false) :
    CleanOptions (readEntries entry) := by
  by_cases equals : '=' ∈ entry
  · obtain ⟨⟨key, value⟩, cut⟩ : ∃ halves, cutAt '=' entry = some halves :=
      Option.ne_none_iff_exists'.mp (mt cutAt_eq_none_iff.mp (not_not.mpr equals))
    obtain ⟨rfl, absent⟩ := cutAt_eq_some_iff.mp cut
    obtain ⟨clearKey, clearRest⟩ := List.forall_mem_append.mp clear
    have clearValue := (List.forall_mem_cons.mp clearRest).2
    rw [readEntries_pair absent clear]
    intro option member
    rw [List.mem_singleton.mp member]
    refine ⟨cleanText_trim clearKey, cleanText_trim clearValue, ?_⟩
    rw [String.toList_ofList]
    exact mt mem_of_mem_trim absent
  · have absent : '=' ∉ trim entry := mt mem_of_mem_trim equals
    rw [readEntries_entry clear]
    split
    case isTrue => simp [CleanOptions]
    case isFalse =>
      rw [readOption, cutAt_eq_none_iff.mpr absent]
      intro option member
      rw [List.mem_singleton.mp member]
      refine ⟨cleanText_trim clear, ?_, ?_⟩
      · simp [CleanText, IsTrimmed]
      · rwa [String.toList_ofList]

/-- Every text is read as a clean list. -/
theorem cleanOptions_readEntries (text : List Char) : CleanOptions (readEntries text) := by
  induction text using separatorInduction separatesOptions with
  | clear part clear => exact cleanOptions_entry clear
  | separated part separator rest clear separated inductionHypothesis =>
      rw [readEntries_append_separator separated]
      exact List.forall_mem_append.mpr ⟨cleanOptions_entry clear, inductionHypothesis⟩

/-- An entry is read back as the option that it spells. -/
theorem readEntries_of_spellsEntry (clean : CleanOptions options)
    (spells : SpellsEntry options entry) : readEntries entry = options := by
  cases spells with
  | blank blank =>
      rw [readEntries_entry (clear_of_allBlank blank), trim_blanks blank, if_pos rfl]
  | @option key value keyText valueText paddedKey paddedValue =>
      obtain ⟨cleanKey, cleanValue, noEquals⟩ := clean (key, value) (List.mem_singleton_self _)
      have absent : '=' ∉ keyText := by
        intro member
        rcases paddedKey.mem member with blank | inside
        · exact absurd blank (by decide)
        · exact noEquals inside
      have clear : ∀ character ∈ keyText ++ '=' :: valueText,
          separatesOptions character = false := by
        rw [List.forall_mem_append, List.forall_mem_cons]
        exact ⟨cleanKey.clear_of_padded paddedKey, by decide,
          cleanValue.clear_of_padded paddedValue⟩
      rw [readEntries_pair absent clear, paddedKey.trim_eq cleanKey.1,
        paddedValue.trim_eq cleanValue.1]
      simp

theorem readEntries_of_spellsEntries (clean : CleanOptions options)
    (spells : SpellsEntries options entries) : readEntries entries = options := by
  induction spells with
  | single spells => exact readEntries_of_spellsEntry clean spells
  | cons spells separates further inductionHypothesis =>
      obtain ⟨cleanEntry, cleanOthers⟩ := List.forall_mem_append.mp clean
      rw [readEntries_append_separator (separatesOptions_iff.mpr separates),
        readEntries_of_spellsEntry cleanEntry spells, inductionHypothesis cleanOthers]

/-- An entry starts with a question mark only when its key does. -/
theorem head?_trimStart_entry (rest : List Char) (clean : CleanOptions options)
    (unmarked : ∀ option ∈ options.head?, option.1.toList.head? ≠ some '?')
    (spells : SpellsEntry options entry) (ends : ∀ separator ∈ rest.head?,
      separator = ';' ∨ separator = '&') : (trimStart (entry ++ rest)).head? ≠ some '?' := by
  cases spells with
  | blank blank =>
      rw [trimStart_blanks_append blank]
      cases rest with
      | nil => simp [trimStart]
      | cons separator rest =>
          rcases ends separator rfl with rfl | rfl
          · simp [trimStart, isBlank]
          · simp [trimStart, isBlank]
  | @option key value keyText valueText paddedKey paddedValue =>
      obtain ⟨before, after, blankBefore, blankAfter, rfl⟩ := paddedKey
      have trimmedKey := (clean (key, value) (List.mem_singleton_self _)).1.1.1
      have unmarkedKey : key.toList.head? ≠ some '?' := unmarked (key, value) rfl
      rw [List.append_assoc, List.cons_append, trimStart_append_cons (by decide),
        List.append_assoc, trimStart_blanks_append blankBefore]
      cases letters : key.toList with
      | nil =>
          rw [List.nil_append, trimStart_blanks blankAfter]
          simp
      | cons character more =>
          rw [letters] at trimmedKey unmarkedKey
          have solid := trimmedKey character rfl
          simpa [trimStart, solid] using unmarkedKey

theorem head?_trimStart_entries (clean : CleanOptions options)
    (unmarked : ∀ option ∈ options.head?, option.1.toList.head? ≠ some '?')
    (spells : SpellsEntries options entries) : (trimStart entries).head? ≠ some '?' := by
  cases spells with
  | single spells =>
      have first := head?_trimStart_entry [] clean unmarked spells (by simp)
      rwa [List.append_nil] at first
  | @cons options others entry rest separator spells separates further =>
      have unmarkedEntry : ∀ option ∈ options.head?, option.1.toList.head? ≠ some '?' := by
        intro option member
        apply unmarked option
        rw [List.head?_append, Option.mem_def.mp member]
        rfl
      exact head?_trimStart_entry _ (List.forall_mem_append.mp clean).1 unmarkedEntry spells
        (by simpa using separates)

/-- A text is read back as the options that it spells. -/
theorem readOptions_of_spells (clean : CleanOptions options)
    (unmarked : ∀ option ∈ options.head?, option.1.toList.head? ≠ some '?')
    (spells : Spells options text) : readOptions text = options := by
  obtain ⟨blanks, marks, entries, blank, marked, spellsEntries, written⟩ := spells
  have first := head?_trimStart_entries clean unmarked spellsEntries
  have read := readEntries_of_spellsEntries clean spellsEntries
  rw [readOptions_eq, written, List.append_assoc, trimStart_blanks_append blank]
  cases marks with
  | nil =>
      rw [List.nil_append, dropQuestionMarks_of_head? first, readEntries_trimStart, read]
  | cons mark more =>
      have solid : isBlank mark = false := by
        rw [marked mark (List.mem_cons_self ..)]
        decide
      have kept : trimStart (mark :: more ++ entries) = mark :: more ++ entries := by
        simp [trimStart, solid]
      have dropped : dropQuestionMarks (mark :: more ++ entries) = dropQuestionMarks entries :=
        List.dropWhile_append_of_pos (by simpa using marked)
      have unmarkedEntries : entries.head? ≠ some '?' := by
        intro leading
        obtain ⟨others, rfl⟩ := List.head?_eq_some_iff.mp leading
        exact first rfl
      rw [kept, dropped, dropQuestionMarks_of_head? unmarkedEntries, read]

/-- Each option is written before a semicolon. -/
def writtenOptions (options : List (String × String)) : List Char :=
  options.flatMap fun option => option.1.toList ++ '=' :: option.2.toList ++ [';']

theorem spellsEntries_writtenOptions (options : List (String × String)) :
    SpellsEntries options (writtenOptions options) := by
  induction options with
  | nil => exact .single (.blank allBlank_nil)
  | cons option others inductionHypothesis =>
      have spelled := SpellsEntries.cons
        (.option option.1 option.2 (padded_self _) (padded_self _)) (.inl rfl) inductionHypothesis
      simpa [writtenOptions] using spelled

/-- A separator at the start keeps the question marks of the first key. -/
theorem readOptions_writtenOptions (clean : CleanOptions options) :
    readOptions (String.ofList (';' :: writtenOptions options)) = options := by
  have separated : readEntries ([] ++ ';' :: writtenOptions options) = _ :=
    readEntries_append_separator (by decide)
  rw [readOptions_eq, String.toList_ofList]
  exact separated.trans (readEntries_of_spellsEntries clean (spellsEntries_writtenOptions options))

/-- The lists that texts are read as are the clean ones, and every spelling of a clean list is read
as the list when its first key starts with no question mark. -/
theorem readOptions_spelling :
    (∀ options, (∃ text, readOptions text = options) ↔ CleanOptions options) ∧
      ∀ options text, CleanOptions options →
        (∀ option ∈ options.head?, option.1.toList.head? ≠ some '?') →
        Spells options text → readOptions text = options := by
  refine ⟨?_, fun options text clean unmarked spells => readOptions_of_spells clean unmarked spells⟩
  intro options
  constructor
  · rintro ⟨text, rfl⟩
    exact cleanOptions_readEntries _
  · intro clean
    exact ⟨_, readOptions_writtenOptions clean⟩

def paddedOptions : List (String × String) :=
  [("a b", "=?x"), ("", ""), ("a b", "?")]

/-- The blanks are spaces, a tab, a line break, an ideographic space and an em space. -/
def paddedText : String := " \u3000??;\ta b = =?x\u2003& \n;=&a b=?"

theorem readOptions_paddedText :
    (CleanOptions paddedOptions ∧
        (∀ option ∈ paddedOptions.head?, option.1.toList.head? ≠ some '?') ∧
        Spells paddedOptions paddedText) ∧
      readOptions paddedText = paddedOptions := by
  have clean : CleanOptions paddedOptions := by
    simp [CleanOptions, CleanText, IsTrimmed, paddedOptions, isBlank]
  have unmarked : ∀ option ∈ paddedOptions.head?, option.1.toList.head? ≠ some '?' := by
    simp [paddedOptions]
  have paddedKey : Padded "a b".toList "\ta b ".toList :=
    ⟨['\t'], [' '], by decide, by decide, rfl⟩
  have paddedValue : Padded "=?x".toList " =?x\u2003".toList :=
    ⟨[' '], ['\u2003'], by decide, by decide, rfl⟩
  have entries : SpellsEntries paddedOptions _ :=
    .cons (.blank allBlank_nil) (.inl rfl) <|
      .cons (.option "a b" "=?x" paddedKey paddedValue) (.inr rfl) <|
        .cons (.blank (by decide : AllBlank [' ', '\n'])) (.inl rfl) <|
          .cons (.option "" "" (padded_self _) (padded_self _)) (.inr rfl) <|
            .single (.option "a b" "?" (padded_self _) (padded_self _))
  have spells : Spells paddedOptions paddedText :=
    ⟨[' ', '\u3000'], ['?', '?'], _, by decide, by simp, entries, rfl⟩
  exact ⟨⟨clean, unmarked, spells⟩,
    readOptions_spelling.2 paddedOptions paddedText clean unmarked spells⟩

end ImpalaAdapter.Connection
