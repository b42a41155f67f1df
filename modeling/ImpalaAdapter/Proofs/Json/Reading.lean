/-
This file shows that a written JSON document is read back.
-/

import ImpalaAdapter.Proofs.Json.Reader
import ImpalaAdapter.Proofs.Sql.LexemeReading

namespace ImpalaAdapter.Json

open Sql (Reader)
open Sql.Reader (skip)

/-- All numbers of the document are whole. -/
inductive IsWhole : Json → Prop where
  | null : IsWhole .null
  | boolean (flag : Bool) : IsWhole (.boolean flag)
  | number (value : Int) : IsWhole (.number value)
  | string (text : String) : IsWhole (.string text)
  | array {items : List Json} (each : ∀ item ∈ items, IsWhole item) : IsWhole (.array items)
  | object {members : List (String × Json)} (each : ∀ entry ∈ members, IsWhole entry.2) :
      IsWhole (.object members)

namespace Reading

theorem escape_append {escaped : List Char} {character : Char}
    (read : escape escaped = some (character, [])) (rest : List Char) :
    escape (escaped ++ rest) = some (character, rest) := by
  cases escaped with
  | nil => cases read
  | cons letter digits =>
      rw [List.cons_append]
      rw [escape] at read ⊢
      by_cases coded : letter = 'u'
      · rw [if_pos coded] at read ⊢
        by_cases enough : 4 ≤ digits.length
        · rw [if_pos enough, Option.map_eq_some_iff] at read
          obtain ⟨found, decoded, same⟩ := read
          obtain ⟨rfl, nothing⟩ := Prod.mk.inj same
          have exactly : digits.length = 4 :=
            Nat.le_antisymm (List.drop_eq_nil_iff.mp nothing) enough
          rw [if_pos (by rw [List.length_append]; omega), List.take_append_of_le_length enough,
            List.drop_append_of_le_length enough, decoded, nothing]
          rfl
        · rw [if_neg enough] at read
          cases read
      · rw [if_neg coded, Option.map_eq_some_iff] at read ⊢
        obtain ⟨found, looked, same⟩ := read
        obtain ⟨rfl, rfl⟩ := Prod.mk.inj same
        exact ⟨found, looked, rfl⟩

theorem escape_escapedControl : ∀ code < 0x20,
    (escapedControl (Char.ofNat code)).toList.head? = some '\\' ∧
      escape (escapedControl (Char.ofNat code)).toList.tail = some (Char.ofNat code, []) := by
  decide +kernel

/-- A character stands for itself, or an escape stands for it behind a backslash. -/
theorem escapedCharacter_cases (character : Char) :
    ((escapedCharacter character).toList = [character] ∧ character ≠ '"' ∧ character ≠ '\\') ∨
      ∃ escaped, (escapedCharacter character).toList = '\\' :: escaped ∧
        escape escaped = some (character, []) := by
  unfold escapedCharacter
  by_cases isQuote : character = '"'
  · subst isQuote
    exact .inr ⟨['"'], rfl, rfl⟩
  · by_cases isBackslash : character = '\\'
    · subst isBackslash
      exact .inr ⟨['\\'], rfl, rfl⟩
    · rw [if_neg isQuote, if_neg isBackslash]
      by_cases isControl : character.toNat < 0x20
      · rw [if_pos isControl]
        obtain ⟨opening, read⟩ := escape_escapedControl _ isControl
        rw [Char.ofNat_toNat] at opening read
        exact .inr ⟨_, (List.cons_head?_tail opening).symm, read⟩
      · rw [if_neg isControl]
        exact .inl ⟨String.toList_singleton _, isQuote, isBackslash⟩

/-- The characters of a text as they stand between quotes. -/
def escapedText (text : List Char) : List Char :=
  text.flatMap fun character => (escapedCharacter character).toList

theorem toList_quoted (text : String) :
    (quoted text).toList = '"' :: (escapedText text.toList ++ ['"']) := by
  simp [quoted, escapedText, List.flatMap_map]

/-- The reader undoes the escape of each character. -/
theorem characters_escapedText {rounds : Nat} (text rest : List Char)
    (enough : text.length < rounds) :
    characters rounds (escapedText text ++ '"' :: rest) = some (text, rest) := by
  induction text generalizing rounds with
  | nil =>
      cases rounds with
      | zero => cases enough
      | succ rounds => rfl
  | cons character text inductionHypothesis =>
      cases rounds with
      | zero => cases enough
      | succ rounds =>
          have further := inductionHypothesis (Nat.lt_of_succ_lt_succ enough)
          rw [escapedText, List.flatMap_cons, ← escapedText, List.append_assoc]
          rcases escapedCharacter_cases character with
            ⟨plain, noQuote, noBackslash⟩ | ⟨escaped, opening, read⟩
          · rw [plain, List.singleton_append, characters, if_neg noQuote, if_neg noBackslash]
            simp [further]
          · rw [opening, List.cons_append, characters, if_neg (by decide), if_pos rfl,
              escape_append read]
            simp [further]

theorem length_le_escapedText (text : List Char) : text.length ≤ (escapedText text).length := by
  induction text with
  | nil => exact Nat.le_refl 0
  | cons character text inductionHypothesis =>
      have nonempty : 0 < (escapedCharacter character).toList.length := by
        rcases escapedCharacter_cases character with ⟨plain, _⟩ | ⟨escaped, opening, _⟩
        · rw [plain]
          exact Nat.zero_lt_one
        · rw [opening]
          exact Nat.zero_lt_succ _
      rw [escapedText, List.flatMap_cons, ← escapedText, List.length_append, List.length_cons]
      omega

/-- A quoted text is read back behind its opening quote. -/
theorem string_escapedText (text : String) (rest : List Char) :
    string (escapedText text.toList ++ '"' :: rest) = some (text, rest) := by
  have enough : text.toList.length < (escapedText text.toList ++ '"' :: rest).length := by
    have shorter := length_le_escapedText text.toList
    rw [List.length_append, List.length_cons]
    omega
  rw [string, characters_escapedText _ _ enough, Option.map_some, String.ofList_toList]

theorem skipSpacing_of_stops {text : List Char} (stops : Text.StopsRun isSpacing text) :
    skipSpacing text = text :=
  Text.dropWhile_of_stops stops

theorem toList_newLine (level : Nat) :
    (newLine level).toList = '\n' :: List.replicate (2 * level) ' ' := by
  simp [newLine]

theorem skipSpacing_newLine (level : Nat) (rest : List Char) :
    skipSpacing ((newLine level).toList ++ rest) = skipSpacing rest := by
  apply List.dropWhile_append_of_pos
  intro character member
  rw [toList_newLine] at member
  rcases List.mem_cons.mp member with rfl | blank
  · rfl
  · rw [List.eq_of_mem_replicate blank]
    rfl

section
variable {Element : Type} {element : Reader Element} {written : Element → String} {closing : Char}

/-- The text of an element is read back on a line of its own, in front of any text that does not
continue a number. -/
def ReadsBack (element : Reader Element) (written : Element → String) (level : Nat)
    (item : Element) : Prop :=
  ∀ rest, Text.StopsRun isDigit rest →
    element ((newLine level).toList ++ ((written item).toList ++ rest)) = some (item, rest)

/-- Further elements stand behind commas, and the last line holds the closing bracket. -/
def furtherText (closing : Char) (level : Nat) : List String → List Char
  | [] => (newLine level).toList ++ [closing]
  | text :: texts =>
      ',' :: ((newLine (level + 1)).toList ++ (text.toList ++ furtherText closing level texts))

theorem stopsRun_furtherText (closing : Char) (level : Nat) (texts : List String)
    (rest : List Char) :
    Text.StopsRun isDigit (furtherText closing level texts ++ rest) := by
  cases texts with
  | nil =>
      rw [furtherText, toList_newLine]
      exact (Text.stopsRun_cons ..).mpr (by decide)
  | cons text texts => exact (Text.stopsRun_cons ..).mpr (by decide)

theorem furtherElements_furtherText {level rounds : Nat} {items : List Element}
    (noComma : closing ≠ ',') (noSpacing : isSpacing closing = false)
    (reads : ∀ item ∈ items, ReadsBack element written (level + 1) item)
    (enough : items.length < rounds) (rest : List Char) :
    furtherElements element closing rounds (furtherText closing level (items.map written) ++ rest) =
      some (items, rest) := by
  induction items generalizing rounds with
  | nil =>
      cases rounds with
      | zero => cases enough
      | succ rounds =>
          have closed : skipSpacing ([closing] ++ rest) = closing :: rest :=
            skipSpacing_of_stops ((Text.stopsRun_cons ..).mpr noSpacing)
          rw [List.map_nil, furtherText, List.append_assoc, furtherElements, skipSpacing_newLine,
            closed]
          exact if_pos rfl
  | cons item items inductionHypothesis =>
      cases rounds with
      | zero => cases enough
      | succ rounds =>
          have first := reads item List.mem_cons_self _
            (stopsRun_furtherText closing level (items.map written) rest)
          have others := inductionHypothesis
            (fun other member => reads other (List.mem_cons_of_mem _ member))
            (Nat.lt_of_succ_lt_succ enough)
          rw [List.map_cons, furtherText, List.cons_append, furtherElements,
            skipSpacing_of_stops ((Text.stopsRun_cons ..).mpr (by decide))]
          dsimp only
          rw [if_neg (Ne.symm noComma), if_pos rfl, List.append_assoc, List.append_assoc, first]
          simp [others]

/-- The text of an array or object behind its opening bracket. -/
def enclosedText (closing : Char) (level : Nat) : List String → List Char
  | [] => [closing]
  | text :: texts =>
      (newLine (level + 1)).toList ++ (text.toList ++ furtherText closing level texts)

theorem toList_furtherText (closing : Char) (level : Nat) (text : String) (texts : List String) :
    (("," ++ newLine (level + 1)).intercalate (text :: texts)).toList ++
        ((newLine level).toList ++ [closing]) =
      text.toList ++ furtherText closing level texts := by
  induction texts generalizing text with
  | nil => simp [furtherText]
  | cons next texts inductionHypothesis =>
      rw [String.intercalate_cons_cons, String.toList_append, List.append_assoc,
        inductionHypothesis, furtherText]
      simp

theorem toList_enclose (opening closing : Char) (level : Nat) (texts : List String) :
    (enclose (String.singleton opening) (String.singleton closing) level texts).toList =
      opening :: enclosedText closing level texts := by
  cases texts with
  | nil => simp [enclose, enclosedText]
  | cons text texts =>
      rw [enclosedText, ← toList_furtherText]
      simp [enclose]

theorem length_lt_furtherText (closing : Char) (level : Nat) (texts : List String) :
    texts.length < (furtherText closing level texts).length := by
  induction texts with
  | nil => simp [furtherText]
  | cons text texts inductionHypothesis =>
      rw [furtherText]
      simp only [List.length_cons, List.length_append]
      omega

/-- The elements of an array or object are read back behind its opening bracket. -/
theorem elements_enclosedText {level : Nat} {items : List Element} {rest : List Char}
    (noComma : closing ≠ ',') (noSpacing : isSpacing closing = false)
    (noElement : element (closing :: rest) = none)
    (reads : ∀ item ∈ items, ReadsBack element written (level + 1) item) :
    elements element closing (enclosedText closing level (items.map written) ++ rest) =
      some (items, rest) := by
  cases items with
  | nil =>
      have closed : skipSpacing (closing :: rest) = closing :: rest :=
        skipSpacing_of_stops ((Text.stopsRun_cons ..).mpr noSpacing)
      rw [List.map_nil, enclosedText, List.singleton_append, elements, noElement, closed]
      exact if_pos rfl
  | cons item items =>
      have first := reads item List.mem_cons_self _
        (stopsRun_furtherText closing level (items.map written) rest)
      have enough : items.length <
          (furtherText closing level (items.map written) ++ rest).length := by
        have shorter := length_lt_furtherText closing level (items.map written)
        rw [List.length_map] at shorter
        rw [List.length_append]
        omega
      have others := furtherElements_furtherText noComma noSpacing
        (fun other member => reads other (List.mem_cons_of_mem _ member)) enough rest
      rw [List.map_cons, enclosedText, List.append_assoc, List.append_assoc, elements, first]
      dsimp only
      rw [others]
      rfl

end

theorem itemTexts_eq (level : Nat) (items : List Json) :
    itemTexts level items = items.map (textAt level) := by
  induction items with
  | nil => rfl
  | cons item items inductionHypothesis => rw [itemTexts, inductionHypothesis, List.map_cons]

theorem exists_cons_signedDigits (number : Int) :
    ∃ first rest, signedDigits number = first :: rest ∧ (first = '-' ∨ isDigit first) := by
  unfold signedDigits
  split
  · exact ⟨'-', _, rfl, .inl rfl⟩
  · obtain ⟨first, rest, written, digit⟩ := exists_cons_digits number.natAbs
    exact ⟨first, rest, written, .inr digit⟩

def memberText (level : Nat) (entry : String × Json) : String :=
  quoted entry.1 ++ ": " ++ entry.2.textAt level

theorem memberTexts_eq (level : Nat) (members : List (String × Json)) :
    memberTexts level members = members.map (memberText level) := by
  induction members with
  | nil => rfl
  | cons entry members inductionHypothesis =>
      rw [memberTexts, inductionHypothesis, List.map_cons, memberText]

theorem toList_textAt_array (level : Nat) (items : List Json) :
    (textAt level (.array items)).toList =
      '[' :: enclosedText ']' level (items.map (textAt (level + 1))) := by
  rw [textAt, itemTexts_eq]
  exact toList_enclose '[' ']' level _

theorem toList_textAt_object (level : Nat) (members : List (String × Json)) :
    (textAt level (.object members)).toList =
      '\x7b' :: enclosedText '\x7d' level (members.map (memberText (level + 1))) := by
  rw [textAt, memberTexts_eq]
  exact toList_enclose '\x7b' '\x7d' level _

/-- Leading blanks do not count. -/
theorem value_of_skipSpacing_eq {depth : Nat} {text other : List Char}
    (same : skipSpacing text = skipSpacing other) : value depth text = value depth other := by
  cases depth with
  | zero => rfl
  | succ depth => rw [value, value, same]

theorem value_string (depth : Nat) (rest : List Char) :
    value (depth + 1) ('"' :: rest) =
      (string rest).map fun found => (.string found.1, found.2) :=
  rfl

theorem value_array (depth : Nat) (rest : List Char) :
    value (depth + 1) ('[' :: rest) =
      (elements (value depth) ']' rest).map fun found => (.array found.1, found.2) :=
  rfl

theorem value_object (depth : Nat) (rest : List Char) :
    value (depth + 1) ('\x7b' :: rest) =
      (elements (member (value depth)) '\x7d' rest).map fun found => (.object found.1, found.2) :=
  rfl

/-- A number starts with a digit or a minus sign, and no other value does. -/
theorem value_number {depth : Nat} {first : Char} (opens : first = '-' ∨ isDigit first)
    (rest : List Char) :
    value (depth + 1) (first :: rest) =
      (Sql.Reader.integer (first :: rest)).map fun found => (.number found.1, found.2) := by
  have apart : first ∉ [' ', '\n', '\r', '\t', '"', '[', '\x7b', 'n', 't', 'f'] := by
    have noOpening : [' ', '\n', '\r', '\t', '"', '[', '\x7b', 'n', 't', 'f'].any
        (fun other => other = '-' || isDigit other) = false := by
      decide
    intro member
    exact List.any_eq_false.mp noOpening first member (by simpa using opens)
  simp only [List.mem_cons, List.not_mem_nil, or_false, not_or] at apart
  obtain ⟨noSpace, noLineFeed, noReturn, noTab, noQuote, noBracket, noBrace, noN, noT, noF⟩ := apart
  have solid : isSpacing first = false := by
    simp [isSpacing, noSpace, noLineFeed, noReturn, noTab]
  have noWord : word (first :: rest) = none := by
    simp [word, skip, List.isPrefixOf?, Ne.symm noN, Ne.symm noT, Ne.symm noF]
  rw [value, skipSpacing_of_stops ((Text.stopsRun_cons ..).mpr solid)]
  dsimp only
  rw [if_neg noQuote, if_neg noBracket, if_neg noBrace, noWord, Option.none_or]

theorem value_closing (depth : Nat) (rest : List Char) : value depth (']' :: rest) = none := by
  cases depth with
  | zero => rfl
  | succ depth => rfl

theorem member_closing (inner : Reader Json) (rest : List Char) :
    member inner ('\x7d' :: rest) = none :=
  rfl

theorem length_lt_furtherText_of_mem (closing : Char) (level : Nat) {text : String}
    {texts : List String} (member : text ∈ texts) :
    text.toList.length < (furtherText closing level texts).length := by
  induction texts with
  | nil => cases member
  | cons first texts inductionHypothesis =>
      rw [furtherText]
      simp only [List.length_cons, List.length_append]
      rcases List.mem_cons.mp member with rfl | further
      · omega
      · have shorter := inductionHypothesis further
        omega

theorem length_lt_enclosedText (closing : Char) (level : Nat) {text : String} {texts : List String}
    (member : text ∈ texts) : text.toList.length < (enclosedText closing level texts).length := by
  cases texts with
  | nil => cases member
  | cons first texts =>
      rw [enclosedText]
      simp only [List.length_append]
      rcases List.mem_cons.mp member with rfl | further
      · have closed := length_lt_furtherText closing level texts
        omega
      · have shorter := length_lt_furtherText_of_mem closing level further
        omega

theorem length_le_memberText (level : Nat) (entry : String × Json) :
    (entry.2.textAt level).toList.length ≤ (memberText level entry).toList.length := by
  rw [memberText, String.toList_append, List.length_append]
  omega

/-- A member is read back when its value is. -/
theorem readsBack_member {depth level : Nat} {entry : String × Json}
    (reads : ∀ rest, Text.StopsRun isDigit rest →
      value depth ((entry.2.textAt level).toList ++ rest) = some (entry.2, rest)) :
    ReadsBack (member (value depth)) (memberText level) level entry := by
  intro rest stops
  let text := (entry.2.textAt level).toList ++ rest
  have opened : skipSpacing ((newLine level).toList ++ ((memberText level entry).toList ++ rest)) =
      "\"".toList ++ (escapedText entry.1.toList ++ '"' :: ':' :: ' ' :: text) := by
    rw [skipSpacing_newLine]
    simp [memberText, toList_quoted, skipSpacing, isSpacing, text]
  have colon : skip ":" (skipSpacing (':' :: ' ' :: text)) = some (' ' :: text) :=
    Sql.Reader.skip_append ":" _
  have blank : skipSpacing (' ' :: text) = skipSpacing text := rfl
  have read : value depth text = some (entry.2, rest) := reads rest stops
  rw [← value_of_skipSpacing_eq blank] at read
  rw [member, opened, Sql.Reader.skip_append]
  simp [string_escapedText, colon, read]

/-- Every value is read back in front of any text that does not continue a number. -/
theorem value_textAt {json : Json} (whole : json.IsWhole) (level depth : Nat)
    (enough : (json.textAt level).toList.length ≤ depth) (rest : List Char)
    (stops : Text.StopsRun isDigit rest) :
    value (depth + 1) ((json.textAt level).toList ++ rest) = some (json, rest) := by
  induction whole generalizing level depth rest with
  | null =>
      rw [textAt]
      rfl
  | boolean flag =>
      rw [textAt]
      cases flag <;> rfl
  | number number =>
      obtain ⟨first, more, written, opens⟩ := exists_cons_signedDigits number
      have read := Sql.Reader.integer_signedDigits number stops
      rw [written, List.cons_append] at read
      rw [textAt, toList_toString_int, written, List.cons_append, value_number opens, read]
      rfl
  | string text =>
      rw [textAt, toList_quoted, List.cons_append, List.append_assoc, List.singleton_append,
        value_string, string_escapedText]
      rfl
  | @array items each inductionHypothesis =>
      rw [toList_textAt_array, List.length_cons] at enough
      have reads : ∀ item ∈ items,
          ReadsBack (value depth) (textAt (level + 1)) (level + 1) item := by
        intro item inside rest stops
        have shorter := length_lt_enclosedText ']' level
          (List.mem_map_of_mem (f := textAt (level + 1)) inside)
        obtain ⟨inner, rfl⟩ : ∃ inner, depth = inner + 1 := ⟨depth - 1, by omega⟩
        rw [value_of_skipSpacing_eq (skipSpacing_newLine _ _)]
        exact inductionHypothesis item inside _ _ (by omega) rest stops
      rw [toList_textAt_array, List.cons_append, value_array,
        elements_enclosedText (by decide) (by decide) (value_closing depth rest) reads]
      rfl
  | @object members each inductionHypothesis =>
      rw [toList_textAt_object, List.length_cons] at enough
      have reads : ∀ entry ∈ members,
          ReadsBack (member (value depth)) (memberText (level + 1)) (level + 1) entry := by
        intro entry inside
        have shorter := length_lt_enclosedText '\x7d' level
          (List.mem_map_of_mem (f := memberText (level + 1)) inside)
        have part := length_le_memberText (level + 1) entry
        obtain ⟨inner, rfl⟩ : ∃ inner, depth = inner + 1 := ⟨depth - 1, by omega⟩
        exact readsBack_member (inductionHypothesis entry inside _ _ (by omega))
      rw [toList_textAt_object, List.cons_append, value_object,
        elements_enclosedText (by decide) (by decide) (member_closing _ rest) reads]
      rfl

/-- A blank does not continue a number. -/
theorem isDigit_of_isSpacing {character : Char} (blank : isSpacing character) :
    isDigit character = false := by
  simp only [isSpacing, List.contains_cons, List.contains_nil, Bool.or_false, Bool.or_eq_true,
    beq_iff_eq] at blank
  rcases blank with rfl | rfl | rfl | rfl <;> rfl

end Reading

/-- A document is read back, whatever blanks stand behind it. -/
theorem read?_text {json : Json} (whole : json.IsWhole) {blanks : String}
    (spacing : blanks.toList.all Reading.isSpacing) : read? (json.text ++ blanks) = some json := by
  have stops : Text.StopsRun isDigit blanks.toList := by
    intro character first
    have blank := List.all_eq_true.mp spacing character (List.mem_of_head? first)
    exact Reading.isDigit_of_isSpacing blank
  have letters : (json.text ++ blanks).toList = (json.textAt 0).toList ++ blanks.toList := by
    rw [text, String.toList_append]
  have enough : (json.textAt 0).toList.length ≤ (json.text ++ blanks).toList.length := by
    rw [letters, List.length_append]
    omega
  have read := Reading.value_textAt whole 0 _ enough blanks.toList stops
  rw [← letters] at read
  rw [read?, read]
  exact if_pos spacing

end ImpalaAdapter.Json
