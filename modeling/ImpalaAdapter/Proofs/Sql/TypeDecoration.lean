/-
This file shows that the class of a native type is the class of its bare name, when its parameters
stay on one line.
-/

import ImpalaAdapter.Proofs.Sql.TypeCase

namespace ImpalaAdapter.Sql.NativeType

open Text

def closesParameters (character : Char) : Bool :=
  character == ')' || character == '>'

/-- Parameters stand between brackets, which need not match. -/
def IsParameters (text : List Char) : Prop :=
  text = [] ∨ ∃ opening inner closing, text = opening :: inner ++ [closing] ∧
    opensParameters opening = true ∧ closesParameters closing = true

/-- A bare name has no blanks, and no parameters start in it. -/
def IsBare (name : List Char) : Prop :=
  ∀ character ∈ name, isBlank character = false ∧ opensParameters character = false

instance (name : List Char) : Decidable (IsBare name) :=
  List.decidableBAll _ name

/-- The modifier is a word in any case, with blanks before it. -/
def IsUnsigned (text : List Char) : Prop :=
  text = [] ∨ ∃ blanks word, text = blanks ++ word ∧ blanks ≠ [] ∧ AllBlank blanks ∧
    word.map Char.toLower = "unsigned".toList

section
variable {character : Char} {text name blanks word : List Char}

theorem isModifier_of_solid (solid : isBlank character = false) (rest : List Char) :
    isModifier (character :: rest) = false := by
  rw [isModifier, solid, Bool.false_and]

/-- A name has no blanks, so no modifier starts in it. -/
theorem dropModifier_name (solid : ∀ character ∈ name, isBlank character = false)
    (rest : List Char) : dropModifier (name ++ rest) = name ++ dropModifier rest := by
  induction name with
  | nil => rfl
  | cons character name inductionHypothesis =>
      rw [List.forall_mem_cons] at solid
      rw [List.cons_append, dropModifier, if_neg (by simp [isModifier_of_solid solid.1]),
        inductionHypothesis solid.2]
      rfl

/-- No modifier starts before a bracket and goes on behind it. -/
theorem dropModifier_bracket (closes : closesParameters character = true) (before rest : List Char) :
    dropModifier (before ++ character :: rest) = before ++ character :: dropModifier rest := by
  have bracket : isBlank character = false ∧
      foldModifierLetter character ∉ "unsigned".toList := by
    rw [closesParameters, Bool.or_eq_true, beq_iff_eq, beq_iff_eq] at closes
    rcases closes with rfl | rfl <;> decide
  obtain ⟨solid, foreign⟩ := bracket
  induction before with
  | nil =>
      rw [List.nil_append, dropModifier, if_neg (by simp [isModifier_of_solid solid])]
      rfl
  | cons first before inductionHypothesis =>
      have other : isModifier (first :: (before ++ character :: rest)) = false := by
        rw [isModifier, trimStart_append_cons solid, Bool.and_eq_false_iff, beq_eq_false_iff_ne]
        right
        intro same
        apply foreign
        rw [← same]
        exact List.mem_map_of_mem (by simp)
      rw [List.cons_append, dropModifier, if_neg (by simp [other]), inductionHypothesis]
      rfl

/-- The letters of the modifier are no blanks, and the long form of the letter s is none of them. -/
theorem letter_of_unsigned (spelled : word.map Char.toLower = "unsigned".toList)
    (member : character ∈ word) :
    isBlank character = false ∧ foldModifierLetter character = character.toLower := by
  have letter : character.toLower ∈ "unsigned".toList := by
    rw [← spelled]
    exact List.mem_map_of_mem member
  constructor
  · have solid : "unsigned".toList.all (!isBlank ·) := by decide
    rw [← isBlank_toLower, ← Bool.not_eq_true']
    exact List.all_eq_true.mp solid _ letter
  · apply if_neg
    intro long
    rw [long] at letter
    exact absurd letter (by decide)

theorem ne_nil_of_unsigned (spelled : word.map Char.toLower = "unsigned".toList) : word ≠ [] := by
  intro empty
  rw [empty] at spelled
  cases spelled

/-- Only the modifier itself is dropped. -/
theorem dropModifier_isUnsigned (modifies : IsUnsigned text) : dropModifier text = [] := by
  rcases modifies with rfl | ⟨blanks, word, rfl, nonempty, blank, spelled⟩
  · rfl
  · obtain ⟨first, others, rfl⟩ := List.exists_cons_of_ne_nil nonempty
    have blankOthers : AllBlank others := fun character member =>
      blank character (List.mem_cons_of_mem _ member)
    have stops : StopsRun isBlank word := by
      intro character member
      exact (letter_of_unsigned spelled (List.mem_of_mem_head? member)).1
    have folded : word.map foldModifierLetter = "unsigned".toList := by
      rw [← spelled]
      apply List.map_congr_left
      intro character member
      exact (letter_of_unsigned spelled member).2
    have found : isModifier (first :: (others ++ word)) = true := by
      rw [isModifier, blank first (List.mem_cons_self ..), trimStart_blanks_append blankOthers,
        trimStart, dropWhile_of_stops stops, folded]
      rfl
    rw [List.cons_append, dropModifier, if_pos found]

theorem trim_append_isUnsigned (trimmed : IsTrimmed name) (nonempty : name ≠ [])
    (modifies : IsUnsigned text) : trim (name ++ text) = name ++ text := by
  apply trim_of_isTrimmed
  constructor
  · rw [List.head?_append_of_ne_nil _ nonempty]
    exact trimmed.1
  · rcases modifies with rfl | ⟨blanks, word, rfl, _, _, spelled⟩
    · rw [List.append_nil]
      exact trimmed.2
    · intro character last
      rw [← List.append_assoc,
        List.getLast?_append_of_ne_nil _ (ne_nil_of_unsigned spelled)] at last
      exact (letter_of_unsigned spelled (List.mem_of_mem_getLast? last)).1

/-- Further blanks before a modifier belong to it. -/
theorem isUnsigned_blanks_append (blank : AllBlank blanks) (modifies : IsUnsigned text)
    (nonempty : text ≠ []) : IsUnsigned (blanks ++ text) := by
  rcases modifies with empty | ⟨more, word, rfl, some, blankMore, spelled⟩
  · exact absurd empty nonempty
  · refine .inr ⟨blanks ++ more, word, (List.append_assoc ..).symm, ?_, ?_, spelled⟩
    · simp [some]
    · exact List.forall_mem_append.mpr ⟨blank, blankMore⟩

theorem dropParameters_append (closed : ∀ character ∈ name, opensParameters character = false)
    (rest : List Char) : dropParameters (name ++ rest) = name ++ dropParameters rest := by
  induction name with
  | nil => rfl
  | cons character name inductionHypothesis =>
      rw [List.forall_mem_cons] at closed
      rw [List.cons_append, dropParameters, closed.1, inductionHypothesis closed.2]
      rfl

/-- A bracket is kept when a further line follows it. -/
theorem dropParameters_bracket (opens : opensParameters character = true) (rest : List Char) :
    dropParameters (character :: rest) =
      if '\n' ∈ character :: rest then character :: dropParameters rest else [] := by
  have noLineFeed : '\n' ≠ character := by
    rintro rfl
    cases opens
  rw [dropParameters, opens, Bool.true_and]
  by_cases broken : '\n' ∈ rest
  · simp [broken]
  · simp [broken, noLineFeed]

theorem opensParameters_of_isBlank (blank : isBlank character) :
    opensParameters character = false := by
  rw [opensParameters, Bool.or_eq_false_iff, beq_eq_false_iff_ne, beq_eq_false_iff_ne]
  constructor
  · rintro rfl
    cases blank
  · rintro rfl
    cases blank

/-- A bracket has no case, so it stays in the upper case of its text. -/
theorem mem_uppercase (opens : opensParameters character = true) (member : character ∈ text) :
    character ∈ uppercase text := by
  have unchanged : upperCase character = [character] := by
    rw [opensParameters, Bool.or_eq_true, beq_iff_eq, beq_iff_eq] at opens
    rcases opens with rfl | rfl <;> rfl
  rw [uppercase, List.mem_flatMap]
  exact ⟨character, member, by simp [unchanged]⟩

/-- No base name that Impala uses has a bracket. -/
theorem ofBaseName_of_bracket {base : String} (opens : opensParameters character = true)
    (member : character ∈ base.toList) : ofBaseName base = .unknown := by
  have other (known : String) (bare : known.toList.all (!opensParameters ·)) : base ≠ known := by
    rintro rfl
    have closed := List.all_eq_true.mp bare character member
    simp [opens] at closed
  have others (list : List String)
      (bare : list.all fun known => known.toList.all (!opensParameters ·)) : base ∉ list := by
    intro listed
    exact other base (List.all_eq_true.mp bare base listed) rfl
  rw [ofBaseName, if_neg (others _ (by decide)), if_neg (other _ (by decide)),
    if_neg (others _ (by decide)), if_neg (other _ (by decide)), if_neg (other _ (by decide)),
    if_neg (other _ (by decide)), if_neg (others _ (by decide)), if_neg (other _ (by decide))]

end

/-- A type as a server reports it: a bare name with parameters and a modifier, and with blanks
between its parts. -/
structure Reported where
  before : List Char := []
  name : List Char
  gap : List Char := []
  parameters : List Char := []
  modifier : List Char := []
  after : List Char := []
  blankBefore : AllBlank before := by decide
  named : name ≠ [] := by decide
  bare : IsBare name := by decide
  blankGap : AllBlank gap := by decide
  bracketed : IsParameters parameters
  modifies : IsUnsigned modifier
  blankAfter : AllBlank after := by decide

def Reported.text (type : Reported) : String :=
  String.ofList
    (type.before ++ type.name ++ type.gap ++ type.parameters ++ type.modifier ++ type.after)

namespace Reported

variable (type : Reported)

theorem isTrimmed_name : IsTrimmed type.name := by
  constructor
  · intro character first
    exact (type.bare character (List.mem_of_mem_head? first)).1
  · intro character last
    exact (type.bare character (List.mem_of_mem_getLast? last)).1

/-- Without its modifier a type is its name and its parameters. -/
theorem dropModifier_text :
    ∃ gap, AllBlank gap ∧
      dropModifier (trim type.text.toList) = type.name ++ gap ++ type.parameters := by
  have solid : ∀ character ∈ type.name, isBlank character = false := fun character member =>
    (type.bare character member).1
  have inside : trim type.text.toList =
      trim (type.name ++ (type.gap ++ (type.parameters ++ type.modifier))) := by
    rw [text, String.toList_ofList, trim_append_blanks type.blankAfter]
    simp only [List.append_assoc]
    exact trim_blanks_append type.blankBefore
  rw [inside]
  rcases type.bracketed with empty | ⟨opening, inner, closing, shape, _, closes⟩
  · refine ⟨[], allBlank_nil, ?_⟩
    rw [empty, List.nil_append, List.append_nil, List.append_nil]
    by_cases unmodified : type.modifier = []
    · rw [unmodified, List.append_nil, trim_append_blanks type.blankGap,
        trim_of_isTrimmed type.isTrimmed_name]
      simpa [dropModifier] using dropModifier_name solid []
    · have modifies := isUnsigned_blanks_append type.blankGap type.modifies unmodified
      rw [trim_append_isUnsigned type.isTrimmed_name type.named modifies,
        dropModifier_name solid, dropModifier_isUnsigned modifies, List.append_nil]
  · refine ⟨type.gap, type.blankGap, ?_⟩
    have bracket : isBlank closing = false := by
      rw [closesParameters, Bool.or_eq_true, beq_iff_eq, beq_iff_eq] at closes
      rcases closes with rfl | rfl <;> decide
    have trimmed : IsTrimmed (type.name ++ (type.gap ++ (opening :: inner ++ [closing]))) := by
      constructor
      · rw [List.head?_append_of_ne_nil _ type.named]
        exact type.isTrimmed_name.1
      · intro character last
        rw [← List.append_assoc, ← List.append_assoc, List.getLast?_concat] at last
        cases last
        exact bracket
    have nonempty : type.name ++ (type.gap ++ (opening :: inner ++ [closing])) ≠ [] := by
      simp [type.named]
    have kept := trim_append_isUnsigned trimmed nonempty type.modifies
    have dropped := dropModifier_bracket closes (type.name ++ (type.gap ++ opening :: inner))
      type.modifier
    rw [dropModifier_isUnsigned type.modifies] at dropped
    rw [shape]
    simp only [List.append_assoc, List.cons_append, List.nil_append] at kept dropped ⊢
    rw [kept, dropped]

/-- What is left of a type is its name, with blanks and with the parameters that are not dropped. -/
theorem dropParameters_text :
    ∃ gap, AllBlank gap ∧ dropParameters (dropModifier (trim type.text.toList)) =
      type.name ++ gap ++ dropParameters type.parameters := by
  obtain ⟨gap, blank, dropped⟩ := type.dropModifier_text
  refine ⟨gap, blank, ?_⟩
  have closed : ∀ character ∈ type.name ++ gap, opensParameters character = false := by
    intro character member
    rcases List.mem_append.mp member with member | member
    · exact (type.bare character member).2
    · exact opensParameters_of_isBlank (blank character member)
  rw [dropped, dropParameters_append closed]

theorem baseName_of_oneLine (oneLine : '\n' ∉ type.parameters) :
    baseName type.text = String.ofList (uppercase type.name) := by
  obtain ⟨gap, blank, left⟩ := type.dropParameters_text
  have dropped : dropParameters type.parameters = [] := by
    rcases type.bracketed with empty | ⟨opening, inner, closing, shape, opens, _⟩
    · rw [empty]
      rfl
    · rw [shape, List.cons_append] at oneLine
      rw [shape, List.cons_append, dropParameters_bracket opens, if_neg oneLine]
  rw [baseName, left, dropped, List.append_nil, trim_append_blanks blank,
    trim_of_isTrimmed type.isTrimmed_name]

/-- Parameters on more than one line keep their first bracket. -/
theorem classify_of_lineFeed (broken : '\n' ∈ type.parameters) :
    classify type.text = .unknown := by
  obtain ⟨gap, _, left⟩ := type.dropParameters_text
  rcases type.bracketed with empty | ⟨opening, inner, closing, shape, opens, _⟩
  · rw [empty] at broken
    cases broken
  · have solid : isBlank opening = false := by
      cases blank : isBlank opening with
      | false => rfl
      | true =>
          rw [opensParameters_of_isBlank blank] at opens
          cases opens
    rw [shape, List.cons_append] at broken left
    rw [dropParameters_bracket opens, if_pos broken] at left
    apply ofBaseName_of_bracket opens
    rw [baseName, String.toList_ofList, left, trim_append_cons solid]
    exact mem_uppercase opens (by simp)

end Reported

/-- The class of a type is that of its bare name, in any case and whatever stands around it, but a
type whose parameters have more than one line is unknown. -/
theorem classify_text :
    (∀ type : Reported, classify type.text =
      if '\n' ∈ type.parameters then .unknown else classify (String.ofList type.name)) ∧
    ∀ first second, equalsIgnoringCase first second = true → classify first = classify second := by
  constructor
  · intro type
    split
    case isTrue broken => exact type.classify_of_lineFeed broken
    case isFalse oneLine =>
      let alone : Reported :=
        { name := type.name, named := type.named, bare := type.bare, bracketed := .inl rfl,
          modifies := .inl rfl }
      have written : alone.text = String.ofList type.name := by simp [alone, Reported.text]
      rw [classify, classify, type.baseName_of_oneLine oneLine, ← written,
        alone.baseName_of_oneLine (by simp [alone])]
  · intro first second same
    rw [classify, classify, baseName_eq_of_equalsIgnoringCase same]

/-- The blanks of this type hold a line feed, and its parameters do not. -/
def paddedType : Reported where
  before := [' ']
  name := "BigInt".toList
  gap := ['\t']
  parameters := "(20 unsigned>".toList
  modifier := "\n uNSIGNED".toList
  after := [' ']
  bracketed := .inr ⟨'(', "20 unsigned".toList, '>', rfl, rfl, rfl⟩
  modifies := .inr ⟨['\n', ' '], "uNSIGNED".toList, rfl, by decide, by decide, by decide⟩

def brokenType : Reported where
  name := "struct".toList
  parameters := "<a:int,\nb:array<int>>".toList
  bracketed := .inr ⟨'<', "a:int,\nb:array<int>".toList, '>', rfl, rfl, rfl⟩
  modifies := .inl rfl

theorem classify_text_paddedType :
    equalsIgnoringCase "DeciMAL(10,2) Unsigned" "dEciMAL(10,2) UnsigneD" = true ∧
      classify paddedType.text = .bigInteger ∧ classify brokenType.text = .unknown ∧
      classify "DeciMAL(10,2) Unsigned" = classify "dEciMAL(10,2) UnsigneD" := by
  have same : equalsIgnoringCase "DeciMAL(10,2) Unsigned" "dEciMAL(10,2) UnsigneD" = true := by
    decide
  refine ⟨same, ?_, ?_, classify_text.2 _ _ same⟩
  · rw [classify_text.1 paddedType, if_neg (by decide)]
    decide
  · rw [classify_text.1 brokenType, if_pos (by decide)]

end ImpalaAdapter.Sql.NativeType
