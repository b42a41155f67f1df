/-
This file shows that the reader gives back whole expressions from their SQL.
-/

import ImpalaAdapter.Proofs.Sql.CallReading

namespace ImpalaAdapter.Sql

namespace Reader

/-- A grouping can restore each tree of the class from its spine, and the parts of a tree of the
class are in the class. -/
structure Readable (group : Chain → Expression) (belongs : Expression → Prop) : Prop where
  single : ∀ operand, group (operand, []) = operand
  regroups : ∀ {expression}, belongs expression → group expression.spine = expression
  binary : ∀ {left operator right}, belongs (.binary left operator right) →
    belongs left ∧ belongs right ∧ right.isBinary = false
  call : ∀ {name arguments}, belongs (.call name arguments) →
    isWord name ∧ ∀ argument ∈ arguments, belongs argument
  castToTimestamp : ∀ {operand}, belongs (.castToTimestamp operand) → belongs operand
  extract : ∀ {part operand}, belongs (.extract part operand) → belongs operand
  parenthesized : ∀ {operand}, belongs (.parenthesized operand) → belongs operand
  verbatim : ∀ {sql}, belongs (.verbatim sql) → IsInterval sql

/-- The inner reader restores the shorter expressions of a class, and bare words too. -/
structure RestoresBelow (flavor : Flavor) (belongs : Expression → Prop)
    (inner : Reader Expression) (bound : Nat) : Prop where
  expressions : ∀ expression, belongs expression → (expression.text flavor).length < bound →
    Restores flavor inner expression
  words : ∀ name, isWord name → name ≠ intervalWord → name.toList.length < bound →
    Restores flavor inner (.verbatim name)
  refuses : ∀ rest, inner (')' :: rest) = none

section
variable {flavor : Flavor} {inner : Reader Expression}

/-- These characters open the operands that are neither words nor numbers. -/
def openingMarks : List Char := ['"', '\x60', stringQuote, '(']

theorem operand_unmarked {first : Char} (rest : List Char) (unmarked : first ∉ openingMarks) :
    operand flavor inner (first :: rest) =
      if opensWord first then word inner (first :: rest)
      else (integer (first :: rest)).map fun found => (.integer found.1, found.2) := by
  have noMark : first ≠ flavor.mark := by
    rintro rfl
    cases flavor <;> exact unmarked (by decide)
  have noQuote : first ≠ stringQuote := by
    rintro rfl
    exact unmarked (by decide)
  have noParenthesis : first ≠ '(' := by
    rintro rfl
    exact unmarked (by decide)
  simp [operand, noMark, noQuote, noParenthesis]

theorem operand_word {name : String} {text : List Char} (isName : isWord name)
    (starts : name.toList <+: text) : operand flavor inner text = word inner text := by
  obtain ⟨rest, rfl⟩ := starts
  obtain ⟨first, more, letters, opens, _⟩ := exists_cons_of_isWord isName
  have unmarked : first ∉ openingMarks := by
    intro marked
    have noneOpens : openingMarks.any opensWord = false := by decide
    exact List.any_eq_false.mp noneOpens first marked opens
  rw [letters, List.cons_append, operand_unmarked _ unmarked, if_pos opens]

theorem operand_integer (value : Int) {rest : List Char} (ends : EndsOperand rest) :
    operand flavor inner (signedDigits value ++ rest) = some (.integer value, rest) := by
  have opening : ∃ first more, signedDigits value = first :: more ∧
      (first = '-' ∨ isDigit first) := by
    by_cases negative : value < 0
    · exact ⟨'-', digits value.natAbs, by simp [signedDigits, negative], .inl rfl⟩
    · obtain ⟨first, more, opening, digit⟩ := exists_cons_digits value.natAbs
      exact ⟨first, more, by simp [signedDigits, negative, opening], .inr digit⟩
  have stops : Text.StopsRun isDigit rest := ends.stopsRun (by decide)
  have restored := integer_signedDigits value stops
  obtain ⟨first, more, letters, kind⟩ := opening
  have unmarked : first ∉ openingMarks := by
    intro marked
    rcases kind with rfl | digit
    · exact absurd marked (by decide)
    · have noDigit : openingMarks.any isDigit = false := by decide
      exact List.any_eq_false.mp noDigit first marked digit
  have noWord : ¬ opensWord first := by
    rcases kind with rfl | digit
    · decide
    · simp [opensWord_of_isDigit digit]
  rw [letters, List.cons_append] at restored ⊢
  rw [operand_unmarked _ unmarked, if_neg noWord, restored]
  rfl

variable {belongs : Expression → Prop} {group : Chain → Expression} {bound : Nat}

/-- An operand of the class reads back from its own text. -/
theorem operand_text (readable : Readable group belongs)
    (below : RestoresBelow flavor belongs inner bound) {expression : Expression}
    (member : belongs expression) (single : expression.isBinary = false)
    (short : (expression.text flavor).length ≤ bound) {rest : List Char}
    (ends : EndsOperand rest) :
    operand flavor inner (expression.text flavor ++ rest) = some (expression, rest) := by
  cases expression with
  | column table name =>
      cases table with
      | none =>
          rw [Expression.text_bareColumn]
          simp [operand, column_bare flavor name ends]
      | some table =>
          rw [Expression.text_qualifiedColumn]
          simpa [operand] using column_qualified flavor table name ends
  | integer value =>
      rw [Expression.text_integer]
      exact operand_integer value ends
  | string content =>
      have noMark : stringQuote ≠ flavor.mark := by cases flavor <;> decide
      rw [Expression.text_string]
      simp [operand, noMark, string_text content ends]
  | binary left operator right => cases single
  | call name list =>
      obtain ⟨isName, members⟩ := readable.call member
      have shorter : (Expression.argumentText flavor list).length < bound := by
        simp [Expression.text_call] at short
        omega
      have restores : ∀ argument ∈ list, Restores flavor inner argument := by
        intro argument inside
        exact below.expressions argument (members argument inside)
          (Nat.lt_of_le_of_lt (length_text_le_argumentText inside) shorter)
      have starts : name.toList <+: (Expression.call name list).text flavor ++ rest := by
        simp [Expression.text_call]
      rw [operand_word isName starts, word_call rest isName restores below.refuses]
  | castToTimestamp inside =>
      have restores := below.expressions inside (readable.castToTimestamp member)
        (by simp [Expression.text_castToTimestamp] at short; omega)
      have starts : "CAST".toList <+: (Expression.castToTimestamp inside).text flavor ++ rest := by
        simp [Expression.text_castToTimestamp]
      rw [operand_word (by decide) starts, word_castToTimestamp rest restores below.refuses]
  | extract part inside =>
      have shorter : part.keyword.toList.length + (inside.text flavor).length < bound := by
        simp [Expression.text_extract] at short ⊢
        omega
      have restores := below.expressions inside (readable.extract member) (by omega)
      have keyword := below.words part.keyword (by cases part <;> decide)
        (by cases part <;> decide) (by omega)
      have starts : "EXTRACT".toList <+: (Expression.extract part inside).text flavor ++ rest := by
        simp [Expression.text_extract]
      rw [operand_word (by decide) starts, word_extract rest keyword restores below.refuses]
  | parenthesized inside =>
      have restores := below.expressions inside (readable.parenthesized member)
        (by simp [Expression.text_parenthesized] at short; omega)
      have noMark : '(' ≠ flavor.mark := by cases flavor <;> decide
      have noQuote : '(' ≠ stringQuote := by decide
      rw [Expression.text_parenthesized]
      simp [operand, noMark, noQuote, parenthesized_text rest restores]
  | verbatim sql =>
      have isInterval := readable.verbatim member
      have starts : intervalWord.toList <+: sql.toList ++ rest := by
        obtain ⟨amount, unit, letters, _⟩ := isInterval
        simp [letters]
      rw [Expression.text_verbatim, operand_word (by decide) starts, word_interval isInterval ends]

/-- Reading a chain from its first operand on collects the spine of the expression. -/
theorem chain_text (readable : Readable group belongs)
    (below : RestoresBelow flavor belongs inner bound) (expression : Expression)
    (member : belongs expression) (short : (expression.text flavor).length ≤ bound)
    (rest : List Char) (ends : EndsOperand rest) :
    ∃ rounds, rest.length ≤ rounds ∧
      chain flavor (operand flavor inner) (expression.text flavor ++ rest) =
        links flavor (operand flavor inner) rounds expression.spine rest := by
  induction expression using Expression.spine.induct generalizing rest with
  | case1 left operator right inductionHypothesis =>
      obtain ⟨leftMember, rightMember, rightSingle⟩ := readable.binary member
      rw [Expression.text_binary, List.length_append, List.length_append] at short
      have spaced : EndsOperand
          (operatorText flavor operator ++ (right.text flavor ++ rest)) := by
        simp [EndsOperand, operatorText]
      obtain ⟨rounds, enough, read⟩ := inductionHypothesis leftMember (by omega) _ spaced
      have further := operand_text readable below rightMember rightSingle (by omega) ends
      obtain ⟨rounds, rfl⟩ : ∃ fewer, rounds = fewer + 1 :=
        ⟨rounds - 1, by simp [operatorText] at enough; omega⟩
      refine ⟨rounds, by simp [operatorText] at enough; omega, ?_⟩
      rw [Expression.text_binary, List.append_assoc, List.append_assoc, read, links,
        operator_operatorText]
      simp [further, Expression.spine]
  | case2 expression noBinary =>
      have single : expression.isBinary = false := by
        cases expression with
        | binary left operator right => exact (noBinary left operator right rfl).elim
        | _ => rfl
      have first := operand_text readable below member single short ends
      refine ⟨rest.length, Nat.le_refl _, ?_⟩
      simp [chain, first, Expression.spine_of_single single]

theorem links_end (operand : Reader Expression) (rounds : Nat) (found : Chain) {rest : List Char}
    (ends : EndsExpression flavor rest) :
    links flavor operand rounds found rest = some (found, rest) := by
  cases rounds with
  | zero => rfl
  | succ rounds => simp [links, ends.2]

/-- Every depth restores the expressions of the class that are shorter than it. -/
theorem restoresBelow_expression (flavor : Flavor) (readable : Readable group belongs)
    (depth : Nat) : RestoresBelow flavor belongs (expression flavor group depth) depth := by
  induction depth with
  | zero =>
      exact ⟨fun _ _ short => absurd short (by omega),
        fun _ _ _ short => absurd short (by omega), fun _ => rfl⟩
  | succ depth inductionHypothesis =>
      constructor
      case expressions =>
        intro found member short rest ends
        obtain ⟨rounds, _, read⟩ := chain_text readable inductionHypothesis found member
          (by omega) rest ends.1
        rw [expression, read, links_end _ _ _ ends, Option.map_some, readable.regroups member]
      case words =>
        intro name isName plain _ rest ends
        have bare : operand flavor (expression flavor group depth) (name.toList ++ rest) =
            some (.verbatim name, rest) := by
          rw [operand_word isName (List.prefix_append ..), word_bare isName plain ends.1]
        rw [Expression.text_verbatim, expression, chain, bare]
        simp [links_end _ _ _ ends, readable.single]
      case refuses =>
        intro rest
        have refused : operand flavor (expression flavor group depth) (')' :: rest) = none := by
          rw [operand_unmarked rest (by decide), if_neg (by decide)]
          rfl
        simp [expression, chain, refused]

end

end Reader

/-- The reader gives back each expression of a readable class from its SQL. -/
theorem readExpression_sql (flavor : Flavor) {group : Chain → Expression}
    {belongs : Expression → Prop} (readable : Reader.Readable group belongs)
    {expression : Expression} (member : belongs expression) :
    readExpression flavor group (expression.sql flavor) = some expression := by
  have below := Reader.restoresBelow_expression flavor readable
    ((expression.text flavor).length + 1)
  have read := below.expressions expression member (by omega) [] (endsExpression_nil flavor)
  rw [List.append_nil] at read
  rw [readExpression, ← Expression.text, read]

end ImpalaAdapter.Sql
