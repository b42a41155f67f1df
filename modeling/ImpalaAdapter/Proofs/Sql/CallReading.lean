/-
This file shows that calls, casts and extractions read back from their parts.
-/

import ImpalaAdapter.Proofs.Sql.LexemeReading

namespace ImpalaAdapter.Sql.Reader

variable {flavor : Flavor} {inner : Reader Expression}

/-- The reader gives back this expression in front of every text that can follow one. -/
def Restores (flavor : Flavor) (inner : Reader Expression) (expression : Expression) : Prop :=
  ∀ rest, EndsExpression flavor rest →
    inner (expression.text flavor ++ rest) = some (expression, rest)

theorem endsExpression_furtherText (arguments : List Expression) {rest : List Char}
    (ends : EndsExpression flavor rest) :
    EndsExpression flavor (Expression.furtherText flavor arguments ++ rest) := by
  cases arguments with
  | nil => exact ends
  | cons => exact endsExpression_cons flavor _ (.inr rfl)

theorem length_le_furtherText (flavor : Flavor) (arguments : List Expression) :
    arguments.length ≤ (Expression.furtherText flavor arguments).length := by
  induction arguments with
  | nil => simp
  | cons next others inductionHypothesis =>
      simp only [Expression.furtherText, List.flatMap_cons, List.length_append,
        List.length_cons] at *
      omega

/-- Further arguments read back up to a text that does not start with a comma. -/
theorem furtherArguments_text (arguments : List Expression) {rest : List Char} (rounds : Nat)
    (ends : EndsExpression flavor rest) (noComma : skip ", " rest = none)
    (restores : ∀ argument ∈ arguments, Restores flavor inner argument)
    (enough : arguments.length ≤ rounds) :
    furtherArguments inner rounds (Expression.furtherText flavor arguments ++ rest) =
      some (arguments, rest) := by
  induction arguments generalizing rounds with
  | nil =>
      cases rounds with
      | zero => rfl
      | succ rounds => simp [Expression.furtherText, furtherArguments, noComma]
  | cons next others inductionHypothesis =>
      obtain ⟨rounds, rfl⟩ : ∃ fewer, rounds = fewer + 1 :=
        ⟨rounds - 1, by simp at enough; omega⟩
      have remaining := inductionHypothesis rounds
        (fun argument member => restores argument (List.mem_cons_of_mem _ member))
        (by simpa using enough)
      have comma : Expression.furtherText flavor (next :: others) ++ rest =
          ", ".toList ++ (next.text flavor ++ (Expression.furtherText flavor others ++ rest)) := by
        simp [Expression.furtherText]
      rw [comma, furtherArguments, skip_append]
      simp [restores next (List.mem_cons_self ..) _ (endsExpression_furtherText others ends),
        remaining]

/-- A reader that takes no closing parenthesis reads back a nonempty list of arguments. -/
theorem arguments_cons (first : Expression) (others : List Expression) {rest : List Char}
    (ends : EndsExpression flavor rest) (noComma : skip ", " rest = none)
    (restores : ∀ argument ∈ first :: others, Restores flavor inner argument)
    (refuses : ∀ rest, inner (')' :: rest) = none) :
    arguments inner (Expression.argumentText flavor (first :: others) ++ rest) =
      some (first :: others, rest) := by
  have opening := restores first (List.mem_cons_self ..) _
    (endsExpression_furtherText others ends)
  have remaining := furtherArguments_text others
    (Expression.furtherText flavor others ++ rest).length ends noComma
    (fun argument member => restores argument (List.mem_cons_of_mem _ member))
    (Nat.le_trans (length_le_furtherText flavor others) (by simp))
  have noClosing : skip ")" (first.text flavor ++
      (Expression.furtherText flavor others ++ rest)) = none := by
    cases closing : skip ")" (first.text flavor ++
        (Expression.furtherText flavor others ++ rest)) with
    | none => rfl
    | some after =>
        rw [← List.isPrefixOf?_eq_some_iff_append_eq.mp closing] at opening
        exact absurd ((refuses after).symm.trans opening) (by simp)
  rw [Expression.argumentText, List.append_assoc, arguments, noClosing]
  simp only [Option.bind_eq_bind, opening, Option.bind_some, remaining]

theorem arguments_text (list : List Expression) (rest : List Char)
    (restores : ∀ argument ∈ list, Restores flavor inner argument)
    (refuses : ∀ rest, inner (')' :: rest) = none) :
    arguments inner (Expression.argumentText flavor list ++ ')' :: rest) =
      some (list, ')' :: rest) := by
  cases list with
  | nil => rfl
  | cons first others =>
      exact arguments_cons first others (endsExpression_cons flavor rest (.inl rfl)) rfl
        restores refuses

/-- No argument is longer than the whole list. -/
theorem length_text_le_argumentText {argument : Expression} {list : List Expression}
    (member : argument ∈ list) :
    (argument.text flavor).length ≤ (Expression.argumentText flavor list).length := by
  cases list with
  | nil => cases member
  | cons first others =>
      rw [Expression.argumentText, List.length_append]
      rcases List.mem_cons.mp member with rfl | member
      · omega
      · obtain ⟨before, after, rfl⟩ := List.append_of_mem member
        simp only [Expression.furtherText, List.flatMap_append, List.flatMap_cons,
          List.length_append, List.length_cons]
        omega

theorem word_bare {name : String} {rest : List Char} (isName : isWord name)
    (plain : name ≠ intervalWord) (ends : EndsOperand rest) :
    word inner (name.toList ++ rest) = some (.verbatim name, rest) := by
  have split := word_split isName (ends.stopsRun (by decide))
  have noParenthesis : skip "(" rest = none :=
    isPrefixOf?_eq_none _ (ends.stopsRun (by decide))
  simp [word, split, noParenthesis, plain]

/-- The amount of an interval has no spaces, and its unit has no other signs than a word. -/
def IsInterval (sql : String) : Prop :=
  ∃ amount unit : List Char, sql.toList = intervalWord.toList ++ ' ' :: amount ++ ' ' :: unit ∧
    ' ' ∉ amount ∧ ∀ character ∈ unit, continuesWord character

theorem word_interval {sql : String} {rest : List Char} (isInterval : IsInterval sql)
    (ends : EndsOperand rest) : word inner (sql.toList ++ rest) = some (.verbatim sql, rest) := by
  obtain ⟨amount, unit, letters, noSpace, continues⟩ := isInterval
  let behind := amount ++ ' ' :: (unit ++ rest)
  have text : sql.toList ++ rest = intervalWord.toList ++ ' ' :: behind := by
    simp [letters, behind]
  have opening : (sql.toList ++ rest).takeWhile continuesWord = intervalWord.toList ∧
      (sql.toList ++ rest).dropWhile continuesWord = ' ' :: behind := by
    rw [text]
    exact word_split (by decide) (by rw [Text.stopsRun_cons]; decide)
  have noParenthesis : skip "(" (' ' :: behind) = none := rfl
  have space (after : List Char) : skip " " (' ' :: after) = some after := rfl
  have inside : ∀ character ∈ amount, decide (character ≠ ' ') := by
    intro character member
    rw [decide_eq_true_eq]
    rintro rfl
    exact noSpace member
  have stops : Text.StopsRun (· ≠ ' ') (' ' :: (unit ++ rest)) := by simp
  have ending : Text.StopsRun continuesWord rest := ends.stopsRun (by decide)
  have restored : String.ofList (intervalWord.toList ++ ' ' :: amount ++ ' ' :: unit) = sql := by
    rw [← letters, String.ofList_toList]
  rw [word, opening.1, opening.2, noParenthesis]
  simp only [String.ofList_toList, if_true, interval, space, Option.bind_eq_bind,
    Option.bind_some, behind, Text.takeWhile_run inside stops, Text.dropWhile_run inside stops,
    Text.takeWhile_run continues ending, Text.dropWhile_run continues ending, restored]

/-- After its opening parenthesis a word goes on with its arguments. -/
theorem word_parenthesis {name : String} {list : List Expression} {text rest : List Char}
    (isName : isWord name) (found : arguments inner text = some (list, rest)) :
    word inner (name.toList ++ '(' :: text) = closeCall inner name list rest := by
  have stops : Text.StopsRun continuesWord ('(' :: text) := by
    rw [Text.stopsRun_cons]
    decide
  have split := word_split isName stops
  have opening : skip "(" ('(' :: text) = some text := skip_append "(" text
  simp [word, split, opening, found]

theorem word_call {name : String} {list : List Expression} (rest : List Char)
    (isName : isWord name) (restores : ∀ argument ∈ list, Restores flavor inner argument)
    (refuses : ∀ rest, inner (')' :: rest) = none) :
    word inner ((Expression.call name list).text flavor ++ rest) =
      some (.call name list, rest) := by
  have found := arguments_text list rest restores refuses
  have text : (Expression.call name list).text flavor ++ rest =
      name.toList ++ '(' :: (Expression.argumentText flavor list ++ ')' :: rest) := by
    simp [Expression.text_call]
  rw [text, word_parenthesis isName found]
  unfold closeCall
  rw [skip_closing]

theorem word_castToTimestamp {operand : Expression} (rest : List Char)
    (restores : Restores flavor inner operand) (refuses : ∀ rest, inner (')' :: rest) = none) :
    word inner ((Expression.castToTimestamp operand).text flavor ++ rest) =
      some (.castToTimestamp operand, rest) := by
  have found := arguments_cons operand []
    (endsExpression_keyword flavor rest (.inl rfl)) rfl (by simpa using restores) refuses
  have noClosing : skip ")" (" AS TIMESTAMP)".toList ++ rest) = none := rfl
  have text : (Expression.castToTimestamp operand).text flavor ++ rest =
      "CAST".toList ++ '(' :: (Expression.argumentText flavor [operand] ++
        (" AS TIMESTAMP)".toList ++ rest)) := by
    simp [Expression.text_castToTimestamp, Expression.argumentText, Expression.furtherText]
  rw [text, word_parenthesis (by decide) found, closeCall, noClosing]
  unfold special
  rw [if_pos rfl, skip_append]
  rfl

theorem ofKeyword?_keyword (part : DatePart) : DatePart.ofKeyword? part.keyword = some part := by
  cases part <;> rfl

/-- The part of an extraction is read as a bare word before its operand is. -/
theorem word_extract {part : DatePart} {operand : Expression} (rest : List Char)
    (keyword : Restores flavor inner (.verbatim part.keyword))
    (restores : Restores flavor inner operand) (refuses : ∀ rest, inner (')' :: rest) = none) :
    word inner ((Expression.extract part operand).text flavor ++ rest) =
      some (.extract part operand, rest) := by
  have found := arguments_cons (.verbatim part.keyword) []
    (endsExpression_keyword flavor (operand.text flavor ++ ')' :: rest) (.inr rfl)) rfl
    (by simpa using keyword) refuses
  have noClosing (after : List Char) : skip ")" (" FROM ".toList ++ after) = none := rfl
  have inside := restores _ (endsExpression_cons flavor rest (.inl rfl))
  have text : (Expression.extract part operand).text flavor ++ rest =
      "EXTRACT".toList ++ '(' :: (Expression.argumentText flavor [.verbatim part.keyword] ++
        (" FROM ".toList ++ (operand.text flavor ++ ')' :: rest))) := by
    simp [Expression.text_extract, Expression.text_verbatim, Expression.argumentText,
      Expression.furtherText]
  rw [text, word_parenthesis (by decide) found, closeCall, noClosing]
  unfold special
  rw [if_neg (by decide), if_pos rfl]
  simp only [ofKeyword?_keyword, skip_append, Option.bind_eq_bind, Option.bind_some, inside,
    skip_closing]

theorem parenthesized_text {operand : Expression} (rest : List Char)
    (restores : Restores flavor inner operand) :
    parenthesized inner (operand.text flavor ++ ')' :: rest) =
      some (.parenthesized operand, rest) := by
  simp [parenthesized, restores _ (endsExpression_cons flavor rest (.inl rfl)), skip_closing]

end ImpalaAdapter.Sql.Reader
