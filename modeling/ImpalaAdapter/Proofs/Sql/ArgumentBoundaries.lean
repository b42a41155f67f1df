/-
This file shows that the parentheses in the tokens of an expression are balanced, and that the commas
outside of inner parentheses divide the arguments of a call.
-/

import ImpalaAdapter.Sql.Expression

namespace ImpalaAdapter.Sql

/-- The depth after a token sequence counts the parentheses that it opens and does not close. -/
def depth (tokens : List Token) : Int :=
  tokens.count .openParen - tokens.count .closeParen

theorem depth_nil : depth [] = 0 :=
  rfl

theorem depth_append (first second : List Token) :
    depth (first ++ second) = depth first + depth second := by
  simp only [depth, List.count_append]
  omega

theorem depth_cons (token : Token) (rest : List Token) :
    depth (token :: rest) = depth [token] + depth rest :=
  depth_append [token] rest

/-- No prefix closes more parentheses than it has opened, and the whole sequence closes all. -/
structure Balanced (tokens : List Token) : Prop where
  covered : ∀ part, part <+: tokens → 0 ≤ depth part
  closed : depth tokens = 0

/-- In a nested sequence every comma stands in parentheses. -/
structure Nested (tokens : List Token) : Prop extends Balanced tokens where
  commasInside : ∀ before after, tokens = before ++ .comma :: after → 0 < depth before

/-- Commas at level zero divide a token sequence. The level is the depth at which it starts. -/
def divideAtCommas (level : Int) : List Token → List (List Token)
  | [] => [[]]
  | token :: rest =>
      if token = .comma ∧ level = 0 then [] :: divideAtCommas level rest
      else (divideAtCommas (level + depth [token]) rest).modifyHead (token :: ·)

section
variable {first second inner tokens : List Token}

theorem balanced_of_noParens (absent : ∀ paren ∈ [.openParen, .closeParen], paren ∉ tokens) :
    Balanced tokens := by
  have flat (part : List Token) (inside : part ⊆ tokens) : depth part = 0 := by
    have missing (paren : Token) (isParen : paren ∈ [.openParen, .closeParen]) :
        part.count paren = 0 :=
      List.count_eq_zero_of_not_mem fun member => absent paren isParen (inside member)
    rw [depth, missing .openParen (by decide), missing .closeParen (by decide)]
    rfl
  exact ⟨fun part starts => Int.le_of_eq (flat part starts.subset).symm,
    flat tokens (List.Subset.refl _)⟩

theorem nested_of_noSigns
    (absent : ∀ sign ∈ [.openParen, .closeParen, .comma], sign ∉ tokens) : Nested tokens where
  toBalanced := by
    apply balanced_of_noParens
    intro paren isParen
    have isSign : paren ∈ [.openParen, .closeParen] ++ [.comma] := List.mem_append_left _ isParen
    exact absent paren isSign
  commasInside := by
    rintro before after rfl
    exact absurd (by simp) (absent .comma (by decide))

theorem Balanced.append (balanced : Balanced first) (balanced' : Balanced second) :
    Balanced (first ++ second) where
  covered := by
    rintro part ⟨after, split⟩
    rcases List.append_eq_append_iff.mp split with ⟨between, rfl, _⟩ | ⟨more, rfl, rfl⟩
    · exact balanced.covered part (List.prefix_append _ _)
    · rw [depth_append, balanced.closed, Int.zero_add]
      exact balanced'.covered more (List.prefix_append _ _)
  closed := by
    rw [depth_append, balanced.closed, balanced'.closed]
    rfl

theorem Nested.append (nested : Nested first) (nested' : Nested second) :
    Nested (first ++ second) where
  toBalanced := nested.toBalanced.append nested'.toBalanced
  commasInside := by
    intro before after split
    rcases List.append_eq_append_iff.mp split with ⟨between, rfl, rfl⟩ | ⟨more, rfl, divided⟩
    · rw [depth_append, nested.closed, Int.zero_add]
      exact nested'.commasInside between after rfl
    · rcases List.cons_eq_append_iff.mp divided with ⟨rfl, rfl⟩ | ⟨rest, rfl, _⟩
      · exact absurd (nested'.commasInside [] after rfl) (by decide)
      · exact nested.commasInside before rest rfl

/-- The first parenthesis stays open up to the last one. -/
theorem Balanced.depth_before (balanced : Balanced inner) {before after : List Token}
    {token : Token} (split : [.openParen] ++ inner ++ [.closeParen] = before ++ token :: after) :
    before = [] ∧ token = .openParen ∨ 0 < depth before := by
  cases before with
  | nil => exact .inl ⟨rfl, (List.cons.inj split).1.symm⟩
  | cons opening before =>
      obtain ⟨rfl, behind⟩ := List.cons.inj split
      have behind : inner ++ [.closeParen] = before ++ token :: after := behind
      have depth_nonneg_before_closing : 0 ≤ depth before := by
        rcases List.append_eq_append_iff.mp behind with ⟨more, rfl, divided⟩ | ⟨between, rfl, _⟩
        · cases more with
          | nil =>
              have closed : depth (inner ++ []) = 0 := by rw [List.append_nil, balanced.closed]
              exact Int.le_of_eq closed.symm
          | cons _ more => simp at divided
        · exact balanced.covered before (List.prefix_append _ _)
      have opened : depth [.openParen] = 1 := rfl
      rw [depth_cons, opened]
      exact .inr (by omega)

/-- Parentheses around a balanced sequence hold all of its commas. -/
theorem Balanced.parenthesized (balanced : Balanced inner) :
    Nested ([.openParen] ++ inner ++ [.closeParen]) where
  covered := by
    rintro part ⟨after, split⟩
    cases after with
    | nil =>
        rw [List.append_nil] at split
        rw [split, depth_append, depth_append, balanced.closed]
        decide
    | cons token after =>
        rcases balanced.depth_before split.symm with ⟨rfl, _⟩ | positive
        · decide
        · exact Int.le_of_lt positive
  closed := by
    rw [depth_append, depth_append, balanced.closed]
    rfl
  commasInside := by
    intro before after split
    rcases balanced.depth_before split with ⟨_, opening⟩ | positive
    · cases opening
    · exact positive

end

namespace Expression

variable (flavor : Flavor)

mutual

/-- The tokens of every expression are nested. -/
theorem nested_tokensFor : ∀ expression : Expression, Nested (expression.tokensFor flavor)
  | .column none name => by
      rw [tokensFor]
      exact nested_of_noSigns (by simp)
  | .column (some table) name => by
      rw [tokensFor]
      exact nested_of_noSigns (by simp)
  | .integer value => by
      rw [tokensFor]
      exact nested_of_noSigns (by simp)
  | .string text => by
      rw [tokensFor]
      exact nested_of_noSigns (by simp)
  | .binary left operator right => by
      rw [tokensFor]
      have between : Nested [.space, operator.token, .space] := by
        cases operator
        · exact nested_of_noSigns (by simp [BinaryOperator.token])
        · exact nested_of_noSigns (by simp [BinaryOperator.token])
      exact ((nested_tokensFor left).append between).append (nested_tokensFor right)
  | .call name arguments => by
      rw [tokensFor]
      have named : Nested [.functionName name] := nested_of_noSigns (by simp)
      exact named.append (balanced_argumentTokens arguments).parenthesized
  | .castToTimestamp operand => by
      rw [tokensFor]
      have keyword : Nested [.castKeyword] := nested_of_noSigns (by simp)
      have target : Nested [.space, .asKeyword, .space, .verbatim "TIMESTAMP"] :=
        nested_of_noSigns (by simp)
      have inner := (nested_tokensFor operand).append target
      simpa using keyword.append inner.toBalanced.parenthesized
  | .extract part operand => by
      rw [tokensFor]
      have keyword : Nested [.extractKeyword] := nested_of_noSigns (by simp)
      have opening : Nested [.verbatim part.keyword, .space, .fromKeyword, .space] :=
        nested_of_noSigns (by simp)
      have inner := opening.append (nested_tokensFor operand)
      simpa using keyword.append inner.toBalanced.parenthesized
  | .parenthesized operand => by
      rw [tokensFor]
      exact (nested_tokensFor operand).toBalanced.parenthesized
  | .verbatim sql => by
      rw [tokensFor]
      exact nested_of_noSigns (by simp)

/-- Arguments are balanced only, since the commas between them are at depth zero. -/
theorem balanced_argumentTokens :
    ∀ arguments : List Expression, Balanced (argumentTokens flavor arguments)
  | [] => by
      rw [argumentTokens]
      exact balanced_of_noParens (by simp)
  | first :: rest => by
      rw [argumentTokens]
      exact (nested_tokensFor first).toBalanced.append (balanced_furtherArgumentTokens rest)

theorem balanced_furtherArgumentTokens :
    ∀ arguments : List Expression, Balanced (furtherArgumentTokens flavor arguments)
  | [] => by
      rw [furtherArgumentTokens]
      exact balanced_of_noParens (by simp)
  | next :: rest => by
      rw [furtherArgumentTokens]
      have divider : Balanced [.comma, .space] := balanced_of_noParens (by simp)
      exact (divider.append (nested_tokensFor next).toBalanced).append
        (balanced_furtherArgumentTokens rest)

end

end Expression

section
variable {part rest : List Token}

/-- A part without commas at level zero stays in one piece. -/
theorem divideAtCommas_append {level : Int}
    (inside : ∀ before after, part = before ++ .comma :: after → level + depth before ≠ 0) :
    divideAtCommas level (part ++ rest) =
      (divideAtCommas (level + depth part) rest).modifyHead (part ++ ·) := by
  induction part generalizing level with
  | nil =>
      rw [List.nil_append, depth_nil, Int.add_zero]
      exact (congrFun List.modifyHead_id _).symm
  | cons token part inductionHypothesis =>
      have below : ¬ (token = .comma ∧ level = 0) := by
        rintro ⟨rfl, rfl⟩
        exact inside [] part rfl rfl
      have insidePart (before after : List Token) (split : part = before ++ .comma :: after) :
          level + depth [token] + depth before ≠ 0 := by
        have deeper := inside (token :: before) after (by rw [split, List.cons_append])
        rwa [depth_cons, ← Int.add_assoc] at deeper
      rw [List.cons_append, divideAtCommas, if_neg below, inductionHypothesis insidePart,
        List.modifyHead_modifyHead, depth_cons token part, Int.add_assoc]
      rfl

/-- A nested part opens the first piece of what comes after it. -/
theorem Nested.divideAtCommas_append (nested : Nested part) (rest : List Token) :
    divideAtCommas 0 (part ++ rest) = (divideAtCommas 0 rest).modifyHead (part ++ ·) := by
  have inside (before after : List Token) (split : part = before ++ .comma :: after) :
      0 + depth before ≠ 0 := by
    have positive := nested.commasInside before after split
    omega
  rw [Sql.divideAtCommas_append inside, nested.closed, Int.zero_add]

end

namespace Expression

variable (flavor : Flavor)

theorem divideAtCommas_furtherArgumentTokens (arguments : List Expression) :
    divideAtCommas 0 (furtherArgumentTokens flavor arguments) =
      [] :: arguments.map fun argument => .space :: argument.tokensFor flavor := by
  induction arguments with
  | nil => rw [furtherArgumentTokens]; rfl
  | cons next rest inductionHypothesis =>
      have space : Nested [.space] := nested_of_noSigns (by simp)
      have piece := space.append (nested_tokensFor flavor next)
      have divided : divideAtCommas 0 (furtherArgumentTokens flavor (next :: rest)) =
          [] :: divideAtCommas 0
            ([.space] ++ next.tokensFor flavor ++ furtherArgumentTokens flavor rest) := by
        rw [furtherArgumentTokens]
        exact if_pos ⟨rfl, rfl⟩
      rw [divided, piece.divideAtCommas_append, inductionHypothesis, List.modifyHead_cons,
        List.append_nil, List.map_cons, List.singleton_append]

/-- Rendered calls keep the boundaries of their arguments: the tokens of every expression are nested,
and the commas between the parentheses of a call divide exactly its arguments. All arguments but
the first come after a space. -/
theorem divideAtCommas_call :
    (∀ expression : Expression, Nested (expression.tokensFor flavor)) ∧
      ∀ name first rest, ∃ inner,
        (call name (first :: rest)).tokensFor flavor =
            [.functionName name, .openParen] ++ inner ++ [.closeParen] ∧
          Balanced inner ∧
          divideAtCommas 0 inner = first.tokensFor flavor ::
            rest.map fun argument => .space :: argument.tokensFor flavor := by
  refine ⟨nested_tokensFor flavor, ?_⟩
  intro name first rest
  refine ⟨argumentTokens flavor (first :: rest), by rw [tokensFor],
    balanced_argumentTokens flavor _, ?_⟩
  rw [argumentTokens, (nested_tokensFor flavor first).divideAtCommas_append,
    divideAtCommas_furtherArgumentTokens, List.modifyHead_cons, List.append_nil]

end Expression

end ImpalaAdapter.Sql
