/-
This file takes SQL text apart at its quotes, and reads the strings and the arguments that it holds.
-/

import ImpalaAdapter.Proofs.Sql.Word
import ImpalaAdapter.Proofs.Text.Cut
import ImpalaAdapter.Proofs.Text.Quoted
import ImpalaAdapter.Sql.Flavor

namespace ImpalaAdapter.Sql

open Text

/-- SQL text is made of quoted texts and of single characters outside of quotes. -/
inductive Piece where
  | quoted (quote : Char) (content : List Char)
  | bare (character : Char)
deriving DecidableEq

/-- Identifiers and strings of all flavors stand between these characters. -/
def isQuote (character : Char) : Bool :=
  character == stringQuote || character == QuoteStyle.doubleQuote.mark ||
    character == QuoteStyle.backtick.mark

/-- A text whose last quote is left open has no pieces. -/
def pieces (text : List Char) : Option (List Piece) :=
  match text with
  | [] => some []
  | first :: rest =>
      if isQuote first then
        match _ : scanQuoted first rest with
        | some (content, after) => (pieces after).map (.quoted first content :: ·)
        | none => none
      else (pieces rest).map (.bare first :: ·)
termination_by text.length
decreasing_by
  · exact Nat.lt_succ_of_lt (scanQuoted_shorter ‹_›)
  · exact Nat.lt_succ_self _

def Piece.string? : Piece → Option (List Char)
  | .quoted quote content => if quote = stringQuote then some content else none
  | .bare _ => none

/-- The contents of the strings in a text. -/
def stringContents (text : List Char) : Option (List (List Char)) :=
  (pieces text).map fun parts => parts.filterMap Piece.string?

def depthAfter (depth : Nat) (piece : Piece) : Nat :=
  if piece = .bare '(' then depth + 1
  else if piece = .bare ')' then depth - 1
  else depth

/-- Commas divide the arguments of a call up to the parenthesis that closes it, which has to come
last. Commas in quoted texts and in inner parentheses divide nothing. -/
def divideArguments (depth : Nat) : List Piece → Option (List (List Piece))
  | [] => none
  | piece :: rest =>
      if depth = 0 ∧ piece = .bare ')' then
        if rest = [] then some [[]] else none
      else if depth = 0 ∧ piece = .bare ',' then
        (divideArguments depth rest).map ([] :: ·)
      else
        (divideArguments (depthAfter depth piece) rest).map fun parts =>
          parts.modifyHead (piece :: ·)

/-- The spaces before an argument are no part of it. -/
def dropSpaces (argument : List Piece) : List Piece :=
  argument.dropWhile (· = .bare ' ')

/-- The arguments that a text holds before the parenthesis at its end. -/
def closedArguments (text : List Char) : Option (List (List Piece)) :=
  ((pieces text).bind (divideArguments 0)).map fun arguments => arguments.map dropSpaces

/-- A call is a word with its arguments in parentheses. -/
def readCall (text : List Char) : Option (List Char × List (List Piece)) := do
  let (name, inner) ← cutAt '(' text
  if name.all continuesWord then
    (closedArguments inner).map fun arguments => (name, arguments)
  else none

section
variable {quote character : Char} {content bare rest : List Char}

theorem pieces_bare (isBare : isQuote character = false) :
    pieces (character :: rest) = (pieces rest).map (.bare character :: ·) := by
  rw [pieces, if_neg (by simp [isBare])]

theorem pieces_bare_append (isBare : bare.all (!isQuote ·)) (rest : List Char) :
    pieces (bare ++ rest) = (pieces rest).map (bare.map .bare ++ ·) := by
  induction bare with
  | nil => simp
  | cons character bare inductionHypothesis =>
      rw [List.all_cons, Bool.and_eq_true, Bool.not_eq_true'] at isBare
      rw [List.cons_append, pieces_bare isBare.1, inductionHypothesis isBare.2, Option.map_map]
      rfl

theorem pieces_of_bare (isBare : bare.all (!isQuote ·)) : pieces bare = some (bare.map .bare) := by
  have append := pieces_bare_append isBare []
  rw [List.append_nil, pieces] at append
  simpa using append

/-- A quoted text is one piece, whatever it holds, when another character follows it. -/
theorem pieces_quoted (isQuote : isQuote quote) (stops : StopsRun (· == quote) rest) :
    pieces (quote :: doubled quote content ++ quote :: rest) =
      (pieces rest).map (.quoted quote content :: ·) := by
  have scanned := scanQuoted_doubled quote content rest stops
  rw [List.cons_append, pieces, if_pos isQuote]
  split
  case h_1 found after same =>
    rw [scanned] at same
    cases same
    rfl
  case h_2 failed =>
    rw [scanned] at failed
    cases failed

/-- The strings of a text are known when what stands around one of them has no quotes. -/
theorem stringContents_between {before after : List Char} (isBefore : before.all (!isQuote ·))
    (isAfter : after.all (!isQuote ·)) :
    stringContents (before ++ (stringQuote :: doubled stringQuote content ++ stringQuote :: after)) =
      some [content] := by
  have unquoted : ∀ bare : List Char, (bare.map Piece.bare).filterMap Piece.string? = [] := by
    intro bare
    simp [List.filterMap_map, Piece.string?]
  have stops : StopsRun (· == stringQuote) after := by
    intro character first
    have different := List.all_eq_true.mp isAfter character (List.mem_of_mem_head? first)
    simp only [isQuote, Bool.not_eq_true', Bool.or_eq_false_iff] at different
    exact different.1.1
  rw [stringContents, pieces_bare_append isBefore, pieces_quoted (by decide) stops,
    pieces_of_bare isAfter]
  simp [unquoted, Piece.string?]

end

/-- Such a piece goes to the argument in which it stands. -/
def Piece.isInner (piece : Piece) : Bool :=
  !([.bare '(', .bare ')', .bare ','].contains piece)

theorem divideArguments_inner {piece : Piece} (inner : piece.isInner) (depth : Nat)
    (rest : List Piece) :
    divideArguments depth (piece :: rest) =
      (divideArguments depth rest).map fun arguments => arguments.modifyHead (piece :: ·) := by
  simp only [Piece.isInner, List.contains_cons, List.contains_nil, Bool.or_false,
    Bool.not_eq_true', Bool.or_eq_false_iff, beq_eq_false_iff_ne] at inner
  obtain ⟨noOpening, noClosing, noComma⟩ := inner
  rw [divideArguments, if_neg (by simp [noClosing]), if_neg (by simp [noComma]), depthAfter,
    if_neg noOpening, if_neg noClosing]

theorem closedArguments_space (rest : List Char) :
    closedArguments (' ' :: rest) = closedArguments rest := by
  have isBare : isQuote ' ' = false := by decide
  rw [closedArguments, closedArguments, pieces_bare isBare]
  cases pieces rest with
  | none => rfl
  | some parts =>
      show (divideArguments 0 (.bare ' ' :: parts)).map _ = (divideArguments 0 parts).map _
      rw [divideArguments_inner (by decide), Option.map_map]
      congr 1
      funext arguments
      cases arguments with
      | nil => rfl
      | cons argument others => rfl

/-- A string before a comma is one argument, whatever it holds. -/
theorem closedArguments_string (content rest : List Char) :
    closedArguments (stringQuote :: doubled stringQuote content ++ stringQuote :: ',' :: rest) =
      (closedArguments rest).map ([.quoted stringQuote content] :: ·) := by
  have stops : StopsRun (· == stringQuote) (',' :: rest) := (stopsRun_cons ..).mpr (by decide)
  have isBare : isQuote ',' = false := by decide
  rw [closedArguments, closedArguments, pieces_quoted (by decide) stops, pieces_bare isBare]
  cases pieces rest with
  | none => rfl
  | some parts =>
      have divided : divideArguments 0 (.bare ',' :: parts) =
          (divideArguments 0 parts).map ([] :: ·) := by
        rw [divideArguments, if_neg (by decide), if_pos (by decide)]
      have inner : (Piece.quoted stringQuote content).isInner := by simp [Piece.isInner]
      show (divideArguments 0 (.quoted stringQuote content :: .bare ',' :: parts)).map _ =
        ((divideArguments 0 parts).map _).map _
      rw [divideArguments_inner inner, divided, Option.map_map, Option.map_map, Option.map_map]
      rfl

/-- The name of a call ends at its parenthesis. -/
theorem readCall_append {name : List Char} (isName : name.all continuesWord) (inner : List Char) :
    readCall (name ++ '(' :: inner) =
      (closedArguments inner).map fun arguments => (name, arguments) := by
  have absent : '(' ∉ name := by
    intro member
    have continues := List.all_eq_true.mp isName '(' member
    exact absurd continues (by decide)
  rw [readCall, cutAt_append absent]
  exact if_pos isName

/-- A character of a word or a sign like it is neither a quote nor a divider of arguments. -/
def isPlainSign (character : Char) : Bool :=
  !isQuote character && !(['(', ')', ',', ' '].contains character)

theorem divideArguments_bare {bare : List Char} (plain : bare.all isPlainSign) :
    divideArguments 0 (bare.map .bare ++ [.bare ')']) = some [bare.map .bare] := by
  induction bare with
  | nil => rfl
  | cons character bare inductionHypothesis =>
      rw [List.all_cons, Bool.and_eq_true] at plain
      have inner : (Piece.bare character).isInner := by
        have sign := plain.1
        simp [isPlainSign] at sign
        simp [Piece.isInner, sign]
      rw [List.map_cons, List.cons_append, divideArguments_inner inner,
        inductionHypothesis plain.2]
      rfl

/-- A text of plain signs is one argument. -/
theorem closedArguments_bare {bare : List Char} (plain : bare.all isPlainSign) :
    closedArguments (bare ++ [')']) = some [bare.map .bare] := by
  have unquoted : (bare ++ [')']).all (!isQuote ·) := by
    rw [List.all_append, Bool.and_eq_true]
    refine ⟨List.all_eq_true.mpr ?_, by decide⟩
    intro character member
    have sign := List.all_eq_true.mp plain character member
    rw [isPlainSign, Bool.and_eq_true] at sign
    exact sign.1
  have solid : dropSpaces (bare.map .bare) = bare.map .bare := by
    cases bare with
    | nil => rfl
    | cons character bare =>
        have sign := List.all_eq_true.mp plain character (List.mem_cons_self ..)
        simp [isPlainSign] at sign
        simp [dropSpaces, sign]
  rw [closedArguments, pieces_of_bare unquoted, Option.bind_some, List.map_append,
    List.map_singleton, divideArguments_bare plain]
  simp [solid]

end ImpalaAdapter.Sql
