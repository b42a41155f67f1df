/-
This file cuts a text after its longest leading run of one class of characters.
-/

import Mathlib.Data.List.TakeDrop

namespace ImpalaAdapter.Text

/-- The text starts with no character of the class. -/
def StopsRun (belongs : Char → Bool) (text : List Char) : Prop :=
  ∀ character ∈ text.head?, belongs character = false

@[simp] theorem stopsRun_nil (belongs : Char → Bool) : StopsRun belongs [] := by
  simp [StopsRun]

@[simp] theorem stopsRun_cons (belongs : Char → Bool) (character : Char) (text : List Char) :
    StopsRun belongs (character :: text) ↔ belongs character = false := by
  simp [StopsRun]

variable {belongs : Char → Bool} {run rest : List Char}

theorem StopsRun.of_append {text : List Char} (stops : StopsRun belongs (text ++ rest)) :
    StopsRun belongs text := by
  intro character first
  apply stops character
  rw [List.head?_append, Option.mem_def.mp first, Option.some_or]
  rfl

/-- What is left after the longest run starts with no character of its class. -/
theorem stopsRun_dropWhile (belongs : Char → Bool) (text : List Char) :
    StopsRun belongs (text.dropWhile belongs) := by
  intro character member
  have stopped := List.head?_dropWhile_not belongs text
  rw [Option.mem_def.mp member] at stopped
  exact stopped

theorem takeWhile_of_stops (stops : StopsRun belongs rest) : rest.takeWhile belongs = [] := by
  cases rest with
  | nil => rfl
  | cons character rest => simp [(stopsRun_cons ..).mp stops]

theorem dropWhile_of_stops (stops : StopsRun belongs rest) : rest.dropWhile belongs = rest := by
  cases rest with
  | nil => rfl
  | cons character rest => simp [(stopsRun_cons ..).mp stops]

/-- A run goes up to the first character outside its class. -/
theorem takeWhile_run (inside : ∀ character ∈ run, belongs character)
    (stops : StopsRun belongs rest) : (run ++ rest).takeWhile belongs = run := by
  rw [List.takeWhile_append_of_pos inside, takeWhile_of_stops stops, List.append_nil]

/-- The text after a run starts with the first character outside its class. -/
theorem dropWhile_run (inside : ∀ character ∈ run, belongs character)
    (stops : StopsRun belongs rest) : (run ++ rest).dropWhile belongs = rest := by
  rw [List.dropWhile_append_of_pos inside, dropWhile_of_stops stops]

/-- A run at the start of a text ends before a character outside its class. -/
theorem dropWhile_append_cons {before after : List Char} {character : Char}
    (outside : belongs character = false) :
    (before ++ character :: after).dropWhile belongs =
      before.dropWhile belongs ++ character :: after := by
  rw [List.dropWhile_append]
  split
  case isTrue inside => simp [List.isEmpty_iff.mp inside, outside]
  case isFalse => rfl

end ImpalaAdapter.Text
