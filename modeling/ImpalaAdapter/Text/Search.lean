/-
This file divides texts at separators and finds phrases in them.
-/

namespace ImpalaAdapter.Text

/-- The parts of a text are the longest runs without a separator, empty runs included. -/
def splitAt (separates : Char → Bool) : List Char → List (List Char)
  | [] => [[]]
  | character :: rest =>
      if separates character then [] :: splitAt separates rest
      else
        match splitAt separates rest with
        | [] => [[character]]
        | part :: parts => (character :: part) :: parts

/-- A text with the divider is cut at its first occurrence, and the divider is dropped. -/
def cutAt (divider : Char) : List Char → Option (List Char × List Char)
  | [] => none
  | character :: rest =>
      if character = divider then some ([], rest)
      else (cutAt divider rest).map fun (before, after) => (character :: before, after)

theorem cutAt_shorter {divider : Char} {text before after : List Char}
    (cut : cutAt divider text = some (before, after)) : after.length < text.length := by
  induction text generalizing before with
  | nil => cases cut
  | cons character rest inductionHypothesis =>
      unfold cutAt at cut
      split at cut
      · cases cut; simp
      · obtain ⟨⟨inner, remaining⟩, found, equal⟩ := Option.map_eq_some_iff.1 cut
        cases equal
        have shorter := inductionHypothesis found
        simp only [List.length_cons]
        omega

/-- A phrase occurs in a text when the text goes on with it from some position. -/
def occursIn (phrase : List Char) : List Char → Bool
  | [] => phrase.isEmpty
  | character :: rest => phrase.isPrefixOf (character :: rest) || occursIn phrase rest

end ImpalaAdapter.Text
