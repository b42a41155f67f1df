/-
This file classifies characters by ranges of their code points.
-/

namespace ImpalaAdapter.Text

/-- A range holds its first and its last code point. -/
structure CharacterRange where
  first : Nat
  last : Nat

def CharacterRange.contains (range : CharacterRange) (character : Char) : Bool :=
  range.first ≤ character.toNat && character.toNat ≤ range.last

def inRanges (ranges : List CharacterRange) (character : Char) : Bool :=
  ranges.any fun range => range.contains character

end ImpalaAdapter.Text
