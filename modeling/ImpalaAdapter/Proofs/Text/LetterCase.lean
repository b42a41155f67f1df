/-
This file shows what the case of ASCII letters does not change.
-/

import ImpalaAdapter.Proofs.Text.Trim
import ImpalaAdapter.Text.LetterCase

namespace ImpalaAdapter.Text

/-- What does not depend on the case of ASCII characters does not depend on the case of any. -/
theorem eq_of_toLower {Value : Type} (value : Char → Value)
    (ascii : ∀ code : Fin 128, value (Char.ofNat code).toLower = value (Char.ofNat code))
    (character : Char) : value character.toLower = value character := by
  by_cases small : character.toNat < 128
  · have shown := ascii ⟨character.toNat, small⟩
    rwa [Char.ofNat_toNat] at shown
  · rw [toLower_of_not_capital (by omega)]

theorem isBlank_toLower (character : Char) : isBlank character.toLower = isBlank character :=
  eq_of_toLower isBlank (by decide) character

/-- The two cases of an ASCII letter have one upper case. -/
theorem upperCase_toLower (character : Char) :
    upperCase character.toLower = upperCase character :=
  eq_of_toLower upperCase (by decide) character

variable (text : List Char)

theorem trimStart_map_toLower :
    trimStart (text.map Char.toLower) = (trimStart text).map Char.toLower := by
  have blanks : isBlank ∘ Char.toLower = isBlank := funext isBlank_toLower
  rw [trimStart, trimStart, List.dropWhile_map, blanks]

theorem trimEnd_map_toLower :
    trimEnd (text.map Char.toLower) = (trimEnd text).map Char.toLower := by
  have start := trimStart_map_toLower text.reverse
  rw [trimStart, trimStart] at start
  rw [trimEnd, trimEnd, ← List.map_reverse, start, List.map_reverse]

theorem trim_map_toLower : trim (text.map Char.toLower) = (trim text).map Char.toLower := by
  rw [trim, trim, trimStart_map_toLower, trimEnd_map_toLower]

theorem uppercase_map_toLower : uppercase (text.map Char.toLower) = uppercase text := by
  have cases : upperCase ∘ Char.toLower = upperCase := funext upperCase_toLower
  rw [uppercase, uppercase, List.flatMap_map]
  exact congrArg text.flatMap cases

end ImpalaAdapter.Text
