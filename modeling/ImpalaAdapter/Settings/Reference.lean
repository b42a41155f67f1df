/-
This file replaces references to variables by the values of the variables.
-/

import ImpalaAdapter.Environment
import ImpalaAdapter.Settings.Basic
import ImpalaAdapter.Text.Alphanumeric
import ImpalaAdapter.Text.Search

namespace ImpalaAdapter.Settings

/-- A dollar sign starts a reference when a brace or a name follows it. The last reference can lack
its closing brace. -/
inductive Segment where
  | plain (text : List Char)
  | braced (name : List Char)
  | unclosed (name : List Char)
  | bare (name : List Char)
  | dollar
deriving DecidableEq

def isNameCharacter (character : Char) : Bool :=
  Text.isAlphanumeric character || character == '_'

/-- The segment that starts with a dollar sign, and the text after it. -/
def segmentAfterDollar (text : List Char) : Segment × List Char :=
  match text with
  | '{' :: inner =>
      match Text.cutAt '}' inner with
      | some (name, rest) => (.braced name, rest)
      | none => (.unclosed inner, [])
  | _ =>
      if (text.takeWhile isNameCharacter).isEmpty then (.dollar, text)
      else (.bare (text.takeWhile isNameCharacter), text.dropWhile isNameCharacter)

/-- The segment that starts with the given character, and the text after it. Plain text and bare
names are as long as possible. -/
def firstSegment (first : Char) (text : List Char) : Segment × List Char :=
  if first = '$' then segmentAfterDollar text
  else (.plain (first :: text.takeWhile (· ≠ '$')), text.dropWhile (· ≠ '$'))

theorem firstSegment_shorter (first : Char) (text : List Char) :
    (firstSegment first text).2.length ≤ text.length := by
  unfold firstSegment segmentAfterDollar
  split
  · split
    · split
      · rename_i cut
        have shorter := Text.cutAt_shorter cut
        simp only [List.length_cons]
        omega
      · simp
    · split
      · exact Nat.le_refl _
      · exact (List.dropWhile_sublist isNameCharacter).length_le
  · exact (List.dropWhile_sublist _).length_le

def segments (text : List Char) : List Segment :=
  match text with
  | [] => []
  | first :: rest => (firstSegment first rest).1 :: segments (firstSegment first rest).2
termination_by text.length
decreasing_by exact Nat.lt_succ_of_le (firstSegment_shorter first rest)

namespace Segment

/-- The name that a segment refers to. -/
def name? : Segment → Option String
  | .braced name | .unclosed name | .bare name => some (String.ofList name)
  | .plain _ | .dollar => none

/-- The value of a variable stands for its reference and is not read again. -/
def expansion (environment : Environment) (segment : Segment) :
    Except SettingsError (List Char) :=
  match segment with
  | .plain text => .ok text
  | .dollar => .ok ['$']
  | .braced name | .unclosed name | .bare name =>
      match environment.read? (String.ofList name) with
      | some value => .ok value.toList
      | none => .error (.missingVariable (String.ofList name))

end Segment

/-- The first reference to a variable that cannot be read decides the failure. -/
def expand (environment : Environment) (text : String) : Except SettingsError String := do
  let parts ← (segments text.toList).mapM (Segment.expansion environment)
  pure (String.ofList parts.flatten)

end ImpalaAdapter.Settings
