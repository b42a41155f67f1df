/-
This file says which two numbers a version text holds, and shows that each version is read back
from its text.
-/

import ImpalaAdapter.Proofs.Number.Numeral
import ImpalaAdapter.Proofs.Text.Trim
import ImpalaAdapter.Server.Version

namespace ImpalaAdapter.Server.Version

open Text

/-- A text starts with its longest run of digits. The longest run after exactly one other character
is the minor one. It is empty when the text ends before it or a second such character follows. -/
inductive Runs : (major minor text : List Char) → Prop
  | undivided {major : List Char} (insideMajor : ∀ character ∈ major, isDigit character) :
      Runs major [] major
  | divided {major minor rest : List Char} {divider : Char}
      (insideMajor : ∀ character ∈ major, isDigit character)
      (divides : isDigit divider = false)
      (insideMinor : ∀ character ∈ minor, isDigit character)
      (stops : StopsRun isDigit rest) :
      Runs major minor (major ++ divider :: (minor ++ rest))

/-- The run has digits, and their value has 32 bits. -/
def IsComponent (run : List Char) : Prop :=
  run ≠ [] ∧ Nat.ofDigitChars 10 run 0 < UInt32.size

instance (run : List Char) : Decidable (IsComponent run) :=
  inferInstanceAs (Decidable (_ ∧ _))

/-- A minor run that is no component counts as zero. -/
def minorValue (minor : List Char) : Nat :=
  if IsComponent minor then Nat.ofDigitChars 10 minor 0 else 0

variable {major minor : List Char} {text : String}

/-- The runs of a text are the ones that its reader takes. -/
theorem runs_iff {text : List Char} :
    Runs major minor text ↔
      major = text.takeWhile isDigit ∧
        minor = ((text.dropWhile isDigit).drop 1).takeWhile isDigit := by
  constructor
  · intro runs
    cases runs with
    | undivided insideMajor =>
        have taken := takeWhile_run insideMajor (stopsRun_nil isDigit)
        have left := dropWhile_run insideMajor (stopsRun_nil isDigit)
        rw [List.append_nil] at taken left
        rw [taken, left]
        exact ⟨rfl, rfl⟩
    | @divided _ rest divider insideMajor divides insideMinor stops =>
        have ends : StopsRun isDigit (divider :: (minor ++ rest)) := (stopsRun_cons ..).mpr divides
        rw [takeWhile_run insideMajor ends, dropWhile_run insideMajor ends, List.drop_one,
          List.tail_cons, takeWhile_run insideMinor stops]
        exact ⟨rfl, rfl⟩
  · intro taken
    obtain ⟨rfl, rfl⟩ := taken
    have inside (text : List Char) : ∀ character ∈ text.takeWhile isDigit, isDigit character := by
      intro character member
      exact List.mem_takeWhile_imp member
    have split := List.takeWhile_append_dropWhile (p := isDigit) (l := text)
    have outside := stopsRun_dropWhile isDigit text
    cases left : text.dropWhile isDigit with
    | nil =>
        rw [left, List.append_nil] at split
        rw [split]
        exact .undivided (split ▸ inside text)
    | cons divider others =>
        rw [left] at split outside
        have divides := (stopsRun_cons ..).mp outside
        have runs := Runs.divided (inside text) divides (inside others)
          (stopsRun_dropWhile isDigit others)
        rw [List.takeWhile_append_dropWhile, split] at runs
        exact runs

theorem Runs.insideMajor {text : List Char} (runs : Runs major minor text) :
    ∀ character ∈ major, isDigit character := by
  cases runs with
  | undivided insideMajor => exact insideMajor
  | divided insideMajor => exact insideMajor

theorem Runs.insideMinor {text : List Char} (runs : Runs major minor text) :
    ∀ character ∈ minor, isDigit character := by
  cases runs with
  | undivided => simp
  | divided _ _ insideMinor => exact insideMinor

theorem minorValue_lt (minor : List Char) : minorValue minor < UInt32.size := by
  rw [minorValue]
  split
  case isTrue component => exact component.2
  case isFalse => decide

theorem component?_of_isDigit {run : List Char} (inside : ∀ character ∈ run, isDigit character) :
    component? run =
      if IsComponent run then some (UInt32.ofNat (Nat.ofDigitChars 10 run 0)) else none := by
  have fits : run ≠ [] ∧ Nat.ofDigitChars 10 run 0 ≤ UInt32.size - 1 ↔ IsComponent run :=
    and_congr_right fun _ => Nat.le_sub_one_iff_lt (by decide)
  simp only [component?, readNumeral?_of_isDigit _ inside, numeralValue_eq_ofDigitChars, fits]
  split
  · rfl
  · rfl

/-- The values of the two runs are the components. Only a missing major version is an error. -/
theorem ofText_of_runs (runs : Runs major minor (trim text.toList)) :
    ofText text =
      if IsComponent major then
        .ok
          { major := UInt32.ofNat (Nat.ofDigitChars 10 major 0)
            minor := UInt32.ofNat (minorValue minor) }
      else .error (.invalidVersion text) := by
  obtain ⟨takenMajor, takenMinor⟩ := runs_iff.mp runs
  have found : (component? minor).getD 0 = UInt32.ofNat (minorValue minor) := by
    rw [component?_of_isDigit runs.insideMinor, minorValue]
    split
    · rfl
    · rfl
  simp only [ofText, ← takenMajor, ← takenMinor, found, component?_of_isDigit runs.insideMajor]
  by_cases component : IsComponent major
  · rw [if_pos component, if_pos component]
  · rw [if_neg component, if_neg component]

theorem ofText_eq_error_iff (runs : Runs major minor (trim text.toList)) {failure : ProbeError} :
    ofText text = .error failure ↔ failure = .invalidVersion text ∧ ¬ IsComponent major := by
  rw [ofText_of_runs runs]
  split
  case isTrue component => simp [component]
  case isFalse missing => simp [missing, eq_comm]

theorem ofText_eq_ok_iff (runs : Runs major minor (trim text.toList)) {version : Version} :
    ofText text = .ok version ↔
      IsComponent major ∧ version.major.toNat = Nat.ofDigitChars 10 major 0 ∧
        version.minor.toNat = minorValue minor := by
  rw [ofText_of_runs runs]
  constructor
  · intro found
    split at found
    case isTrue component =>
      cases found
      exact ⟨component, UInt32.toNat_ofNat_of_lt' component.2,
        UInt32.toNat_ofNat_of_lt' (minorValue_lt minor)⟩
    case isFalse => cases found
  · intro values
    obtain ⟨component, majorValue, minorValue⟩ := values
    rw [if_pos component, ← majorValue, ← minorValue, UInt32.ofNat_toNat, UInt32.ofNat_toNat]

theorem isComponent_digits (component : UInt32) : IsComponent (digits component.toNat) := by
  refine ⟨digits_ne_nil _, ?_⟩
  rw [← numeralValue_eq_ofDigitChars, numeralValue_digits]
  exact component.toNat_lt

/-- A suffix that starts with no digit ends the minor run of a version text. -/
theorem runs_text_append (version : Version) {suffix : List Char}
    (stops : StopsRun isDigit suffix) :
    Runs (digits version.major.toNat) (digits version.minor.toNat)
      (version.text.toList ++ suffix) := by
  rw [text, String.toList_ofList, List.append_assoc, List.cons_append]
  exact .divided (isDigit_of_mem_digits _) (by decide) (isDigit_of_mem_digits _) stops

/-- A version text has digits at its two ends. -/
theorem isTrimmed_text (version : Version) : IsTrimmed version.text.toList := by
  have solid (number : Nat) {character : Char} (member : character ∈ digits number) :
      isBlank character = false :=
    isBlank_of_isDigit (isDigit_of_mem_digits number character member)
  rw [text, String.toList_ofList]
  constructor
  · intro character first
    apply solid version.major.toNat
    rw [List.head?_append_of_ne_nil _ (digits_ne_nil _)] at first
    exact List.mem_of_head? first
  · intro character last
    apply solid version.minor.toNat
    rw [List.getLast?_append_cons, List.getLast?_cons_of_ne_nil (digits_ne_nil _)] at last
    exact List.mem_of_getLast? last

/-- A version is read back from its text in front of every suffix that starts with no digit.
Trimming only shortens the suffix. -/
theorem ofText_text_append (version : Version) {suffix : String}
    (stops : StopsRun isDigit suffix.toList) : ofText (version.text ++ suffix) = .ok version := by
  obtain ⟨blanks, _, split⟩ := exists_trimEnd suffix.toList
  have ends : StopsRun isDigit (trimEnd suffix.toList) := by
    rw [split] at stops
    exact stops.of_append
  have runs : Runs (digits version.major.toNat) (digits version.minor.toNat)
      (trim (version.text ++ suffix).toList) := by
    rw [String.toList_append, version.isTrimmed_text.trim_append (by simp [text])]
    exact version.runs_text_append ends
  refine (ofText_eq_ok_iff runs).mpr ⟨isComponent_digits _, ?_, ?_⟩
  · rw [← numeralValue_eq_ofDigitChars, numeralValue_digits]
  · rw [minorValue, if_pos (isComponent_digits _), ← numeralValue_eq_ofDigitChars,
      numeralValue_digits]

/-- Each text has one major and one minor run. The values of the two are its version, if the major
one is a component. Each version is read back from its text in front of every suffix that starts
with no digit. -/
theorem ofText_components :
    (∀ text : List Char, ∃! runs : List Char × List Char, Runs runs.1 runs.2 text) ∧
    (∀ (text : String) (major minor : List Char), Runs major minor (trim text.toList) →
      (∀ failure, ofText text = .error failure ↔
        failure = .invalidVersion text ∧ ¬ IsComponent major) ∧
      ∀ version, ofText text = .ok version ↔
        IsComponent major ∧ version.major.toNat = Nat.ofDigitChars 10 major 0 ∧
          version.minor.toNat = minorValue minor) ∧
    ∀ (version : Version) (suffix : String), StopsRun isDigit suffix.toList →
      ofText (version.text ++ suffix) = .ok version := by
  refine ⟨?_, ?_, ?_⟩
  · intro text
    refine ⟨(_, _), runs_iff.mpr ⟨rfl, rfl⟩, ?_⟩
    rintro ⟨major, minor⟩ runs
    obtain ⟨rfl, rfl⟩ := runs_iff.mp runs
    rfl
  · intro text major minor runs
    refine ⟨?_, ?_⟩
    · intro failure
      exact ofText_eq_error_iff runs
    · intro version
      exact ofText_eq_ok_iff runs
  · intro version suffix stops
    exact version.ofText_text_append stops

/-- The components have zeros in front, and blanks and other characters stand around them. -/
def spacedVersion : String := "\u2003004294967295é0000000012-cdh7 "

theorem ofText_components_spacedVersion :
    (Runs "004294967295".toList "0000000012".toList (trim spacedVersion.toList) ∧
        StopsRun isDigit ".0-cdh7 ".toList) ∧
      ofText spacedVersion = .ok ⟨4294967295, 12⟩ ∧
      ofText "4294967296.1" = .error (.invalidVersion "4294967296.1") ∧
      ofText "5..7" = .ok ⟨5, 0⟩ ∧
      ofText "5.4294967296" = .ok ⟨5, 0⟩ ∧
      ofText ((⟨5, 7⟩ : Version).text ++ ".0-cdh7 ") = .ok ⟨5, 7⟩ := by
  have spaced : Runs "004294967295".toList "0000000012".toList (trim spacedVersion.toList) :=
    runs_iff.mpr (by decide)
  have large : Runs "4294967296".toList "1".toList (trim "4294967296.1".toList) :=
    runs_iff.mpr (by decide)
  have twice : Runs "5".toList [] (trim "5..7".toList) := runs_iff.mpr (by decide)
  have largeMinor : Runs "5".toList "4294967296".toList (trim "5.4294967296".toList) :=
    runs_iff.mpr (by decide)
  have stops : StopsRun isDigit ".0-cdh7 ".toList := (stopsRun_cons ..).mpr (by decide)
  refine ⟨⟨spaced, stops⟩, ?_, ?_, ?_, ?_, ?_⟩
  · exact ((ofText_components.2.1 _ _ _ spaced).2 _).mpr (by decide)
  · exact ((ofText_components.2.1 _ _ _ large).1 _).mpr (by decide)
  · exact ((ofText_components.2.1 _ _ _ twice).2 _).mpr (by decide)
  · exact ((ofText_components.2.1 _ _ _ largeMinor).2 _).mpr (by decide)
  · exact ofText_components.2.2 _ _ stops

end ImpalaAdapter.Server.Version
