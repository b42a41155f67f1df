/-
This file compares the check of server versions, which uses their legacy numbers, with the order of
versions by their components.
-/

import ImpalaAdapter.Proofs.Number.Numeral
import ImpalaAdapter.Server.Inquiry

namespace ImpalaAdapter.Server

namespace Version

variable (version : Version)

/-- The major version decides first, and then the minor one. -/
theorem atLeast_iff (major minor : UInt32) :
    version.atLeast major minor ↔
      major.toNat < version.major.toNat ∨
        major.toNat = version.major.toNat ∧ minor.toNat ≤ version.minor.toNat := by
  simp only [atLeast, compare, Ordering.isGE_iff_ne_lt, Ordering.then_eq_lt, Nat.compare_eq_lt,
    Nat.compare_eq_eq]
  omega

theorem legacyTenths_eq :
    version.legacyTenths = version.major.toNat * 10 + leadingDigit version.minor.toNat := by
  rw [legacyTenths, head?_digits, Option.getD_some]

theorem isSupported_iff :
    version.isSupported ↔ 57 ≤ version.major.toNat * 10 + leadingDigit version.minor.toNat := by
  rw [isSupported, decide_eq_true_eq, legacyTenths_eq, minimumTenths]

variable {version}

/-- A minor version of one digit is its own leading digit, so no old version passes. -/
theorem atLeast_of_isSupported (supported : version.isSupported) : version.atLeast 5 7 := by
  have tenths := version.isSupported_iff.mp supported
  have digit := leadingDigit_le version.minor.toNat
  rw [atLeast_iff]
  show 5 < version.major.toNat ∨ 5 = version.major.toNat ∧ 7 ≤ version.minor.toNat
  by_cases single : version.minor.toNat < 10
  · rw [leadingDigit_of_lt single] at tenths
    omega
  · omega

/-- A later digit of the minor version does not count, so some new versions do not pass. -/
theorem isSupported_eq_false_iff (recent : version.atLeast 5 7) :
    version.isSupported = false ↔
      version.major = 5 ∧ 1 < (digits version.minor.toNat).length ∧
        leadingDigit version.minor.toNat ≤ 6 := by
  rw [atLeast_iff] at recent
  change 5 < version.major.toNat ∨ 5 = version.major.toNat ∧ 7 ≤ version.minor.toNat at recent
  have five : version.major = 5 ↔ version.major.toNat = 5 := UInt32.toNat_inj.symm
  rw [← Bool.not_eq_true, isSupported_iff, five, one_lt_length_digits_iff]
  by_cases single : version.minor.toNat < 10
  · rw [leadingDigit_of_lt single]
    omega
  · omega

end Version

/-- The advisory about a legacy number compares it with the minimum of 5.7. -/
def belowMinimum (tenths : Nat) : Advisory :=
  .unsupportedServerVersion (.ofTenths tenths) (.ofTenths 57)

/-- The legacy number has the major version and the leading digit of the minor one. -/
def Version.unsupported (version : Version) : Advisory :=
  belowMinimum (version.major.toNat * 10 + leadingDigit version.minor.toNat)

/-- The answer that the check gives about a probe. -/
def Probe.checked (probe : Probe) : Except ProbeError (Advised Bool) :=
  (checkConnectivity.run probe).1.answer

theorem checked_version (isValid : Bool) (version : Version) :
    Probe.checked { isValid, version := .ok version } =
      .ok { value := isValid
            advisories := if version.isSupported then [] else [version.unsupported] } := by
  show (assess isValid (.ok version)).answer = _
  rw [assess]
  split
  · rfl
  · rw [Version.legacyNumber, Version.legacyTenths_eq]
    rfl

/-- The check asks for the validity and then for the version, each one time. Only a failed question
is an error, and everything else keeps the validity. A version before 5.7 always has the advisory.
Of the later versions only those of major version 5 can have it, when their minor version has
several digits and the first of them is at most six. -/
theorem checkConnectivity_answer (isValid : Bool) :
    (∀ version, (checkConnectivity.run { isValid, version }).2 = [.validity, .version]) ∧
    (∀ message, Probe.checked { isValid, version := .error (.connection message) } =
      .error (.connection message)) ∧
    (∀ reported, Probe.checked { isValid, version := .error (.invalidVersion reported) } =
      .ok { value := isValid, advisories := [.unreadableServerVersion reported] }) ∧
    ∀ version : Version, ∃ advisories,
      Probe.checked { isValid, version := .ok version } = .ok { value := isValid, advisories } ∧
      (advisories = [] ∨ advisories = [version.unsupported]) ∧
      (¬ version.atLeast 5 7 → advisories = [version.unsupported]) ∧
      (version.atLeast 5 7 →
        (advisories = [version.unsupported] ↔
          version.major = 5 ∧ 1 < (digits version.minor.toNat).length ∧
            leadingDigit version.minor.toNat ≤ 6)) := by
  refine ⟨?_, ?_, ?_, ?_⟩
  · intro version
    rfl
  · intro message
    rfl
  · intro reported
    rfl
  · intro version
    refine ⟨_, checked_version isValid version, ?_, ?_, ?_⟩
    · split
      · exact .inl rfl
      · exact .inr rfl
    · intro old
      rw [if_neg (mt Version.atLeast_of_isSupported old)]
    · intro recent
      rw [← Version.isSupported_eq_false_iff recent]
      cases version.isSupported with
      | true => simp
      | false => simp

/-- Of the two later versions, the one with the longer minor version has the smaller legacy
number. -/
theorem checkConnectivity_answer_longMinor :
    (Version.atLeast ⟨5, 12⟩ 5 7 ∧ Version.atLeast ⟨5, 9⟩ 5 7 ∧ ¬ Version.atLeast ⟨4, 99⟩ 5 7) ∧
      Probe.checked { isValid := false, version := .ok ⟨5, 12⟩ } =
        .ok { value := false, advisories := [belowMinimum 51] } ∧
      Probe.checked { isValid := true, version := .ok ⟨5, 9⟩ } = .ok { value := true } ∧
      Probe.checked { isValid := true, version := .ok ⟨4, 99⟩ } =
        .ok { value := true, advisories := [belowMinimum 49] } := by
  have long : Version.atLeast ⟨5, 12⟩ 5 7 := by decide
  have short : Version.atLeast ⟨5, 9⟩ 5 7 := by decide
  have old : ¬ Version.atLeast ⟨4, 99⟩ 5 7 := by decide
  refine ⟨⟨long, short, old⟩, ?_, ?_, ?_⟩
  · obtain ⟨advisories, answer, _, _, alarm⟩ := (checkConnectivity_answer false).2.2.2 ⟨5, 12⟩
    have raised := (alarm long).mpr ⟨rfl, by decide, by simp [leadingDigit]⟩
    rw [answer, raised]
    simp [Version.unsupported, leadingDigit]
  · obtain ⟨advisories, answer, oneAtMost, _, alarm⟩ :=
      (checkConnectivity_answer true).2.2.2 ⟨5, 9⟩
    have quiet : advisories ≠ [Version.unsupported ⟨5, 9⟩] := by
      intro raised
      have twoDigits := ((alarm short).mp raised).2.1
      exact absurd twoDigits (by decide)
    rw [answer, oneAtMost.resolve_right quiet]
  · obtain ⟨advisories, answer, _, alarm, _⟩ := (checkConnectivity_answer true).2.2.2 ⟨4, 99⟩
    rw [answer, alarm old]
    simp [Version.unsupported, leadingDigit]

end ImpalaAdapter.Server
