/-
This file follows an advised value and the log through a run that raises advisories and maps the
value.
-/

import ImpalaAdapter.Advisory

namespace ImpalaAdapter.Advised

universe u

/-- The links of a chain follow each other, each from the type at which the one before it ends. -/
inductive Chain (Link : Type → Type → Type u) : Type → Type → Type (max 1 u) where
  | nil {Value : Type} : Chain Link Value Value
  | cons {Value Middle Image : Type} (link : Link Value Middle) (rest : Chain Link Middle Image) :
      Chain Link Value Image

abbrev Function (Value Image : Type) : Type :=
  Value → Image

/-- The first function of a chain is applied first. -/
def Chain.apply {Value Image : Type} : Chain Function Value Image → Value → Image
  | .nil, value => value
  | .cons function rest, value => rest.apply (function value)

/-- A step raises an advisory, or maps the value to one of any type. -/
inductive Step : Type → Type → Type 1 where
  | raise {Value : Type} (advisory : Advisory) : Step Value Value
  | map {Value Image : Type} (function : Function Value Image) : Step Value Image

/-- An advised value stands beside the events that were reported so far. -/
structure Logged (Value : Type) where
  advised : Advised Value
  log : List Event := []

namespace Step

variable {Value Image : Type}

def apply (logged : Logged Value) : Step Value Image → Logged Image
  | .raise advisory =>
      let (advised, reported) := logged.advised.raise advisory
      { advised, log := logged.log ++ reported }
  | .map function => { advised := logged.advised.map function, log := logged.log }

/-- The change of the value. -/
def function : Step Value Image → Function Value Image
  | .raise _ => id
  | .map function => function

def raised : Step Value Image → List Advisory
  | .raise advisory => [advisory]
  | .map _ => []

/-- A step changes the value by its function, and adds what it raises to the advisories and to the
log. -/
theorem apply_eq (step : Step Value Image) (logged : Logged Value) :
    step.apply logged =
      { advised := {
          value := step.function logged.advised.value
          advisories := logged.advised.advisories ++ step.raised }
        log := logged.log ++ step.raised.map Advisory.event } := by
  cases step with
  | raise advisory => rfl
  | map function => simp [apply, Advised.map, Step.function, raised]

end Step

namespace Chain

variable {Value Middle Image : Type}

def run {Value Image : Type} : Chain Step Value Image → Logged Value → Logged Image
  | .nil, logged => logged
  | .cons step rest, logged => rest.run (step.apply logged)

/-- The advisories of a run, in order and with repeats. -/
def raises {Value Image : Type} : Chain Step Value Image → List Advisory
  | .nil => []
  | .cons step rest => step.raised ++ rest.raises

/-- The functions of a run, in order. -/
def maps {Value Image : Type} : Chain Step Value Image → Chain Function Value Image
  | .nil => .nil
  | .cons (.raise _) rest => rest.maps
  | .cons (.map function) rest => .cons function rest.maps

theorem apply_maps_cons (step : Step Value Middle) (rest : Chain Step Middle Image)
    (value : Value) :
    (Chain.cons step rest).maps.apply value = rest.maps.apply (step.function value) := by
  cases step with
  | raise advisory => rfl
  | map function => rfl

/-- A run applies its functions to the value, and adds its advisories to those that were there and
to the log. -/
theorem run_eq (steps : Chain Step Value Image) (logged : Logged Value) :
    steps.run logged =
      { advised := {
          value := steps.maps.apply logged.advised.value
          advisories := logged.advised.advisories ++ steps.raises }
        log := logged.log ++ steps.raises.map Advisory.event } := by
  induction steps with
  | nil => simp [run, maps, apply, raises]
  | cons step rest inductionHypothesis =>
      rw [run, inductionHypothesis, step.apply_eq, apply_maps_cons, raises, List.map_append]
      simp only [List.append_assoc]

/-- The value, its advisories and the log stay in step over any run: the value goes through the
functions alone, the advisories are those that were raised, and the log has one warning for each of
them. How the raises and the maps are interleaved does not matter. -/
theorem run_inStep (steps : Chain Step Value Image) (value : Value) :
    let final := steps.run { advised := { value } }
    final.advised.value = steps.maps.apply value ∧
      final.advised.advisories = steps.raises ∧
      (final.advised.hasAdvisories ↔ steps.raises ≠ []) ∧
      final.log = (steps.raises.map fun advisory =>
        { severity := .warning
          message := advisory.message
          fields := [("advisory", advisory.code)] }) ∧
      ∀ other : Chain Step Value Image, other.raises = steps.raises → other.maps = steps.maps →
        other.run { advised := { value } } = final := by
  intro final
  have ended : final =
      { advised := { value := steps.maps.apply value, advisories := steps.raises }
        log := steps.raises.map Advisory.event } :=
    steps.run_eq { advised := { value } }
  refine ⟨by rw [ended], by rw [ended], ?_, by rw [ended]; rfl, ?_⟩
  · rw [ended, hasAdvisories, Bool.not_eq_true', List.isEmpty_eq_false_iff]
  · intro other sameRaises sameMaps
    have otherEnded := other.run_eq { advised := { value } }
    rw [sameRaises, sameMaps] at otherEnded
    rw [otherEnded, ended]
    rfl

/-- One advisory is raised twice in this run, before and after the type of the value changes. -/
def mixedRun : Chain Step Nat Bool :=
  .cons (.raise .untrustedServerCertificate) <|
    .cons (.map (· + 1)) <|
    .cons (.raise (.unreadableServerVersion "unknown")) <|
    .cons (.map (· == 5)) <|
    .cons (.raise .untrustedServerCertificate) .nil

/-- The same raises come after all maps. -/
def mapsFirst : Chain Step Nat Bool :=
  .cons (.map (· + 1)) <|
    .cons (.map (· == 5)) <|
    .cons (.raise .untrustedServerCertificate) <|
    .cons (.raise (.unreadableServerVersion "unknown")) <|
    .cons (.raise .untrustedServerCertificate) .nil

theorem run_inStep_mixedRun :
    mapsFirst.raises = mixedRun.raises ∧ mapsFirst.maps = mixedRun.maps ∧
      mapsFirst.run { advised := { value := 4 } } = mixedRun.run { advised := { value := 4 } } ∧
      (mixedRun.run { advised := { value := 4 } }).advised = {
        value := true
        advisories := [.untrustedServerCertificate, .unreadableServerVersion "unknown",
          .untrustedServerCertificate] } :=
  have inStep := run_inStep mixedRun 4
  ⟨rfl, rfl, inStep.2.2.2.2 mapsFirst rfl rfl, rfl⟩

end Chain

end ImpalaAdapter.Advised
