/-
This file compares the SSL flag of a descriptor with the property that carries it.
-/

import ImpalaAdapter.Proofs.Connection.Build

namespace ImpalaAdapter.Connection

/-- SSL is turned on, by the flag or by an option, and the last option about it says otherwise. -/
def Parameters.Contradicts (parameters : Parameters) : Prop :=
  (parameters.ssl = true ∨ ∃ value, (sslKey, value) ∈ canonicalOptions parameters ∧
    Text.equalsIgnoringCase value "true" = true) ∧
  ∃ value, lastValue? (canonicalOptions parameters) sslKey = some value ∧
    Text.equalsIgnoringCase value "true" = false

namespace Descriptor

/-- The SSL property of the descriptor is a spelling of `true`. -/
def DeclaresEncryption (descriptor : Descriptor) : Prop :=
  ∃ value, descriptor.property? sslKey = some value ∧ Text.equalsIgnoringCase value "true" = true

theorem equalsIgnoringCase_flagText (flag : Bool) :
    Text.equalsIgnoringCase (flagText flag) "true" = flag := by
  cases flag <;> decide +kernel

/-- Without an option the property repeats the flag. -/
theorem declaresEncryption_of_none {parameters : Parameters}
    (silent : lastValue? (canonicalOptions parameters) sslKey = none) :
    (ofParameters parameters).DeclaresEncryption ↔ (ofParameters parameters).ssl = true := by
  have property : (ofParameters parameters).property? sslKey =
      some (flagText (ofParameters parameters).ssl) := by
    rw [property?_ofParameters, silent]
    rfl
  simp only [DeclaresEncryption, property, Option.some.injEq, exists_eq_left',
    equalsIgnoringCase_flagText]

/-- With options the property repeats the last of them. -/
theorem declaresEncryption_of_some {parameters : Parameters} {last : String}
    (found : lastValue? (canonicalOptions parameters) sslKey = some last) :
    (ofParameters parameters).DeclaresEncryption ↔
      Text.equalsIgnoringCase last "true" = true := by
  have property : (ofParameters parameters).property? sslKey = some last := by
    rw [property?_ofParameters, found, Option.some_or]
  simp only [DeclaresEncryption, property, Option.some.injEq, exists_eq_left']

/-- The property never declares an encryption that the flag denies. -/
theorem ssl_of_declaresEncryption {parameters : Parameters}
    (declared : (ofParameters parameters).DeclaresEncryption) :
    (ofParameters parameters).ssl = true := by
  cases found : lastValue? (canonicalOptions parameters) sslKey with
  | none => exact (declaresEncryption_of_none found).mp declared
  | some last =>
      have isTrue := (declaresEncryption_of_some found).mp declared
      exact (ssl_ofParameters_iff parameters).mpr (.inr ⟨last, mem_of_lastValue? found, isTrue⟩)

/-- The property misses an encryption exactly for contradicting parameters. -/
theorem contradicts_iff (parameters : Parameters) :
    parameters.Contradicts ↔
      (ofParameters parameters).ssl = true ∧ ¬ (ofParameters parameters).DeclaresEncryption := by
  rw [Parameters.Contradicts, ← ssl_ofParameters_iff]
  refine and_congr_right fun encrypted => ?_
  cases found : lastValue? (canonicalOptions parameters) sslKey with
  | none => simp [declaresEncryption_of_none found, encrypted]
  | some last => simp [declaresEncryption_of_some found]

/-- The flag of a descriptor agrees with its property unless its parameters contradict themselves,
and then the flag alone stands for encryption. -/
theorem ssl_iff_declaresEncryption {parameters : Parameters} {advised : Advised Descriptor}
    {events : List Event} (built : build parameters = .ok (advised, events)) :
    ((advised.value.ssl = true ↔ advised.value.DeclaresEncryption) ↔ ¬ parameters.Contradicts) ∧
      (parameters.Contradicts → advised.value.ssl = true ∧ ¬ advised.value.DeclaresEncryption) := by
  rw [(build_eq_ok built).2]
  have missed := contradicts_iff parameters
  have sound := @ssl_of_declaresEncryption parameters
  constructor
  · rw [missed]
    constructor
    · rintro agree ⟨encrypted, undeclared⟩
      exact undeclared (agree.mp encrypted)
    · intro consistent
      refine ⟨fun encrypted => ?_, sound⟩
      by_contra undeclared
      exact consistent ⟨encrypted, undeclared⟩
  · exact missed.mp

/-- Two options about SSL differ here, but the last one agrees with the flag. -/
theorem repeatedOptions_ssl :
    ∃ advised events, build repeatedOptions = .ok (advised, events) ∧
      ¬ repeatedOptions.Contradicts ∧
      (advised.value.ssl = true ↔ advised.value.DeclaresEncryption) := by
  have built := build_named (by decide : Text.isBlankText repeatedOptions.database = false)
  have consistent : ¬ repeatedOptions.Contradicts := by
    rintro ⟨_, value, isLast, isFalse⟩
    rw [canonicalOptions_repeatedOptions] at isLast
    obtain rfl : "TRUE" = value := Option.some.inj isLast
    exact absurd isFalse (by decide)
  exact ⟨_, _, built, consistent, (ssl_iff_declaresEncryption built).1.mpr consistent⟩

/-- The flag turns SSL on, and the only option turns it off. -/
def contradicting : Parameters where
  host := "h"
  database := "sales"
  ssl := true
  additionalOptions := some "useSSL=false"

/-- The flag of this descriptor is set, and its connection string asks for no encryption. -/
theorem contradicting_disagrees :
    ∃ advised events, build contradicting = .ok (advised, events) ∧
      ¬ (advised.value.ssl = true ↔ advised.value.DeclaresEncryption) ∧
      advised.value.ssl = true ∧
      advised.value.property? sslKey = some "false" ∧
      advised.advisories = [.untrustedServerCertificate] ∧
      advised.value.connectionString = "impala://h:21050/sales?characterEncoding=UTF8" ++
        "&useCompression=true&useSSL=false&useUnicode=true&zeroDateTimeBehavior=convertToNull" := by
  have options : canonicalOptions contradicting = [(sslKey, "false")] := by decide +kernel
  have contradicts : contradicting.Contradicts := by
    refine ⟨.inl rfl, "false", ?_, by decide⟩
    rw [options]
    rfl
  obtain ⟨encrypted, undeclared⟩ := (contradicts_iff contradicting).mp contradicts
  have property : (ofParameters contradicting).property? sslKey = some "false" := by
    rw [property?_ofParameters, options]
    rfl
  have raised : raisedAdvisories contradicting = [.untrustedServerCertificate] := by
    rw [raisedAdvisories, options, if_pos ⟨encrypted, by decide⟩]
  refine ⟨_, _, build_named (by decide), ?_, encrypted, property, raised, by decide +kernel⟩
  exact fun agree => undeclared (agree.mp encrypted)

end Descriptor

end ImpalaAdapter.Connection
