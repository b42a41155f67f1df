/-
This file shows that the events of a build depend neither on the values of options nor on the
tunnel.
-/

import ImpalaAdapter.Proofs.Connection.Build

namespace ImpalaAdapter.Connection

/-- These parameters differ at most in their tunnels and in the values of their options. The texts
of the options can differ in any way that leaves the keys as they are. -/
structure SameOutline (first second : Parameters) : Prop where
  host : first.host = second.host
  port : first.port = second.port
  database : first.database = second.database
  ssl : first.ssl = second.ssl
  optionKeys : first.options.map Prod.fst = second.options.map Prod.fst

namespace Descriptor

variable {first second : Parameters}

theorem canonicalKeys_of_sameOutline (same : SameOutline first second) :
    (canonicalOptions first).map Prod.fst = (canonicalOptions second).map Prod.fst := by
  rw [map_fst_canonicalOptions, map_fst_canonicalOptions, same.optionKeys]

/-- The effective SSL flag is the only thing that an advisory learns from the values of options. -/
theorem raisedAdvisories_of_sameOutline (same : SameOutline first second)
    (effective : (ofParameters first).ssl = (ofParameters second).ssl) :
    raisedAdvisories first = raisedAdvisories second := by
  rw [raisedAdvisories, raisedAdvisories, effective, canonicalKeys_of_sameOutline same]

/-- Neither the properties nor the tunnel are shown in the event of a build. -/
theorem builtEvent_of_sameOutline (same : SameOutline first second)
    (effective : (ofParameters first).ssl = (ofParameters second).ssl) :
    (ofParameters first).builtEvent ((canonicalOptions first).map Prod.fst) =
      (ofParameters second).builtEvent ((canonicalOptions second).map Prod.fst) := by
  rw [canonicalKeys_of_sameOutline same,
    ofParameters_congr same.host same.port same.database effective]
  simp only [builtEvent]

/-- Another tunnel is handed on, and everything else is built as before. -/
theorem build_withTunnel {parameters : Parameters} {advised : Advised Descriptor}
    {events : List Event} (built : build parameters = .ok (advised, events))
    (tunnel : Option Tunnel) :
    build { parameters with tunnel := tunnel } =
      .ok ({ advised with value := { advised.value with tunnel := tunnel } }, events) := by
  obtain ⟨named, rfl, rfl⟩ := eq_of_build_eq_ok built
  have same : SameOutline { parameters with tunnel := tunnel } parameters :=
    ⟨rfl, rfl, rfl, rfl, rfl⟩
  have options : canonicalOptions { parameters with tunnel := tunnel } =
      canonicalOptions parameters := rfl
  have described : ofParameters { parameters with tunnel := tunnel } =
      { ofParameters parameters with tunnel := tunnel } := by
    simp only [ofParameters, options]
  have effective := congrArg Descriptor.ssl described
  have rebuilt : build { parameters with tunnel := tunnel } = _ := build_named named
  rwa [builtEvent_of_sameOutline same effective, raisedAdvisories_of_sameOutline same effective,
    described] at rebuilt

/-- Two builds report the same events when they differ in the values of their options, in the
spelling of their option texts and in their tunnels, unless the values change the effective SSL
flag. Another tunnel changes nothing but the tunnel of the descriptor. -/
theorem build_events_eq :
    (∀ first second firstBuilt secondBuilt firstEvents secondEvents, SameOutline first second →
      build first = .ok (firstBuilt, firstEvents) →
      build second = .ok (secondBuilt, secondEvents) →
      firstBuilt.value.ssl = secondBuilt.value.ssl →
        firstEvents = secondEvents ∧ firstBuilt.advisories = secondBuilt.advisories) ∧
    ∀ parameters advised events, build parameters = .ok (advised, events) →
      ∀ tunnel, ∃ tunneled, build { parameters with tunnel := tunnel } = .ok (tunneled, events) ∧
        tunneled.value = { advised.value with tunnel := tunnel } ∧
        tunneled.value.connectionString = advised.value.connectionString ∧
        tunneled.advisories = advised.advisories := by
  constructor
  · intro first second firstBuilt secondBuilt firstEvents secondEvents same built builtSecond
      effective
    obtain ⟨_, rfl, rfl⟩ := eq_of_build_eq_ok built
    obtain ⟨_, rfl, rfl⟩ := eq_of_build_eq_ok builtSecond
    have advisories := raisedAdvisories_of_sameOutline same effective
    refine ⟨?_, advisories⟩
    rw [builtEvent_of_sameOutline same effective, advisories]
  · intro parameters advised events built tunnel
    exact ⟨_, build_withTunnel built tunnel, rfl, rfl, rfl⟩

/-- The first option turns SSL on, although the last one turns it off. -/
def openSecrets : Parameters where
  host := "h"
  database := "sales"
  additionalOptions := some "?useSSL=TRUE;password=hunter2&useSSL=no"

/-- The same keys have other values here, and there is a tunnel. -/
def otherSecrets : Parameters where
  host := "h"
  database := "sales"
  additionalOptions := some " useSSL = ;; password== ;useSSL=true"
  tunnel := some ((∅ : Tunnel).insert "user" "root")

/-- The passwords differ, and the logs do not. -/
theorem build_events_eq_secrets :
    SameOutline openSecrets otherSecrets ∧
      ∃ advised events other, build openSecrets = .ok (advised, events) ∧
        build otherSecrets = .ok (other, events) ∧
        advised.value.ssl = other.value.ssl ∧
        advised.value.property? "password" = some "hunter2" ∧
        other.value.property? "password" = some "=" ∧
        ∃ direct, build { otherSecrets with tunnel := none } = .ok (direct, events) ∧
          direct.value.connectionString = other.value.connectionString := by
  have same : SameOutline openSecrets otherSecrets := ⟨rfl, rfl, rfl, rfl, by decide⟩
  have built := build_named (by decide : Text.isBlankText openSecrets.database = false)
  have builtOther := build_named (by decide : Text.isBlankText otherSecrets.database = false)
  have effective : (ofParameters openSecrets).ssl = (ofParameters otherSecrets).ssl := by decide
  have events := (build_events_eq.1 _ _ _ _ _ _ same built builtOther effective).1
  rw [← events] at builtOther
  obtain ⟨direct, builtDirect, _, unchanged, _⟩ := build_events_eq.2 _ _ _ builtOther none
  exact ⟨same, _, _, _, built, builtOther, effective, by decide, by decide, direct, builtDirect,
    unchanged⟩

end Descriptor

end ImpalaAdapter.Connection
