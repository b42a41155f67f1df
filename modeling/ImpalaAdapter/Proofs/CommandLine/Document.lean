/-
This file says what the document of a connection shows, and that it shows one connection only.
-/

import ImpalaAdapter.CommandLine.Report
import ImpalaAdapter.Proofs.Json.Reading
import Mathlib.Data.List.Forall2

namespace ImpalaAdapter.CommandLine

open Connection

/-- An advisory is shown by its kind and by what it carries. -/
inductive ShowsAdvisory : Advisory → Json → Prop where
  | untrustedServerCertificate :
      ShowsAdvisory .untrustedServerCertificate
        (.object [("kind", .string "ssl_without_trust_server_certificate")])
  | unsupportedServerVersion (found minimum : Decimal) :
      ShowsAdvisory (.unsupportedServerVersion found minimum)
        (.object [("found", .decimal found), ("kind", .string "unsupported_server_version"),
          ("minimum", .decimal minimum)])
  | unreadableServerVersion (reported : String) :
      ShowsAdvisory (.unreadableServerVersion reported)
        (.object [("kind", .string "unreadable_server_version"), ("reported", .string reported)])

/-- A table is shown with its names in order. -/
def tableMembers (table : NameTable String) : List (String × Json) :=
  table.toList.map fun entry => (entry.1, .string entry.2)

/-- Only a tunnel that is there has a member. -/
inductive ShowsTunnel : Option Tunnel → List (String × Json) → Prop where
  | absent : ShowsTunnel none []
  | present (tunnel : Tunnel) :
      ShowsTunnel (some tunnel) [("tunnel", .object (tableMembers tunnel))]

/-- The members of a descriptor are in the order of their names. -/
inductive ShowsDescriptor (descriptor : Descriptor) : Json → Prop where
  | members {tunnel : List (String × Json)} (showsTunnel : ShowsTunnel descriptor.tunnel tunnel) :
      ShowsDescriptor descriptor (.object ([
        ("database", .string descriptor.database),
        ("host", .string descriptor.host),
        ("port", .number descriptor.port.toNat),
        ("properties", .object (tableMembers descriptor.properties)),
        ("ssl", .boolean descriptor.ssl)] ++ tunnel))

/-- A connection is shown with its advisories in the order in which they were raised. -/
inductive ShowsConnection (advised : Advised Descriptor) : Json → Prop where
  | members {advisories : List Json} {descriptor : Json}
      (showsAdvisories : List.Forall₂ ShowsAdvisory advised.advisories advisories)
      (showsDescriptor : ShowsDescriptor advised.value descriptor) :
      ShowsConnection advised (.object [
        ("advisories", .array advisories),
        ("connection_string", .string advised.value.connectionString),
        ("descriptor", descriptor)])

theorem showsAdvisory_advisoryJson (advisory : Advisory) :
    ShowsAdvisory advisory (advisoryJson advisory) := by
  cases advisory with
  | untrustedServerCertificate => exact .untrustedServerCertificate
  | unsupportedServerVersion found minimum => exact .unsupportedServerVersion found minimum
  | unreadableServerVersion reported => exact .unreadableServerVersion reported

theorem showsDescriptor_descriptorJson (descriptor : Descriptor) :
    ShowsDescriptor descriptor (descriptorJson descriptor) := by
  apply ShowsDescriptor.members
  cases descriptor.tunnel with
  | none => exact .absent
  | some tunnel => exact .present tunnel

theorem showsConnection_connectionJson (advised : Advised Descriptor) :
    ShowsConnection advised (connectionJson advised) := by
  refine .members ?_ (showsDescriptor_descriptorJson advised.value)
  rw [List.forall₂_map_right_iff]
  exact List.forall₂_same.mpr fun advisory _ => showsAdvisory_advisoryJson advisory

/-- Different advisories are shown differently, and each one in one way. -/
theorem ShowsAdvisory.eq_iff {advisory other : Advisory} {document shown : Json}
    (shows : ShowsAdvisory advisory document) (showsOther : ShowsAdvisory other shown) :
    document = shown ↔ advisory = other := by
  cases shows <;> cases showsOther <;> simp

theorem tableMembers_injective : Function.Injective tableMembers := by
  have entries : Function.Injective
      fun entry : String × String => (entry.1, Json.string entry.2) := by
    intro entry other same
    obtain ⟨names, texts⟩ := Prod.mk.inj same
    exact Prod.ext names (Json.string.inj texts)
  intro table other same
  exact Std.ExtTreeMap.toList_inj.mp (List.map_injective_iff.mpr entries same)

theorem ShowsTunnel.eq_iff {tunnel other : Option Tunnel} {members shown : List (String × Json)}
    (shows : ShowsTunnel tunnel members) (showsOther : ShowsTunnel other shown) :
    members = shown ↔ tunnel = other := by
  cases shows <;> cases showsOther <;> simp [tableMembers_injective.eq_iff]

theorem ShowsDescriptor.eq_iff {descriptor other : Descriptor} {document shown : Json}
    (shows : ShowsDescriptor descriptor document) (showsOther : ShowsDescriptor other shown) :
    document = shown ↔ descriptor = other := by
  obtain ⟨host, port, database, ssl, properties, tunnel⟩ := descriptor
  obtain ⟨otherHost, otherPort, otherDatabase, otherSsl, otherProperties, otherTunnel⟩ := other
  cases shows with
  | members showsTunnel =>
      cases showsOther with
      | members showsOtherTunnel =>
          simp only [List.cons_append, List.nil_append, Json.object.injEq, List.cons.injEq,
            Prod.mk.injEq, Json.string.injEq, Json.number.injEq, Json.boolean.injEq,
            Int.natCast_inj, UInt16.toNat_inj, tableMembers_injective.eq_iff,
            showsTunnel.eq_iff showsOtherTunnel, true_and, Descriptor.mk.injEq]
          tauto

theorem showsAdvisories_eq_iff {advisories others : List Advisory} {documents shown : List Json}
    (shows : List.Forall₂ ShowsAdvisory advisories documents)
    (showsOthers : List.Forall₂ ShowsAdvisory others shown) :
    documents = shown ↔ advisories = others := by
  constructor
  · intro same
    subst same
    exact List.left_unique_forall₂' (fun _ _ _ first second => (first.eq_iff second).mp rfl)
      shows showsOthers
  · intro same
    subst same
    exact List.right_unique_forall₂' (fun _ _ _ first second => (first.eq_iff second).mpr rfl)
      shows showsOthers

/-- Every connection has one document, and no other connection has it. -/
theorem ShowsConnection.eq_iff {advised other : Advised Descriptor} {document shown : Json}
    (shows : ShowsConnection advised document) (showsOther : ShowsConnection other shown) :
    document = shown ↔ advised = other := by
  obtain ⟨descriptor, advisories⟩ := advised
  obtain ⟨otherDescriptor, otherAdvisories⟩ := other
  cases shows with
  | members showsAdvisories showsDescriptor =>
      cases showsOther with
      | members showsOtherAdvisories showsOtherDescriptor =>
          have connectionString (same : descriptor = otherDescriptor) :
              descriptor.connectionString = otherDescriptor.connectionString :=
            congrArg Descriptor.connectionString same
          simp only [Json.object.injEq, List.cons.injEq, Prod.mk.injEq, Json.array.injEq,
            Json.string.injEq, showsAdvisories_eq_iff showsAdvisories showsOtherAdvisories,
            showsDescriptor.eq_iff showsOtherDescriptor, true_and, and_true, Advised.mk.injEq]
          tauto

theorem isWhole_tableMembers (table : NameTable String) :
    (Json.object (tableMembers table)).IsWhole := by
  apply Json.IsWhole.object
  intro entry isMember
  obtain ⟨_, _, rfl⟩ := List.mem_map.mp isMember
  exact .string _

theorem ShowsTunnel.isWhole {tunnel : Option Tunnel} {members : List (String × Json)}
    (shows : ShowsTunnel tunnel members) : ∀ entry ∈ members, entry.2.IsWhole := by
  cases shows with
  | absent => simp
  | present tunnel => simp [isWhole_tableMembers]

theorem ShowsDescriptor.isWhole {descriptor : Descriptor} {document : Json}
    (shows : ShowsDescriptor descriptor document) : document.IsWhole := by
  cases shows with
  | members showsTunnel =>
      apply Json.IsWhole.object
      intro entry isMember
      rcases List.mem_append.mp isMember with isFixed | isTunnel
      · simp only [List.mem_cons, List.not_mem_nil, or_false] at isFixed
        rcases isFixed with rfl | rfl | rfl | rfl | rfl
        · exact .string descriptor.database
        · exact .string descriptor.host
        · exact .number descriptor.port.toNat
        · exact isWhole_tableMembers descriptor.properties
        · exact .boolean descriptor.ssl
      · exact showsTunnel.isWhole entry isTunnel

theorem isWhole_showsAdvisories {advisories : List Advisory} {documents : List Json}
    (untrusted : ∀ advisory ∈ advisories, advisory = .untrustedServerCertificate)
    (shows : List.Forall₂ ShowsAdvisory advisories documents) :
    ∀ document ∈ documents, document.IsWhole := by
  induction shows with
  | nil => simp
  | cons first _ further =>
      obtain ⟨rfl, others⟩ := List.forall_mem_cons.mp untrusted
      refine List.forall_mem_cons.mpr ⟨?_, further others⟩
      cases first
      apply Json.IsWhole.object
      simp [Json.IsWhole.string]

/-- Only an advisory about a server version has numbers with a point. -/
theorem ShowsConnection.isWhole {advised : Advised Descriptor} {document : Json}
    (untrusted : ∀ advisory ∈ advised.advisories, advisory = .untrustedServerCertificate)
    (shows : ShowsConnection advised document) : document.IsWhole := by
  cases shows with
  | members showsAdvisories showsDescriptor =>
      apply Json.IsWhole.object
      intro entry isMember
      simp only [List.mem_cons, List.not_mem_nil, or_false] at isMember
      rcases isMember with rfl | rfl | rfl
      · exact .array (isWhole_showsAdvisories untrusted showsAdvisories)
      · exact .string advised.value.connectionString
      · exact showsDescriptor.isWhole

end ImpalaAdapter.CommandLine
