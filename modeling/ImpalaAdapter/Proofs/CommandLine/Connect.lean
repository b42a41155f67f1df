/-
This file gives the outcome of the command that builds a connection, stage by stage.
-/

import ImpalaAdapter.CommandLine.Run
import ImpalaAdapter.Proofs.CommandLine.Document
import ImpalaAdapter.Proofs.Connection.Build
import ImpalaAdapter.Proofs.Settings.ResolvedConnection

namespace ImpalaAdapter.CommandLine

open Connection Settings

/-- A value that is given replaces its whole field as it is written. SSL is turned on and never
off, and a tunnel cannot be given. -/
structure Overrides.Replaces (overrides : Overrides) (base parameters : Parameters) : Prop where
  host : parameters.host = overrides.host.getD base.host
  port : parameters.port = overrides.port.or base.port
  database : parameters.database = overrides.database.getD base.database
  ssl : parameters.ssl = true ↔ overrides.ssl = true ∨ base.ssl = true
  options : parameters.additionalOptions = overrides.options.or base.additionalOptions
  tunnel : parameters.tunnel = base.tunnel

theorem Overrides.replaces_iff {overrides : Overrides} {base parameters : Parameters} :
    overrides.Replaces base parameters ↔ parameters = overrides.apply base := by
  unfold Overrides.apply
  constructor
  · intro replaces
    have ssl : parameters.ssl = (overrides.ssl || base.ssl) := by
      rw [Bool.eq_iff_iff, Bool.or_eq_true]
      exact replaces.ssl
    rw [← replaces.host, ← replaces.port, ← replaces.database, ← ssl, ← replaces.options,
      ← replaces.tunnel]
  · intro same
    rw [same]
    constructor
    case ssl => exact Bool.or_eq_true_iff
    all_goals rfl

section
variable (settings : Settings) (environment : Environment)

/-- The parameters before any value replaces a field. -/
inductive Starts : Option String → Parameters → Prop where
  | unnamed :
      Starts none
        { host := "", port := none, database := "", ssl := false, additionalOptions := none,
          tunnel := none }
  | named {name : String} {stored base : Parameters}
      (found : settings.connections[name]? = some stored)
      (allSet : AllSet environment stored.texts) (expands : ExpandsTo environment stored base) :
      Starts (some name) base

/-- The first stage that fails decides the error line, and only a built connection is shown. A
stored text is expanded even when another text replaces it. -/
inductive Connects : Option String → Overrides → Outcome → Prop where
  | notFound {name : String} {overrides : Overrides} (missing : name ∉ settings.connections) :
      Connects (some name) overrides
        { code := 1, output := "", errorLine := "Error: Connection not found: " ++ name }
  | unset {name : String} {overrides : Overrides} {stored : Parameters} {reference : String}
      (found : settings.connections[name]? = some stored)
      (unset : IsFirstUnset environment stored.texts reference) :
      Connects (some name) overrides
        { code := 1
          output := ""
          errorLine := "Error: Missing environment variable: " ++ reference }
  | blankDatabase {connection : Option String} {overrides : Overrides}
      {base parameters : Parameters} (starts : Starts settings environment connection base)
      (replaces : overrides.Replaces base parameters)
      (blank : ∀ character ∈ parameters.database.toList, Text.isBlank character) :
      Connects connection overrides
        { code := 1, output := "", errorLine := "Error: Database name is required" }
  | built {connection : Option String} {overrides : Overrides} {base parameters : Parameters}
      {advised : Advised Descriptor} {events : List Event} {document : Json}
      (starts : Starts settings environment connection base)
      (replaces : overrides.Replaces base parameters)
      (builds : Descriptor.build parameters = .ok (advised, events))
      (shows : ShowsConnection advised document) :
      Connects connection overrides
        { code := 0, output := document.text ++ "\n", errorLine := "" }

end

variable {settings : Settings} {environment : Environment} {connection : Option String}
  {overrides : Overrides}

theorem Starts.baseParameters_eq {base : Parameters}
    (starts : Starts settings environment connection base) :
    baseParameters settings environment connection = .ok base := by
  cases starts with
  | unnamed => rfl
  | named found allSet expands =>
      rw [baseParameters, resolvedConnection_eq, found]
      dsimp only
      rw [unset?_eq_none_iff.mpr allSet, expands.eq]
      rfl

theorem Connects.eq {outcome : Outcome}
    (connects : Connects settings environment connection overrides outcome) :
    runConnect settings environment connection overrides = outcome := by
  unfold runConnect
  cases connects with
  | notFound missing =>
      rw [baseParameters, resolvedConnection_eq, Std.ExtTreeMap.getElem?_eq_none missing]
      rfl
  | unset found unset =>
      rw [baseParameters, resolvedConnection_eq, found]
      dsimp only
      rw [unset?_eq_some_iff.mpr unset]
      rfl
  | blankDatabase starts replaces blank =>
      have nameless : Text.isBlankText _ = true := List.all_eq_true.mpr blank
      rw [starts.baseParameters_eq]
      dsimp only
      rw [← Overrides.replaces_iff.mp replaces, Descriptor.build, if_pos nameless]
      rfl
  | built starts replaces builds shows =>
      have same := (shows.eq_iff (showsConnection_connectionJson _)).mpr rfl
      rw [starts.baseParameters_eq]
      dsimp only
      rw [← Overrides.replaces_iff.mp replaces, builds, same]
      rfl

/-- Parameters to start from lead to the check of the database. -/
theorem Starts.connects {base : Parameters}
    (starts : Starts settings environment connection base) :
    ∃ outcome, Connects settings environment connection overrides outcome := by
  have replaces := Overrides.replaces_iff.mpr (Eq.refl (overrides.apply base))
  cases blank : Text.isBlankText (overrides.apply base).database with
  | true => exact ⟨_, .blankDatabase starts replaces (List.all_eq_true.mp blank)⟩
  | false =>
      exact ⟨_, .built starts replaces (Descriptor.build_named blank)
        (showsConnection_connectionJson _)⟩

variable (settings environment connection overrides) in
theorem exists_connects :
    ∃ outcome, Connects settings environment connection overrides outcome := by
  cases connection with
  | none => exact Starts.unnamed.connects
  | some name =>
      cases found : settings.connections[name]? with
      | none =>
          have missing : name ∉ settings.connections := by
            simp [Std.ExtTreeMap.mem_iff_isSome_getElem?, found]
          exact ⟨_, .notFound missing⟩
      | some stored =>
          by_cases allSet : AllSet environment stored.texts
          · exact (Starts.named found allSet allSet.expandsTo).connects
          · obtain ⟨reference, unset⟩ := exists_isFirstUnset allSet
            exact ⟨_, .unset found unset⟩

theorem connects_iff {outcome : Outcome} :
    runConnect settings environment connection overrides = outcome ↔
      Connects settings environment connection overrides outcome := by
  constructor
  · intro same
    obtain ⟨reached, connects⟩ := exists_connects settings environment connection overrides
    rw [← same, connects.eq]
    exact connects
  · exact Connects.eq

/-- A run succeeds and prints only its output, or it fails and prints only an error line. -/
def Outcome.AllOrNothing (outcome : Outcome) : Prop :=
  (outcome.code = 0 ∧ outcome.output ≠ "" ∧ outcome.errorLine = "") ∨
    (outcome.code = 1 ∧ outcome.output = "" ∧ outcome.errorLine ≠ "")

theorem Connects.allOrNothing {outcome : Outcome}
    (connects : Connects settings environment connection overrides outcome) :
    outcome.AllOrNothing := by
  cases connects with
  | notFound | unset | blankDatabase => exact .inr ⟨rfl, rfl, by simp⟩
  | built => exact .inl ⟨rfl, by simp, rfl⟩

/-- The output is read as the document of a connection. -/
def Outcome.Shows (outcome : Outcome) (advised : Advised Descriptor) : Prop :=
  ∃ document, ShowsConnection advised document ∧ Json.read? outcome.output = some document

/-- An output shows one connection only. -/
theorem Outcome.Shows.eq {outcome : Outcome} {advised other : Advised Descriptor}
    (shows : outcome.Shows advised) (showsOther : outcome.Shows other) : other = advised := by
  obtain ⟨document, shows, read⟩ := shows
  obtain ⟨shown, showsOther, readOther⟩ := showsOther
  have same : shown = document := Option.some_inj.mp (readOther.symm.trans read)
  exact (showsOther.eq_iff shows).mp same

theorem Outcome.shows_text {advised : Advised Descriptor} {document : Json}
    (untrusted : ∀ advisory ∈ advised.advisories, advisory = .untrustedServerCertificate)
    (shows : ShowsConnection advised document) :
    ({ code := 0, output := document.text ++ "\n", errorLine := "" } : Outcome).Shows advised :=
  ⟨document, shows, Json.read?_text (shows.isWhole untrusted) (by decide)⟩

/-- A connection is built from its parameters alone, and its outcome is decided by the first stage
that fails. The output of a build shows that build and no other one. Without a name no stored
connection counts. -/
theorem connect_outcome :
    (∀ settings environment connection overrides outcome,
      runCommand settings environment (.connect connection overrides) = outcome ↔
        Connects settings environment connection overrides outcome) ∧
      (∀ settings environment connection overrides,
        (runCommand settings environment (.connect connection overrides)).AllOrNothing) ∧
      (∀ settings environment connection overrides base parameters advised events,
        Starts settings environment connection base → overrides.Replaces base parameters →
        Descriptor.build parameters = .ok (advised, events) →
          ∀ shown, (runCommand settings environment (.connect connection overrides)).Shows shown ↔
            shown = advised) ∧
      (∀ settings other environment overrides,
        runCommand settings environment (.connect none overrides) =
          runCommand other environment (.connect none overrides)) ∧
      ∀ arguments surroundings connection overrides settings events,
        Command.ofArguments arguments = .ok (.connect connection overrides) →
        surroundings.load = .ok (settings, events) →
          run arguments surroundings =
            runCommand settings surroundings.environment (.connect connection overrides) := by
  refine ⟨?_, ?_, ?_, ?_, ?_⟩
  · intro settings environment connection overrides outcome
    exact connects_iff
  · intro settings environment connection overrides
    exact (connects_iff.mp rfl).allOrNothing
  · intro settings environment connection overrides base parameters advised events starts replaces
      builds shown
    have outcome : runConnect settings environment connection overrides = _ :=
      Connects.eq (.built starts replaces builds (showsConnection_connectionJson advised))
    have shows := Outcome.shows_text (Descriptor.untrusted_of_build builds)
      (showsConnection_connectionJson advised)
    rw [runCommand, outcome]
    constructor
    · intro showsOther
      exact shows.eq showsOther
    · intro same
      subst same
      exact shows
  · intro settings other environment overrides
    rfl
  · intro arguments surroundings connection overrides settings events asked loaded
    simp only [run, asked, loaded]

/-- The stored host needs a variable. -/
def hostedParameters : Parameters where
  host := "$DB_HOST"
  database := "sales"

def hostedSettings : Settings where
  connections := Std.ExtTreeMap.ofList [("prod", hostedParameters)]

/-- No variable is set and no file is there. -/
def bareSurroundings : Surroundings where
  environment := ⟨fun _ => none⟩
  configurationDirectory? := none
  files := ⟨fun _ => none⟩
  refusal _ := "expected a table"

/-- SSL is on, and no option is about the server certificate. -/
def securedParameters : Parameters where
  database := "sales"
  ssl := true

def securedConnection : Advised Descriptor where
  value := Descriptor.ofParameters securedParameters
  advisories := [.untrustedServerCertificate]

def securedLines : List String := [
  "\x7b",
  "  \"advisories\": [",
  "    \x7b",
  "      \"kind\": \"ssl_without_trust_server_certificate\"",
  "    \x7d",
  "  ],",
  "  \"connection_string\": \"impala://localhost:21050/sales?characterEncoding=UTF8" ++
    "&useCompression=true&useSSL=true&useUnicode=true&zeroDateTimeBehavior=convertToNull\",",
  "  \"descriptor\": \x7b",
  "    \"database\": \"sales\",",
  "    \"host\": \"localhost\",",
  "    \"port\": 21050,",
  "    \"properties\": \x7b",
  "      \"characterEncoding\": \"UTF8\",",
  "      \"database\": \"sales\",",
  "      \"useCompression\": \"true\",",
  "      \"useSSL\": \"true\",",
  "      \"useUnicode\": \"true\",",
  "      \"zeroDateTimeBehavior\": \"convertToNull\"",
  "    \x7d,",
  "    \"ssl\": true",
  "  \x7d",
  "\x7d"]

theorem text_connectionJson_securedConnection :
    (connectionJson securedConnection).text = String.intercalate "\n" securedLines := by
  decide +kernel

theorem exists_build_securedParameters :
    ∃ events, Descriptor.build securedParameters = .ok (securedConnection, events) := by
  have raised : Descriptor.raisedAdvisories securedParameters = [.untrustedServerCertificate] := by
    decide +kernel
  have built : Descriptor.build securedParameters = _ := Descriptor.build_named (by decide)
  rw [raised] at built
  exact ⟨_, built⟩

theorem connect_outcome_replacedHost :
    runCommand hostedSettings ⟨fun _ => none⟩
        (.connect (some "prod") { host := some "db.local" }) =
      { code := 1, output := "", errorLine := "Error: Missing environment variable: DB_HOST" } ∧
    run ["connect", "-c", "prod", "--host=db.local"] bareSurroundings =
      { code := 1, output := "", errorLine := "Error: Connection not found: prod" } ∧
    run ["connect", "--database", "sales", "--ssl"] bareSurroundings =
      { code := 0, output := String.intercalate "\n" securedLines ++ "\n", errorLine := "" } ∧
    ∀ shown, (run ["connect", "--database", "sales", "--ssl"] bareSurroundings).Shows shown ↔
      shown = securedConnection := by
  have asked : Command.ofArguments ["connect", "--database", "sales", "--ssl"] =
      .ok (.connect none { database := some "sales", ssl := true }) := by
    decide
  have secured := connect_outcome.2.2.2.2 _ bareSurroundings _ _ {} [] asked rfl
  have replaces : ({ database := some "sales", ssl := true } : Overrides).Replaces {}
      securedParameters := Overrides.replaces_iff.mpr rfl
  obtain ⟨events, builds⟩ := exists_build_securedParameters
  refine ⟨?_, ?_, ?_, ?_⟩
  · have found : hostedSettings.connections["prod"]? = some hostedParameters := by
      simp [hostedSettings]
    have unset : IsFirstUnset ⟨fun _ => none⟩ hostedParameters.texts "DB_HOST" :=
      unset?_eq_some_iff.mp (by decide +kernel)
    exact (connect_outcome.1 _ _ _ _ _).mpr (.unset found unset)
  · have asked : Command.ofArguments ["connect", "-c", "prod", "--host=db.local"] =
        .ok (.connect (some "prod") { host := some "db.local" }) := by
      decide
    rw [connect_outcome.2.2.2.2 _ bareSurroundings _ _ {} [] asked rfl]
    exact (connect_outcome.1 _ _ _ _ _).mpr (.notFound (by simp))
  · rw [secured, ← text_connectionJson_securedConnection]
    exact (connect_outcome.1 _ _ _ _ _).mpr
      (.built .unnamed replaces builds (showsConnection_connectionJson securedConnection))
  · intro shown
    rw [secured]
    exact connect_outcome.2.2.1 _ _ _ _ _ _ _ _ .unnamed replaces builds shown

end ImpalaAdapter.CommandLine
