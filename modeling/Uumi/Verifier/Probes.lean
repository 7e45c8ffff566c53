import Uumi.Connectors.CloudRun
import Uumi.Coordinator.Context

/-! The probe executor of the verifier. A probe either passes with the checks of its kind, or it fails with the error
that stopped it. -/
namespace Uumi.Verifier
open Uumi.Contracts Uumi.Core Uumi.Foundations Uumi.Broker Uumi.Connectors
open Uumi.Coordinator (BoundProbe)

/-- What a probe that passes observed. -/
structure Observed where
  observations : List (String × Option ParameterValue)
  httpStatus : Option Int := none
  generationId : Option Identifier := none
  checks : Finset String
  checks_nonempty : checks ≠ ∅

/-- A query of log entries of a generation. -/
structure LogQuery where
  project : String
  declaredFilter : String
  generationId : Identifier
  windowSeconds : Nat

/-- The moments at which the executor reads the clock. -/
inductive ProbeMoment where
  | started | completed

/-- What the executor asks others, each of whom may raise. Probes over HTTP and by email, which no compiled controls
declare, are asked for as a whole. -/
structure ProbePeers where
  clock : ProbeMoment → AwareDatetime
  /-- The state of a secret version, if the metadata has one. -/
  secretState : String → Connection → Except Error (Option String)
  /-- The result of `runtime.inspectSecretBindings`. -/
  inspect : String → Connection → Except Error (List (String × Json))
  /-- The generation that a revision is labelled with. -/
  revisionGeneration : String → Connection → Except Error (Option String)
  /-- The entries that Logging returns. -/
  logEntries : LogQuery → Connection → Except Error Json
  /-- The result of `provider.getCredentialStatus`. -/
  credentialStatus : String → Connection → Except Error (List (String × Json))
  /-- The status with which a provider answers to the secret under a reference. -/
  testCredential : Connection → Text 0 1024 → Connection → Except Error Int
  successStatuses : HttpOperation → List Int
  upper : String → String
  /-- The text of an exception. -/
  str : Error → String
  httpProbe : BoundProbe → Except Error Observed
  emailProbe : BoundProbe → Except Error Observed
  /-- The record that is stored under a kind. -/
  storeEvidence : String → Except Error Identifier

/-- A value `is` a truth value. -/
def isFlag (value : Option Json) (flag : Bool) : Bool :=
  match value with
  | some (.bool b) => b == flag
  | _ => false

section
variable (peers : ProbePeers) (probe : BoundProbe) (connection : Connection)

/-- `_PROBE_ROLES`. -/
def probeRole : ProbeKind → Option ConnectionRole
  | .credential | .provider => some .provider
  | .secret => some .secretStore
  | .runtime | .generation => some .runtime
  | .telemetry => some .telemetry
  | .http | .email => none

def checkConnection : Except Error Unit := do
  raiseIf (connection.id ≠ probe.definition.connectionId ∨
      connection.organisationId ≠ probe.definition.organisationId ∨ connection.status ≠ .ready ∨
      ∃ expires ∈ connection.authorizationExpiresAt, expires ≤ peers.clock .started)
    (.resourceConflict "verification connection is not the declared ready connection")
  forEach (probeRole probe.definition.kind).toList fun role =>
    raiseIf (role ∉ connection.roles)
      (.resourceConflict s!"verification connection does not provide the {role.value} role")

def secretProbe : Except Error Observed := do
  let version := probe.target
  raiseIf (¬ "projects/".toList <+: version.toList ∨ ¬ "/versions/".toList <:+: version.toList)
    (.connector "verification-secret-target" "secret probe requires a full version resource" false)
  let state ← peers.secretState version connection
  let expected := if probe.definition.negative then "DISABLED" else "ENABLED"
  let lowered := if probe.definition.negative then "disabled" else "enabled"
  raiseIf (state ≠ some expected) (.connector "verification-secret-state" s!"secret version is not {lowered}" false)
  return {
    observations := [("secret_state", some (.text expected)), ("secret_version", some (.text version))]
    checks := {"secret-version-exists", s!"secret-version-{lowered}"}
    checks_nonempty := Finset.insert_ne_empty _ _ }

def checkRevision (result : List (String × Json)) : Option Identifier → Except Error Unit
  | none => .ok ()
  | some expected => do
    let revision ← required (textOf result "latest_ready_revision")
      (.connector "verification-runtime-revision" "runtime has no ready revision" false)
    let generation ← peers.revisionGeneration revision connection
    raiseIf (generation ≠ some expected.text) (.connector "verification-generation-label"
      "ready revision does not carry the expected generation label" false)

def runtimeProbe : Except Error Observed := do
  let result ← peers.inspect probe.target connection
  raiseIf (isFlag (result.lookup "reconciling") true)
    (.connector "verification-runtime-reconciling" "runtime is reconciling" false)
  let expected := probe.expectedGenerationId
  checkRevision peers connection result expected
  return {
    observations := [("runtime_ready", some (.flag true)), ("generation_id", expected.map (.text ·.text)),
      ("latest_ready_revision", (textOf result "latest_ready_revision").map .text)]
    generationId := expected
    checks := {"runtime-ready", "runtime-binding-inspected"} ∪ (if expected.isSome then {"generation-identified"} else ∅)
    checks_nonempty := fun h => absurd (Finset.union_eq_empty.mp h).1 (Finset.insert_ne_empty _ _) }

/-- `_project`. -/
def projectOf (target : String) : Except Error String :=
  match target.splitOn "/" with
  | "projects" :: project :: _ =>
    if project = "" then .error (.connector "verification-project" "target must start with projects/\x7bproject\x7d" false)
    else .ok project
  | _ => .error (.connector "verification-project" "target must start with projects/\x7bproject\x7d" false)

def isErrorEntry (entry : Json) : Bool :=
  (objectOf entry).any fun fields =>
    peers.upper ((textOf fields "severity").getD "") ∈ ["ERROR", "CRITICAL", "ALERT", "EMERGENCY"]

def isAuthFailure (entry : Json) : Bool :=
  (objectOf entry).any fun fields =>
    ((fields.lookup "jsonPayload").bind objectOf).any fun payload =>
      isFlag (payload.lookup "authentication_failure") true

def checkEntries (thresholds : TelemetryThresholds) (entries : List Json) : Except Error Unit := do
  raiseIf (probe.definition.negative ∧ entries ≠ []) (.connector "verification-old-generation-use"
    "old credential generation still has matching telemetry" false)
  raiseIf (¬ probe.definition.negative ∧ entries.length < thresholds.minimumCount)
    (.connector "verification-telemetry-count" "insufficient matching telemetry" false)
  raiseIf (thresholds.maximumErrorCount < entries.countP (isErrorEntry peers))
    (.connector "verification-telemetry-errors" "error threshold exceeded" false)
  raiseIf (thresholds.maximumAuthFailureCount < entries.countP isAuthFailure)
    (.connector "verification-telemetry-auth" "authentication failure threshold exceeded" false)

def telemetryProbe : Except Error Observed := do
  let project ← projectOf probe.target
  let thresholds ← required probe.definition.telemetry
    (.connector "verification-telemetry-thresholds" "telemetry thresholds are missing" false)
  let expected ← required probe.expectedGenerationId
    (.connector "verification-telemetry-generation" "telemetry probe has no generation binding" false)
  let response ← peers.logEntries {
    project
    declaredFilter := (probe.definition.headers.lookup "x-uumi-log-filter").getD ""
    generationId := expected
    windowSeconds := thresholds.windowSeconds } connection
  let entries ← required (arrayOf response)
    (.connector "verification-telemetry-response" "Logging returned invalid entries" false)
  checkEntries peers probe thresholds entries
  return {
    observations := [("telemetry_count", some (.number entries.length)), ("generation_id", some (.text expected.text)),
      ("error_count", some (.number (entries.countP (isErrorEntry peers)))),
      ("authentication_failure_count", some (.number (entries.countP isAuthFailure)))]
    generationId := expected
    checks := {"telemetry-query-executed", "telemetry-generation-bound",
      if probe.definition.negative then "telemetry-no-old-use" else "telemetry-threshold-met"}
    checks_nonempty := Finset.insert_ne_empty _ _ }

def providerProbe : Except Error Observed := do
  let result ← peers.credentialStatus probe.target connection
  let expected := !probe.definition.negative
  let state := if expected then "exist" else "be revoked"
  raiseIf (¬ isFlag (result.lookup "exists") expected)
    (.connector "verification-provider-state" s!"provider credential should {state}" false)
  return {
    observations := [("provider_credential_exists", some (.flag expected)), ("provider_id", some (.text probe.target))]
    checks := {if expected then "provider-credential-exists" else "provider-credential-revoked"}
    checks_nonempty := Finset.singleton_ne_empty _ }

def secretBinding (secretConnection : Option Connection) : Except Error (Text 0 1024 × Connection) :=
  match probe.secretReference, secretConnection with
  | some reference, some secret =>
    if some secret.id ≠ probe.definition.secretConnectionId ∨ secret.organisationId ≠ probe.definition.organisationId ∨
        .secretStore ∉ secret.roles then
      .error (.connector "verification-secret-binding"
        "credential authentication probe has no secret-store binding" false)
    else .ok (reference, secret)
  | _, _ => .error (.connector "verification-secret-binding"
      "credential authentication probe has no secret-store binding" false)

def credentialProbe (secretConnection : Option Connection) : Except Error Observed := do
  let (reference, secret) ← secretBinding probe secretConnection
  let status ← peers.testCredential connection reference secret
  let operation ← required (connection.http.bind HttpProviderApi.testCredential) (.connector
    "credential-test-unavailable" "provider connection has no credential authentication test" false)
  let accepted := decide (status ∈ peers.successStatuses operation)
  let expected := if probe.definition.negative then "reject" else "accept"
  raiseIf (accepted = probe.definition.negative) (.connector "verification-credential-authentication"
    s!"provider should {expected} the credential" false)
  return {
    observations := [("credential_accepted", some (.flag accepted)), ("http_status", some (.number status))]
    httpStatus := some status
    checks := {if probe.definition.negative then "credential-rejected" else "credential-accepted"}
    checks_nonempty := Finset.singleton_ne_empty _ }

def observe (secretConnection : Option Connection) : Except Error Observed :=
  match probe.definition.kind with
  | .http => peers.httpProbe probe
  | .email => peers.emailProbe probe
  | .secret => secretProbe peers probe connection
  | .runtime | .generation => runtimeProbe peers probe connection
  | .telemetry => telemetryProbe peers probe connection
  | .provider => providerProbe peers probe connection
  | .credential => credentialProbe peers probe connection secretConnection

def attempt (secretConnection : Option Connection) : Except Error ProbeResult := do
  checkConnection peers probe connection
  let observed ← observe peers probe connection secretConnection
  let evidence ← peers.storeEvidence s!"verification-{probe.definition.kind.value}"
  return {
    probeId := probe.definition.id
    status := .passed
    observedStatus := observed.httpStatus
    generationId := observed.generationId
    checks := observed.checks
    evidenceIds := [evidence]
    observations := observed.observations
    startedAt := peers.clock .started
    completedAt := peers.clock .completed
    checks_nonempty := observed.checks_nonempty
    evidence_nonempty := List.cons_ne_nil _ _
    explained := passed_explains }

/-- `_error`: the class of an error and its text on one line. -/
def errorText (error : Error) : Text 0 1024 where
  value := String.ofList (((error.className ++ ": " ++ peers.str error).toList.map fun c =>
    if c = '\n' then ' ' else c).take 1024)
  bounded := by
    rw [String.length_ofList]
    exact ⟨Nat.zero_le _, List.length_take_le _ _⟩

private theorem errorText_explains (error : Error) : (errorText peers error).value ≠ "" := by
  intro h
  have hlist := congrArg String.toList h
  rw [errorText, String.toList_ofList] at hlist
  have hclass : error.className.toList ≠ [] := by cases error <;> simp [Error.className]
  obtain ⟨c, cs, hcons⟩ := List.exists_cons_of_ne_nil hclass
  rw [String.toList_append, String.toList_append, hcons] at hlist
  cases hlist

def failure (error : Error) : Except Error ProbeResult := do
  let evidence ← peers.storeEvidence s!"verification-{probe.definition.kind.value}-failure"
  return {
    probeId := probe.definition.id
    status := .failed
    checks := {"probe-executed"}
    evidenceIds := [evidence]
    error := some (errorText peers error)
    startedAt := peers.clock .started
    completedAt := peers.clock .completed
    checks_nonempty := Finset.singleton_ne_empty _
    evidence_nonempty := List.cons_ne_nil _ _
    explained := fun _ => errorText_explains peers error }

def execute (secretConnection : Option Connection) : Except Error ProbeResult :=
  match attempt peers probe connection secretConnection with
  | .ok result => .ok result
  | .error error => failure peers probe error

/-- The checks that a probe of a kind and a polarity reports when it passes, with or without a generation. -/
def passingChecks (kind : ProbeKind) (negative identified : Bool) : Finset String :=
  match kind with
  | .secret => {"secret-version-exists", if negative then "secret-version-disabled" else "secret-version-enabled"}
  | .runtime | .generation => {"runtime-ready", "runtime-binding-inspected"} ∪
      (if identified then {"generation-identified"} else ∅)
  | .telemetry => {"telemetry-query-executed", "telemetry-generation-bound",
      if negative then "telemetry-no-old-use" else "telemetry-threshold-met"}
  | .provider => {if negative then "provider-credential-revoked" else "provider-credential-exists"}
  | .credential => {if negative then "credential-rejected" else "credential-accepted"}
  | .http | .email => ∅

abbrev checksOf (probe : BoundProbe) : Finset String :=
  passingChecks probe.definition.kind probe.definition.negative probe.expectedGenerationId.isSome

variable {peers probe connection} {secretConnection : Option Connection}

private theorem observe_checks {observed : Observed} (h : observe peers probe connection secretConnection = .ok observed) :
    checksOf probe ⊆ observed.checks := by
  cases hkind : probe.definition.kind with
  | http | email =>
    rw [checksOf, hkind, passingChecks]
    exact Finset.empty_subset _
  | secret =>
    rw [observe, hkind] at h
    simp only [secretProbe, bind_ok, pure_ok] at h
    obtain ⟨-, -, state, -, -, -, rfl⟩ := h
    rw [checksOf, hkind, passingChecks]
    dsimp only
    cases probe.definition.negative <;> decide
  | runtime | generation =>
    rw [observe, hkind] at h
    simp only [runtimeProbe, bind_ok, pure_ok] at h
    obtain ⟨result, -, -, -, -, -, rfl⟩ := h
    rw [checksOf, hkind, passingChecks]
  | telemetry =>
    rw [observe, hkind] at h
    unfold telemetryProbe at h
    rw [bind_ok] at h
    obtain ⟨project, -, h⟩ := h
    simp only [required_bind_ok] at h
    obtain ⟨thresholds, -, expected, -, h⟩ := h
    rw [bind_ok] at h
    obtain ⟨response, -, h⟩ := h
    simp only [required_bind_ok, unit_bind_ok, pure_ok] at h
    obtain ⟨entries, -, -, rfl⟩ := h
    rw [checksOf, hkind, passingChecks]
  | provider =>
    rw [observe, hkind] at h
    simp only [providerProbe, bind_ok, pure_ok] at h
    obtain ⟨result, -, -, -, rfl⟩ := h
    rw [checksOf, hkind, passingChecks]
    dsimp only
    cases probe.definition.negative <;> decide
  | credential =>
    rw [observe, hkind] at h
    unfold credentialProbe at h
    simp only [bind_ok, pure_ok] at h
    obtain ⟨⟨reference, secret⟩, -, status, -, operation, -, -, -, rfl⟩ := h
    rw [checksOf, hkind, passingChecks]

/-- A result that passed reports the checks of its probe. -/
theorem execute_passed {result : ProbeResult} (h : execute peers probe connection secretConnection = .ok result)
    (hpassed : result.status = .passed) :
    result.probeId = probe.definition.id ∧ checksOf probe ⊆ result.checks := by
  unfold execute at h
  split at h
  · rename_i result' hattempt
    obtain rfl := Except.ok.inj h
    simp only [attempt, bind_ok, pure_ok] at hattempt
    obtain ⟨-, -, observed, hobserved, evidence, -, rfl⟩ := hattempt
    exact ⟨rfl, observe_checks hobserved⟩
  · simp only [failure, bind_ok, pure_ok] at h
    obtain ⟨evidence, -, rfl⟩ := h
    cases hpassed

end
end Uumi.Verifier
