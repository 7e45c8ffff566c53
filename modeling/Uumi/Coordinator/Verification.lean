import Mathlib
import Uumi.Coordinator.Context
import Uumi.Storage.Generations

/-! Deterministic verification: the probes of a stage bound to a run, their execution, and the checks
that a report supports. -/
namespace Uumi.Coordinator
open Uumi.Contracts Uumi.Core Uumi.Foundations Uumi.Policy Uumi.Storage

def ofRevocation (kind : ProbeKind) : Bool := kind == .provider || kind == .credential

def boundGeneration (run : RotationRun) : GenerationBinding → Except Error (Option Identifier)
  | .target => do return some (← requiredId run.targetGenerationId "target generation")
  | .current => do return some (← requiredId run.currentGenerationId "current generation")
  | .none => return none

def requiredText {n : Nat} (value : Option (Text 0 n)) (label : String) : Except Error (Text 0 n) :=
  required value (.value s!"{label} is missing")

def boundTarget (definition : ProbeDefinition) (generation : CredentialGeneration) : Except Error String :=
  match definition.targetBinding with
  | .providerId => do return (← requiredText generation.providerId "provider generation ID").value
  | .secretReference => do return (← requiredText generation.secretReference "generation secret reference").value
  | .static => return definition.target.value

def boundSecret (definition : ProbeDefinition) (generation : CredentialGeneration) :
    Except Error (Option (Text 0 1024)) :=
  if definition.kind = .credential then do
    return some (← requiredText generation.secretReference "credential probe secret reference")
  else return definition.secretReference

def bindProbe (catalog : Catalog) (run : RotationRun) (definition : ProbeDefinition) (negative : Bool) :
    Except Error BoundProbe := do
  raiseIf (ofRevocation definition.kind ∧ definition.negative ≠ (negative && ofRevocation definition.kind))
    (.value "probe polarity does not match the verification stage")
  let generationId ← boundGeneration run definition.generationBinding
  raiseIf (definition.expectedGenerationId ≠ none ∧ definition.expectedGenerationId ≠ generationId)
    (.value "probe generation binding changed after activation")
  if definition.targetBinding ≠ .static ∨ definition.kind = .credential then do
    let id ← requiredId generationId "probe generation"
    let bound ← getGeneration catalog run.organisationId id
    let target ← boundTarget definition bound
    let secretReference ← boundSecret definition bound
    return { definition, target, secretReference, expectedGenerationId := generationId }
  else
    return {
      definition, target := definition.target.value, secretReference := definition.secretReference
      expectedGenerationId := generationId }

def declared (version : ControlVersion) (stage : Stage) : List Identifier :=
  (version.definition.probeVersions stage).getD []

def resolveProbe (hashes : Hashes) (catalog : Catalog) (run : RotationRun) (negative : Bool) (id : Identifier) :
    Except Error BoundProbe := do
  let version ← found (catalog.probes (run.organisationId, id)) (FirestorePaths.probeVersion run.organisationId id)
  raiseIf (version.state ∉ [.active, .superseded] ∨
      version.digest ≠ hashes.digest (probePayload version.definition.toProbeFields))
    (.value s!"probe version {id.text} is not immutable and authorised")
  bindProbe catalog run version.definition negative

def boundKinds : List ProbeKind :=
  [.provider, .secret, .runtime, .http, .email, .telemetry, .generation, .credential]

def hasKind (probes : List BoundProbe) (kind : ProbeKind) (negative : Bool) : Prop :=
  ∃ probe ∈ probes, probe.definition.kind = kind ∧ probe.definition.negative = negative

instance (probes : List BoundProbe) (kind : ProbeKind) (negative : Bool) :
    Decidable (hasKind probes kind negative) := by
  unfold hasKind
  infer_instance

def browserManaged (kinds : List ProbeKind) : Bool := kinds.all fun kind => !ofRevocation kind

def requiredKinds (managed telemetry : Bool) : List ProbeKind :=
  [.secret, .runtime] ++ (if telemetry then [.telemetry] else []) ++
    (if managed then [] else [.provider, .credential])

def checkProbes (version : ControlVersion) (negative observation : Bool) (stage : Stage)
    (values : List BoundProbe) : Except Error Unit := do
  let kinds := values.map fun probe => probe.definition.kind
  let unbound := values.filter fun probe =>
    probe.definition.kind ∈ boundKinds ∧ probe.expectedGenerationId = none
  raiseIf (stage = .verify ∧ unbound ≠ []) (.value
    ("verification probes are not generation-bound: " ++
      String.intercalate ", " (unbound.map fun probe => probe.definition.id.text)))
  raiseIf (negative ∧ ¬ browserManaged kinds ∧ ¬ (hasKind values .provider true ∧ hasKind values .credential true))
    (.value "revocation requires negative provider and credential probes")
  raiseIf (observation ∧ version.definition.requireGenerationTelemetry ∧
      ¬ (hasKind values .telemetry false ∧ hasKind values .telemetry true))
    (.value "observation requires target-health and old-use telemetry probes")
  raiseIf (stage = .verify ∧ ¬ requiredKinds (browserManaged kinds) version.definition.requireGenerationTelemetry ⊆ kinds)
    (.value "verification probe coverage is incomplete")

def probes (hashes : Hashes) (catalog : Catalog) (run : RotationRun) (negative observation : Bool)
    (stage : Stage) : Except Error (List BoundProbe) := do
  let version ← control hashes catalog run
  raiseIf (declared version stage = [])
    (.value s!"controls declare no deterministic probes for {stage.value}")
  let values ← collect (declared version stage) (resolveProbe hashes catalog run negative)
  checkProbes version negative observation stage values
  return values

def report (id organisationId runId generationId : Identifier) (results : List ProbeResult)
    (startedAt completedAt : AwareDatetime) (nonempty : results ≠ []) : VerificationReport where
  id := id
  organisationId := organisationId
  runId := runId
  generationId := generationId
  status := if ∀ result ∈ results, result.status = .passed then .passed else .failed
  results := results
  checks := results.toFinset.biUnion ProbeResult.checks
  evidenceIds := results.flatMap ProbeResult.evidenceIds
  startedAt := startedAt
  completedAt := completedAt
  results_nonempty := nonempty
  checks_nonempty := by
    obtain ⟨result, hr⟩ := List.exists_mem_of_ne_nil results nonempty
    obtain ⟨check, hc⟩ := Finset.nonempty_iff_ne_empty.mpr result.checks_nonempty
    exact Finset.nonempty_iff_ne_empty.mp ⟨check, Finset.mem_biUnion.mpr ⟨result, List.mem_toFinset.mpr hr, hc⟩⟩
  evidence_nonempty := by
    obtain ⟨result, hr⟩ := List.exists_mem_of_ne_nil results nonempty
    intro he
    exact result.evidence_nonempty (List.flatMap_eq_nil_iff.mp he result hr)
  passed := by
    intro h
    split at h
    · assumption
    · cases h

def secretConnection (catalog : Catalog) (o : Identifier) : Option Identifier → Except Error (Option Connection)
  | none => return none
  | some id => do return some (← getConnection catalog o id)

def runProbe (peers : Peers) (catalog : Catalog) (context : ConnectorContext) (reportId o : Identifier)
    (probe : BoundProbe) : Except Error ProbeResult := do
  let connection ← getConnection catalog o probe.definition.connectionId
  let secret ← secretConnection catalog o probe.definition.secretConnectionId
  peers.executeProbe reportId probe connection context secret

/-- `VerificationService.verify`. -/
def verifyProbes (peers : Peers) (catalog : Catalog) (reportId organisationId runId generationId : Identifier)
    (definitions : List BoundProbe) (context : ConnectorContext) :
    Except Error (VerificationReport × Catalog) := do
  raiseIf (definitions = []) (.resourceConflict "verification requires at least one deterministic probe")
  raiseIf (context.run.id ≠ runId ∨ context.run.organisationId ≠ organisationId)
    (.resourceConflict "verification context belongs to another run")
  raiseIf (∃ probe ∈ definitions, probe.definition.organisationId ≠ organisationId)
    (.resourceConflict "verification probes cross organisation boundaries")
  let results ← collect definitions (runProbe peers catalog context reportId organisationId)
  if h : results ≠ [] then do
    let report := report reportId organisationId runId generationId results
      (peers.clock (.verifying reportId)) (peers.clock (.verified reportId)) h
    let (report, store) ← saveReport catalog.toInventoryStore report
    return (report, { catalog with toInventoryStore := store })
  else .error (.validation "results should have at least 1 item")

/-- What the identifier of the report of a verification is made of: run, stage, scope and revision. -/
def reportText (run : RotationRun) (scope : String) : String :=
  joined [run.id.text, run.stage.value, scope, toString run.revision]

def reportIdOf (hashes : Hashes) (run : RotationRun) (scope : String) : Identifier :=
  identify hashes .report [run.id.text, run.stage.value, scope, toString run.revision]

def requestIdOf (hashes : Hashes) (run : RotationRun) (scope : String) : Identifier :=
  identify hashes .verify [run.id.text, run.stage.value, scope]

def runVerification (hashes : Hashes) (peers : Peers) (catalog : Catalog) (run : RotationRun) (negative : Bool)
    (observation : Bool := false) (probeStage : Option Stage := none) (reportSuffix : Option String := none) :
    Except Error (VerificationReport × Catalog) := do
  let credential ← credential catalog run
  let stage := probeStage.getD run.stage
  let definitions ← probes hashes catalog run negative observation stage
  let connection ← getConnection catalog run.organisationId credential.connectionId
  let scope := reportSuffix.getD stage.value
  let generationId ← requiredId (if negative then run.currentGenerationId else run.targetGenerationId)
    "verification generation"
  let context : ConnectorContext := {
    requestId := requestIdOf hashes run scope
    agentId := coordinatorId
    connection := connection
    run := run
    now := peers.clock (.calling (requestIdOf hashes run scope))
    idempotencyKey := requestIdOf hashes run scope }
  verifyProbes peers catalog (reportIdOf hashes run scope) run.organisationId run.id generationId definitions context

/-- The catalog with other reports. -/
def Catalog.withReports (catalog : Catalog)
    (reports : Collection (Identifier × Identifier) VerificationReport) : Catalog :=
  { catalog with reports }

/-- What a verification that ran to its end left behind: its report, under the identifier of the run and
the scope. -/
structure Reported (hashes : Hashes) (run : RotationRun) (scope : String) (generationId : Option Identifier)
    (s : Catalog) (report : VerificationReport) (s' : Catalog) : Prop where
  id : report.id = reportIdOf hashes run scope
  run_id : report.runId = run.id
  organisation : report.organisationId = run.organisationId
  generation : generationId = some report.generationId
  new : s.reports (run.organisationId, report.id) = none ∨ s.reports (run.organisationId, report.id) = some report
  catalog_eq : s' = s.withReports (s.reports.set (run.organisationId, report.id) report)

/-- A verification that returns stores a report about the run, made from the results of its probes. -/
theorem runVerification_ok {hashes : Hashes} {peers : Peers} {s s' : Catalog} {run : RotationRun}
    {negative observation : Bool} {stage : Option Stage} {suffix : Option String} {report : VerificationReport}
    (h : runVerification hashes peers s run negative observation stage suffix = .ok (report, s')) :
    Reported hashes run (suffix.getD (stage.getD run.stage).value)
      (if negative then run.currentGenerationId else run.targetGenerationId) s report s' := by
  simp only [runVerification, bind_ok] at h
  obtain ⟨_, _, definitions, _, connection, _, generationId, hg, h⟩ := h
  rw [requiredId_ok] at hg
  simp only [verifyProbes, unit_bind_ok] at h
  obtain ⟨_, _, _, h⟩ := h
  rw [bind_ok] at h
  obtain ⟨results, _, h⟩ := h
  split at h
  · rw [bind_ok] at h
    obtain ⟨⟨saved, store⟩, hsave, h⟩ := h
    obtain ⟨rfl, hnew, rfl⟩ := saveReport_ok hsave
    rw [pure_ok, Prod.mk.injEq] at h
    obtain ⟨rfl, rfl⟩ := h
    exact ⟨rfl, rfl, rfl, hg, hnew, rfl⟩
  · cases h

/-- The report of a verification is stored. -/
theorem Reported.stored {hashes : Hashes} {run : RotationRun} {scope : String} {g : Option Identifier}
    {s s' : Catalog} {report : VerificationReport} (h : Reported hashes run scope g s report s') :
    s'.reports (run.organisationId, report.id) = some report := by
  rw [h.catalog_eq]
  exact Collection.set_same ..

def resultOf (report : VerificationReport) (id : Identifier) : Option ProbeResult :=
  (report.results.reverse).find? (·.probeId = id)

def selectResults (report : VerificationReport) (versions : List ProbeVersion) (kind : ProbeKind)
    (negative : Option Bool) : Except Error (List ProbeResult) :=
  collect (versions.filter fun version => version.definition.kind = kind ∧
      (negative = none ∨ negative = some version.definition.negative))
    fun version => required (resultOf report version.id) (.key version.id.text)

/-- `require`: there are such probes, and each reports the checks. -/
def requireEvidence (report : VerificationReport) (versions : List ProbeVersion) (stage : Stage) (kind : ProbeKind)
    (checks : Finset String) (negative : Option Bool := none) : Except Error Unit := do
  let selected ← selectResults report versions kind negative
  raiseIf (selected = [] ∨ ∃ result ∈ selected, ¬ checks ⊆ result.checks)
    (.value (s!"{stage.value} lacks" ++ (if negative = some true then " negative" else "") ++ s!" {kind.value} evidence"))

def runtimeChecks : Finset String := {"runtime-ready", "runtime-binding-inspected", "generation-identified"}

def healthChecks : Finset String :=
  {"telemetry-query-executed", "telemetry-generation-bound", "telemetry-threshold-met"}

def oldUseChecks : Finset String :=
  {"telemetry-query-executed", "telemetry-generation-bound", "telemetry-no-old-use"}

def requireProvider (report : VerificationReport) (versions : List ProbeVersion) : Except Error Unit :=
  if browserManaged (versions.map fun version => version.definition.kind) then .ok ()
  else do
    requireEvidence report versions .verify .provider {"provider-credential-exists"}
    requireEvidence report versions .verify .credential {"credential-accepted"}

def verifyChecks (version : ControlVersion) (run : RotationRun) (report : VerificationReport)
    (versions : List ProbeVersion) : Except Error (Finset String) := do
  requireProvider report versions
  requireEvidence report versions .verify .secret {"secret-version-enabled"}
  requireEvidence report versions .verify .runtime runtimeChecks
  raiseIf (run.deployments = [] ∨ ∃ deployment ∈ run.deployments, deployment.rollbackRevision.value = "")
    (.value "verification has no pinned rollback deployment")
  let checks : Finset String :=
    {"provider-valid", "store-valid", "deployment-valid", "coverage-complete", "rollback-ready"}
  if version.definition.requireGenerationTelemetry then do
    requireEvidence report versions .verify .telemetry healthChecks (some false)
    return insert "telemetry-healthy" checks
  else return checks

def observeChecks (version : ControlVersion) (report : VerificationReport) (versions : List ProbeVersion) :
    Except Error (Finset String) := do
  requireEvidence report versions .observe .runtime runtimeChecks
  if version.definition.requireGenerationTelemetry then do
    requireEvidence report versions .observe .telemetry healthChecks (some false)
    requireEvidence report versions .observe .telemetry oldUseChecks (some true)
    return {"consumers-current", "telemetry-healthy", "old-use-clear"}
  else return {"consumers-current"}

def verificationChecks (hashes : Hashes) (catalog : Catalog) (run : RotationRun) (report : VerificationReport)
    (stage : Stage) : Except Error (Finset String) := do
  raiseIf (report.status ≠ .passed) (.value "verification report did not pass")
  let version ← control hashes catalog run
  raiseIf ((report.results.map ProbeResult.probeId).toFinset ≠ (declared version stage).toFinset)
    (.value "verification report does not cover the pinned probe set")
  let versions ← collect (declared version stage) fun id =>
    found (catalog.probes (run.organisationId, id)) (FirestorePaths.probeVersion run.organisationId id)
  match stage with
  | .verify => verifyChecks version run report versions
  | .observe => observeChecks version report versions
  | stage => .error (.value s!"stage {stage.value} does not use verification report checks")

def latest (reports : List VerificationReport) : Option VerificationReport :=
  letI : Preorder Int := Int.instLinearOrder.toPreorder
  reports.argmax fun report => report.completedAt.instant

def passedReports (reports : List VerificationReport) (probes : Option (List Identifier)) : List VerificationReport :=
  reports.filter fun report => report.status = .passed ∧
    ∀ ids ∈ probes, (report.results.map ProbeResult.probeId).toFinset = ids.toFinset

def expectedProbes (hashes : Hashes) (catalog : Catalog) (run : RotationRun) :
    Option Stage → Except Error (Option (List Identifier))
  | none => return none
  | some stage => do return some (declared (← control hashes catalog run) stage)

def latestReport (hashes : Hashes) (peers : Peers) (catalog : Catalog) (run : RotationRun)
    (generationId : Option Identifier) (probeStage : Option Stage := none) : Except Error VerificationReport := do
  let reports := peers.queryReports catalog.reports run.organisationId run.id generationId
  let expected ← expectedProbes hashes catalog run probeStage
  required (latest (passedReports reports expected)) (.value "no passed verification report exists")

end Uumi.Coordinator
