import Uumi.Contracts.Command
import Uumi.Coordinator.Operations
import Uumi.Generation.Lineage

/-! The stages that verify a replacement and roll it out: the first stamps its report on every consumer
binding, the second shifts the traffic in steps, verifies after each and promotes. -/
namespace Uumi.Coordinator
open Uumi.Contracts Uumi.Core Uumi.Foundations Uumi.Policy Uumi.Storage

/-- What a stage hands back: its checks, its evidence and the fields that it binds. -/
structure StageOutcome where
  checks : Finset String
  evidenceIds : List Identifier
  bindings : StageBindings := {}
  deriving DecidableEq

def verify (hashes : Hashes) (peers : Peers) (catalog : Catalog) (run : RotationRun) :
    Except Error (StageOutcome × Catalog) := do
  let (report, catalog) ← runVerification hashes peers catalog run false
  raiseIf (report.status ≠ .passed) (.value "deterministic verification failed")
  let credential ← credential catalog run
  let bindings ← bindings peers catalog run credential
  let target ← requiredId run.targetGenerationId "target generation"
  let (_, store) ← Generation.verifyBindings catalog.toInventoryStore run.organisationId target report.id
    (bindings.map ConsumerBinding.id)
  let catalog := { catalog with toInventoryStore := store }
  let checks ← verificationChecks hashes catalog run report .verify
  return ({ checks, evidenceIds := report.evidenceIds }, catalog)

def shiftOperation (id : Identifier) (deployment : RuntimeDeployment) (percent : Int) : OperationStep where
  id := id
  stage := .rollout
  tool := ⟨"runtime.shiftTraffic", by decide⟩
  operation := ⟨"shift-traffic", by decide⟩
  objective := ⟨"Promote the verified replacement candidate under controls.", by decide⟩
  parameters := [
    ("connection_id", .text deployment.connectionId.text),
    ("service", .text deployment.service.value),
    ("candidate_revision", .text deployment.candidateRevision.value),
    ("rollback_revision", .text deployment.rollbackRevision.value),
    ("percent", .number percent)]
  evidenceChecks := {"traffic-shifted"}
  checks_nonempty := by decide

def shiftStep (deployment : RuntimeDeployment) (percent : Int) : Except Error OperationStep := do
  let id ← Identifier.build s!"rollout_{deployment.bindingId.text}_{percent}"
  return shiftOperation id deployment percent

def shiftTraffic (hashes : Hashes) (peers : Peers) (catalog : Catalog) (run : RotationRun) (percent : Int)
    (deployment : RuntimeDeployment) : Except Error (Output × List Identifier) := do
  let step ← shiftStep deployment percent
  executeOperation hashes peers catalog run step

def rolloutScope (percent : Int) : String := s!"rollout-{percent}"

/-- One step of the rollout: every deployment takes its share, then the replacement is verified. -/
def milestone (hashes : Hashes) (peers : Peers) (catalog : Catalog) (run : RotationRun) (percent : Int) :
    Except Error (List Identifier × VerificationReport × Catalog) := do
  let shifts ← collect run.deployments (shiftTraffic hashes peers catalog run percent)
  let (report, catalog) ← runVerification hashes peers catalog run false false (some .verify)
    (some (rolloutScope percent))
  raiseIf (report.status ≠ .passed) (.value s!"rollout verification failed at {percent} percent")
  let _ ← verificationChecks hashes catalog run report .verify
  return (shifts.flatMap Prod.snd ++ report.evidenceIds, report, catalog)

def milestones (hashes : Hashes) (peers : Peers) (run : RotationRun) :
    List Int → Catalog → Option VerificationReport → List Identifier →
      Except Error (Option VerificationReport × List Identifier × Catalog)
  | [], catalog, report, evidence => return (report, evidence, catalog)
  | percent :: rest, catalog, _, evidence => do
    let (ids, report, catalog) ← milestone hashes peers catalog run percent
    milestones hashes peers run rest catalog (some report) (evidence ++ ids)

/-- A rollout that only has to promote: what it passes to the generation service, and where. -/
structure RolledOut where
  catalog : Catalog
  credential : ManagedCredential
  bindings : List ConsumerBinding
  target : Identifier
  current : Identifier
  report : VerificationReport
  evidence : List Identifier

/-- `_rollout` up to its promotion. -/
def rolledOut (hashes : Hashes) (peers : Peers) (catalog : Catalog) (run : RotationRun) :
    Except Error RolledOut := do
  let credential ← credential catalog run
  raiseIf (run.deployments = []) (.value "runtime deployment identities are missing")
  let plan ← getPlan catalog run
  raiseIf (some (hashes.digest (planPayload plan)) ≠ run.planHash) (.value "rotation plan digest changed")
  let (report, evidence, catalog) ← milestones hashes peers run plan.rollout catalog none []
  let report ← required report (.value "rotation plan has no rollout percentages")
  let bindings ← bindings peers catalog run credential
  let target ← requiredId run.targetGenerationId "target generation"
  let current ← requiredId run.currentGenerationId "current generation"
  return { catalog, credential, bindings, target, current, report, evidence }

/-- The promotion that `_rollout` asks for. -/
def RolledOut.promote (ready : RolledOut) (run : RotationRun) :
    Except Error (CredentialGeneration × InventoryStore) :=
  Generation.promote ready.catalog.toInventoryStore run.organisationId ready.credential.id ready.target
    ready.current ready.report.id (ready.bindings.map ConsumerBinding.id)

def rollout (hashes : Hashes) (peers : Peers) (catalog : Catalog) (run : RotationRun) :
    Except Error (StageOutcome × Catalog) := do
  let ready ← rolledOut hashes peers catalog run
  let (_, store) ← ready.promote run
  return ({
    checks := {"production-promoted", "rollout-healthy"}
    evidenceIds := (ready.evidence ++ ready.report.evidenceIds).eraseDups },
    { ready.catalog with toInventoryStore := store })

def hexDigit (n : Nat) : Char := Nat.digitChar (n % 16)

private theorem hexDigit_hexadecimal (n : Nat) : hexadecimal (hexDigit n) = true := by
  have h : ∀ m < 16, hexadecimal (Nat.digitChar m) = true := by decide
  exact h _ (Nat.mod_lt _ (by decide))

def Checksum.sample (text : String) : Checksum where
  text := String.ofList ((List.range 40).map fun i =>
    hexDigit (text.toList.foldl (fun h c => (h * 257 + c.toNat) % 16 ^ 40) 0 / 16 ^ i))
  digits := by
    refine ⟨by simp, ?_⟩
    simp [hexDigit_hexadecimal]

def Hashes.sample : Hashes where
  toHashing := Hashing.sample
  checksum := Checksum.sample
  lower s := String.ofList (s.toList.map Char.toLower)
  isalnum s := s ≠ "" && s.toList.all Char.isAlphanum

def sampleTarget : CredentialGeneration where
  id := generationTwo
  organisationId := sampleCredential.organisationId
  credentialId := sampleCredential.id
  providerId := some providerKeyTwo
  state := .creating
  attemptId := attemptTwo
  secretReference := some keyVersionTwo
  predecessorId := some generationOne
  createdAt := ⟨1, 0⟩

def sampleStaged : ConsumerBinding :=
  Generations.stagedBinding sampleTarget.id "projects/demo/secrets/key/versions/2" sampleBinding

def sampleProbe (id : Identifier) (kind : ProbeKind) (connection : Identifier) (h : kind = .secret ∨ kind = .runtime) :
    ProbeDefinition where
  id := id
  organisationId := sampleCredential.organisationId
  kind := kind
  connectionId := connection
  target := ⟨"target", by decide⟩
  generationBinding := .target
  accepted := by
    rcases h with rfl | rfl <;> rfl

private theorem sampleProbe_identity (definition : ProbeDefinition) :
    definition.id = definition.id ∧ definition.organisationId = definition.organisationId :=
  ⟨rfl, rfl⟩

def sampleProbeVersion (definition : ProbeDefinition) : ProbeVersion where
  id := definition.id
  organisationId := definition.organisationId
  probeId := probeOne
  number := 1
  definition := definition
  digest := Hashing.sample.digest (probePayload definition.toProbeFields)
  state := .active
  createdBy := operatorOne
  createdAt := ⟨0, 0⟩
  approval := some (operatorOne, ⟨0, 0⟩)
  identity := sampleProbe_identity definition
  approved := fun _ => Option.some_ne_none _

def secretProbe : ProbeDefinition :=
  sampleProbe ⟨"probe-secret", by decide⟩ .secret sampleSecretStore.id (.inl rfl)

def runtimeProbe : ProbeDefinition :=
  sampleProbe ⟨"probe-runtime", by decide⟩ .runtime sampleRuntime.id (.inr rfl)

def sampleRolloutDefinition : ControlDefinition where
  requiredChecks := requiredChecks
  allowedTools := {"verification.run", "runtime.shiftTraffic"}
  allowedRecoveryModes := {.rollback}
  maximumObservationSeconds := 3600
  requireRevokeApproval := true
  requireGenerationTelemetry := false
  probeVersions
    | .verify => some [secretProbe.id, runtimeProbe.id]
    | _ => none
  accepted := by decide

def sampleRolloutControls : ControlVersion where
  id := sampleCredential.controlVersion
  organisationId := sampleCredential.organisationId
  credentialId := sampleCredential.id
  number := 1
  definition := sampleRolloutDefinition
  digest := Hashing.sample.digest (definitionPayload sampleRolloutDefinition.toControlFields)
  createdBy := operatorOne
  createdAt := ⟨0, 0⟩

def samplePlan : RotationPlan where
  id := ⟨"plan-1", by decide⟩
  organisationId := sampleCredential.organisationId
  runId := RotationRun.sample.id
  credentialId := sampleCredential.id
  controlVersion := sampleCredential.controlVersion
  strategy := .parallel
  targetScopes := ∅
  consumerIds := sampleCredential.consumerIds
  rollout := [100]
  observationSeconds := 300
  recoveryIds
    | .rollout => some ⟨"recovery-1", by decide⟩
    | _ => none
  consumers_nonempty := by decide
  observation_bounds := by decide
  recovery_nonempty := ⟨.rollout, by decide⟩
  increasing := by decide
  ends_at_hundred := by decide
  within_bounds := by decide

def sampleDeployment : RuntimeDeployment where
  bindingId := sampleBinding.id
  connectionId := sampleRuntime.id
  service := sampleBinding.runtimeResource
  candidateRevision := ⟨"api-2", by decide⟩
  rollbackRevision := ⟨"api-1", by decide⟩

def sampleDeployed (stage : Stage) (revision : Nat) : RotationRun where
  toRunFields :=
    { RotationRun.sample.toRunFields with
      stage := stage
      status := .running
      lease := some { ownerId := workerOne, fencingToken := 1, expiresAt := ⟨100, 0⟩, token_pos := Nat.one_pos }
      fencingToken := 1
      planId := some samplePlan.id
      planHash := some (Hashing.sample.digest (planPayload samplePlan))
      currentGenerationId := some generationOne
      targetGenerationId := some sampleTarget.id
      deployments := [sampleDeployment]
      revision := revision }
  accepted := rfl

def sampleCatalog : Catalog where
  toInventoryStore :=
    { sampleImported .active with
      generations := (sampleImported .active).generations.set (sampleTarget.organisationId, sampleTarget.id) sampleTarget
      bindings := (sampleImported .active).bindings.set (sampleBinding.organisationId, sampleBinding.id) sampleStaged
      controls := (sampleImported .active).controls.set
        (sampleRolloutControls.organisationId, sampleRolloutControls.credentialId, sampleRolloutControls.id)
        sampleRolloutControls
      probes := ((sampleImported .active).probes.set (secretProbe.organisationId, secretProbe.id)
        (sampleProbeVersion secretProbe)).set (runtimeProbe.organisationId, runtimeProbe.id)
        (sampleProbeVersion runtimeProbe) }
  plans := Collection.empty.set (samplePlan.organisationId, samplePlan.id) samplePlan
  recoveries := Collection.empty
  recoveryResults := Collection.empty
  playbooks := Collection.empty
  approvals := Collection.empty
  actions := Collection.empty

def sampleResult (definition : ProbeDefinition) : ProbeResult where
  probeId := definition.id
  status := .passed
  checks := runtimeChecks ∪ {"secret-version-enabled"}
  evidenceIds := [evidenceOne]
  startedAt := ⟨10, 0⟩
  completedAt := ⟨10, 0⟩
  checks_nonempty := by decide
  evidence_nonempty := evidenceOne_cited
  explained := passed_explains

def Peers.sample : Peers where
  clock _ := ⟨10, 0⟩
  queryBindings c o credential :=
    ((c (o, sampleBinding.id)).toList).filter (·.credentialId = credential)
  queryReports _ _ _ _ := []
  queryApprovals _ _ _ := []
  executeProbe _ probe _ _ _ := .ok (sampleResult probe.definition)
  broker _ request _ := .ok { requestId := request.id, succeeded := true, evidenceIds := [evidenceTwo] }
  agents _ := .ok { succeeded := true }
  readDecision _ := none
  browser _ _ _ _ _ := .ok []

end Uumi.Coordinator
