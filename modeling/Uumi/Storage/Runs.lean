import Uumi.Foundations.Documents
import Uumi.Storage.Repository

/-! The run repository: one transaction that creates a run and one that mutates it, over the
documents of all organisations. -/
namespace Uumi.Storage
open Uumi.Contracts Uumi.Core Uumi.Foundations Uumi.Policy

structure LockDocument where
  organisationId : Identifier
  credentialId : Identifier
  runId : Identifier
  createdAt : AwareDatetime
  deriving DecidableEq

structure DedupeDocument where
  organisationId : Identifier
  runId : Identifier
  stepId : Identifier
  requestHash : Digest
  createdAt : AwareDatetime
  deriving DecidableEq

/-- The document families that the repository reads and writes, keyed by the variable segments
of their paths, the organisation first. -/
structure Store where
  runs : Collection (Identifier × Identifier) RotationRun
  /-- Under organisation, run and command. -/
  steps : Collection (Identifier × Identifier × Identifier) RunStep
  /-- Under organisation and command. -/
  outbox : Collection (Identifier × Identifier) OutboxEvent
  /-- Under organisation and credential. -/
  locks : Collection (Identifier × Identifier) LockDocument
  /-- Under organisation and the hash of source and event id. -/
  dedupe : Collection (Identifier × Digest) DedupeDocument
  /-- Under organisation, credential and version. -/
  controls : Collection (Identifier × Identifier × Identifier) ControlVersion

def dedupeSegment (hashing : Hashing) (source eventId : String) : Digest :=
  hashing.sha256 (source ++ "\x00" ++ eventId)

def tenant (run : RotationRun) (organisationId : Identifier) : Except Error Unit :=
  raiseIf (run.organisationId ≠ organisationId)
    (.storageIntegrity "run organisation does not match its document path")

def pinnedControls (hashing : Hashing) (store : Store) (run : RotationRun) (missing mutable : String) :
    Except Error ControlVersion := do
  let controls ← required (store.controls (run.organisationId, run.credentialId, run.controlVersion))
    (.storageIntegrity missing)
  raiseIf (controls.organisationId ≠ run.organisationId ∨ controls.credentialId ≠ run.credentialId ∨
      controls.id ≠ run.controlVersion ∨
      controls.digest ≠ hashing.digest (definitionPayload controls.definition.toControlFields))
    (.storageIntegrity mutable)
  return controls

def existingCreate (store : Store) (dedupe : DedupeDocument) (organisationId : Identifier)
    (requestHash : Digest) : Except Error MutationResult := do
  raiseIf (dedupe.requestHash ≠ requestHash)
    (.idempotencyConflict "source event was already bound to another request")
  let run ← required (store.runs (organisationId, dedupe.runId))
    (.storageIntegrity "deduplicated run is incomplete")
  let step ← required (store.steps (organisationId, dedupe.runId, dedupe.stepId))
    (.storageIntegrity "deduplicated run is incomplete")
  tenant run organisationId
  return { run := run, step := step, applied := false }

def createStep (hashing : Hashing) (run : RotationRun) (command : CreateRunCommand) : RunStep where
  id := command.id
  organisationId := run.organisationId
  runId := run.id
  operation := command.operation
  commandHash := creationHash hashing command
  actorId := command.trigger.actorId
  beforeStage := none
  afterStage := run.stage
  beforeStatus := none
  afterStatus := run.status
  revision := run.revision
  proof := none
  recordedAt := run.createdAt

def createEvent (run : RotationRun) (command : CreateRunCommand) : OutboxEvent :=
  buildOutbox command.id run .runCreated command.trigger.actorId run.createdAt
    [("source", .text run.trigger.source.value), ("urgency", .text run.trigger.urgency.value)]

def Store.commitCreate (hashing : Hashing) (store : Store) (run : RotationRun)
    (command : CreateRunCommand) : Store :=
  { store with
    runs := store.runs.set (run.organisationId, run.id) run
    steps := store.steps.set (run.organisationId, run.id, command.id) (createStep hashing run command)
    outbox := store.outbox.set (run.organisationId, command.id) (createEvent run command)
    locks := store.locks.set (run.organisationId, run.credentialId)
      { organisationId := run.organisationId, credentialId := run.credentialId, runId := run.id,
        createdAt := run.createdAt }
    dedupe := store.dedupe.set
      (run.organisationId, dedupeSegment hashing run.trigger.source.value run.trigger.eventId.value)
      { organisationId := run.organisationId, runId := run.id, stepId := command.id,
        requestHash := creationHash hashing command, createdAt := run.createdAt } }

def create (hashing : Hashing) (store : Store) (run : RotationRun) (command : CreateRunCommand) :
    Except Error (MutationResult × Store) := do
  validateCreate run command
  match store.dedupe
      (run.organisationId, dedupeSegment hashing run.trigger.source.value run.trigger.eventId.value) with
  | some dedupe =>
    let result ← existingCreate store dedupe run.organisationId (creationHash hashing command)
    return (result, store)
  | none =>
    absent (store.locks (run.organisationId, run.credentialId)) fun lock => .activeRunConflict
      s!"credential {run.credentialId.text} is already owned by run {lock.runId.text}"
    absent (store.runs (run.organisationId, run.id)) fun _ => .idempotencyConflict
      s!"run id {run.id.text} already exists"
    absent (store.outbox (run.organisationId, command.id)) fun _ => .idempotencyConflict
      s!"command {command.id.text} already belongs to another run"
    let _ ← pinnedControls hashing store run "run control version is missing"
      "run control version is not immutable"
    return ({ run := run, step := createStep hashing run command, applied := true },
      store.commitCreate hashing run command)

def mutateStep (hashing : Hashing) (run updated : RotationRun) (command : RunCommand)
    (proof : Option StageProof) : RunStep where
  id := command.id
  organisationId := command.organisationId
  runId := run.id
  operation := command.operation
  commandHash := mutationHash hashing command
  actorId := command.actorId
  beforeStage := some run.stage
  afterStage := updated.stage
  beforeStatus := some run.status
  afterStatus := updated.status
  revision := updated.revision
  proof := proof
  recordedAt := updated.updatedAt

def mutateEvent (run updated : RotationRun) (command : RunCommand) (kind : EventKind) : OutboxEvent :=
  buildOutbox command.id updated (resolvedEvent kind updated) command.actorId updated.updatedAt
    [("operation", .text command.operation), ("previous_revision", .number run.revision)]

/-- The lock of the credential exists and names the run. -/
def HoldsLock (store : Store) (organisationId : Identifier) (run : RotationRun) : Prop :=
  ∃ lock ∈ store.locks (organisationId, run.credentialId), lock.runId = run.id

instance (store : Store) (organisationId : Identifier) (run : RotationRun) :
    Decidable (HoldsLock store organisationId run) := by
  unfold HoldsLock
  infer_instance

def releasing : List RunStatus := [.cancelled, .completed, .compensated, .failed]

def Store.commitMutation (hashing : Hashing) (store : Store) (run updated : RotationRun)
    (command : RunCommand) (kind : EventKind) (proof : Option StageProof) : Store :=
  { store with
    runs := store.runs.set (command.organisationId, command.runId) updated
    steps := store.steps.set (command.organisationId, command.runId, command.id)
      (mutateStep hashing run updated command proof)
    outbox := store.outbox.set (command.organisationId, command.id) (mutateEvent run updated command kind)
    locks :=
      if HoldsLock store command.organisationId run ∧ updated.status ∈ releasing then
        store.locks.delete (command.organisationId, run.credentialId)
      else store.locks }

def replay (hashing : Hashing) (store : Store) (command : RunCommand) (step : RunStep) :
    Except Error MutationResult := do
  raiseIf (step.commandHash ≠ mutationHash hashing command) (.idempotencyConflict
    s!"command {command.id.text} was already used for another mutation")
  let run ← required (store.runs (command.organisationId, command.runId)) (.storageIntegrity
    s!"run {command.runId.text} disappeared after command execution")
  tenant run command.organisationId
  return { run := run, step := step, applied := false }

/-- The gate that the repository applies to a proof, from the controls that the run pins. -/
def checkProof (hashing : Hashing) (store : Store) (run : RotationRun) :
    Option StageProof → Except Error Unit
  | none => .ok ()
  | some proof => do
    let controls ← pinnedControls hashing store run "run control version disappeared"
      "run control version lost immutable authority"
    GatePolicy.validate { required := controls.definition.requiredChecks } proof

def mutate (hashing : Hashing) (store : Store) (command : RunCommand) (kind : EventKind)
    (transition : Transition) (proof : Option StageProof) : Except Error (MutationResult × Store) := do
  match store.steps (command.organisationId, command.runId, command.id) with
  | some step =>
    let result ← replay hashing store command step
    return (result, store)
  | none =>
    absent (store.outbox (command.organisationId, command.id)) fun _ => .idempotencyConflict
      s!"command {command.id.text} already belongs to another run"
    let run ← required (store.runs (command.organisationId, command.runId))
      (.runNotFound s!"run {command.runId.text} was not found")
    tenant run command.organisationId
    raiseIf (run.revision ≠ command.expectedRevision) (.revisionConflict
      s!"expected revision {command.expectedRevision}, found {run.revision}")
    raiseIf (¬ HoldsLock store command.organisationId run ∧
        ¬ (command.operation = "cancel" ∧ run.status = .failed))
      (.storageIntegrity s!"run {run.id.text} does not hold its credential lock")
    checkProof hashing store run proof
    let updated ← transition run
    validateTransition run updated command.organisationId
    return ({ run := updated, step := mutateStep hashing run updated command proof, applied := true },
      store.commitMutation hashing run updated command kind proof)

def get (store : Store) (organisationId runId : Identifier) : Except Error RotationRun := do
  let run ← required (store.runs (organisationId, runId))
    (.runNotFound s!"run {runId.text} was not found")
  tenant run organisationId
  return run

end Uumi.Storage
