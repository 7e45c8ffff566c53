import Uumi.Storage.Runs

/-! The run repository in memory, which the tests of the workflow use in place of the stored one. -/
namespace Uumi.Testkit
open Uumi.Contracts Uumi.Core Uumi.Foundations Uumi.Policy Uumi.Storage

/-- The dictionaries of `MemoryRunRepository`. -/
structure MemoryStore where
  runs : Collection (Identifier × Identifier) RotationRun
  /-- Under organisation, run and command. -/
  steps : Collection (Identifier × Identifier × Identifier) RunStep
  /-- Under organisation and command. -/
  events : Collection (Identifier × Identifier) OutboxEvent
  /-- The run that holds the lock, under organisation and credential. -/
  locks : Collection (Identifier × Identifier) Identifier
  /-- Run, command and request hash, under organisation, source and event id. -/
  dedupe : Collection (Identifier × String × String) (Identifier × Identifier × Digest)

namespace MemoryStore

def empty : MemoryStore :=
  ⟨Collection.empty, Collection.empty, Collection.empty, Collection.empty, Collection.empty⟩

variable (hashing : Hashing) (store : MemoryStore)

def dedupeKey (run : RotationRun) : Identifier × String × String :=
  (run.organisationId, run.trigger.source.value, run.trigger.eventId.value)

def existingCreate (duplicate : Identifier × Identifier × Digest) (organisationId : Identifier) (requestHash : Digest) :
    Except Error MutationResult := do
  let (runId, stepId, storedHash) := duplicate
  raiseIf (storedHash ≠ requestHash)
    (.idempotencyConflict "source event was already bound to another request")
  match store.runs (organisationId, runId), store.steps (organisationId, runId, stepId) with
  | some run, some step => return { run := run, step := step, applied := false }
  | _, _ => .error (.storageIntegrity "deduplicated run is incomplete")

def commitCreate (run : RotationRun) (command : CreateRunCommand) : MemoryStore :=
  { runs := store.runs.set (run.organisationId, run.id) run
    steps := store.steps.set (run.organisationId, run.id, command.id) (createStep hashing run command)
    events := store.events.set (run.organisationId, command.id) (createEvent run command)
    locks := store.locks.set (run.organisationId, run.credentialId) run.id
    dedupe := store.dedupe.set (dedupeKey run) (run.id, command.id, creationHash hashing command) }

def create (run : RotationRun) (command : CreateRunCommand) : Except Error (MutationResult × MemoryStore) := do
  validateCreate run command
  match store.dedupe (dedupeKey run) with
  | some duplicate =>
    let result ← store.existingCreate duplicate run.organisationId (creationHash hashing command)
    return (result, store)
  | none =>
    absent (store.locks (run.organisationId, run.credentialId)) fun lockedRun => .activeRunConflict
      s!"credential {run.credentialId.text} is already owned by run {lockedRun.text}"
    absent (store.runs (run.organisationId, run.id)) fun _ => .idempotencyConflict
      s!"run id {run.id.text} already exists"
    absent (store.events (run.organisationId, command.id)) fun _ => .idempotencyConflict
      s!"command {command.id.text} already belongs to another run"
    return ({ run := run, step := createStep hashing run command, applied := true },
      store.commitCreate hashing run command)

def get (organisationId runId : Identifier) : Except Error RotationRun :=
  required (store.runs (organisationId, runId)) (.runNotFound s!"run {runId.text} was not found")

def replay (command : RunCommand) (step : RunStep) : Except Error MutationResult := do
  raiseIf (step.commandHash ≠ mutationHash hashing command) (.idempotencyConflict
    s!"command {command.id.text} was already used for another mutation")
  let run ← required (store.runs (command.organisationId, command.runId)) (.storageIntegrity
    s!"run {command.runId.text} disappeared after command execution")
  return { run := run, step := step, applied := false }

/-- The lock of the credential names the run. -/
def HoldsLock (organisationId : Identifier) (run : RotationRun) : Prop :=
  store.locks (organisationId, run.credentialId) = some run.id

instance (organisationId : Identifier) (run : RotationRun) : Decidable (store.HoldsLock organisationId run) := by
  unfold HoldsLock
  infer_instance

def commitMutation (run updated : RotationRun) (command : RunCommand) (kind : EventKind)
    (proof : Option StageProof) : MemoryStore :=
  { store with
    runs := store.runs.set (command.organisationId, command.runId) updated
    steps := store.steps.set (command.organisationId, command.runId, command.id)
      (mutateStep hashing run updated command proof)
    events := store.events.set (command.organisationId, command.id) (mutateEvent run updated command kind)
    locks :=
      if store.HoldsLock command.organisationId run ∧ updated.status ∈ releasing then
        store.locks.delete (command.organisationId, run.credentialId)
      else store.locks }

/-- `mutate`. The proof is recorded and not checked. -/
def mutate (command : RunCommand) (kind : EventKind) (transition : Transition) (proof : Option StageProof) :
    Except Error (MutationResult × MemoryStore) := do
  match store.steps (command.organisationId, command.runId, command.id) with
  | some step =>
    let result ← store.replay hashing command step
    return (result, store)
  | none =>
    absent (store.events (command.organisationId, command.id)) fun _ => .idempotencyConflict
      s!"command {command.id.text} already belongs to another run"
    let run ← required (store.runs (command.organisationId, command.runId))
      (.runNotFound s!"run {command.runId.text} was not found")
    raiseIf (run.revision ≠ command.expectedRevision) (.revisionConflict
      s!"expected revision {command.expectedRevision}, found {run.revision}")
    raiseIf (¬ store.HoldsLock command.organisationId run ∧ ¬ (command.operation = "cancel" ∧ run.status = .failed))
      (.storageIntegrity s!"run {run.id.text} does not hold its credential lock")
    let updated ← transition run
    validateTransition run updated command.organisationId
    return ({ run := updated, step := mutateStep hashing run updated command proof, applied := true },
      store.commitMutation hashing run updated command kind proof)

end MemoryStore
end Uumi.Testkit
