import Uumi.Foundations.Executions
import Uumi.Storage.Runs

/-! The run workflow: each command with the event, the transition and the proof it carries into
the repository, and the repository as a service of atomic calls. -/
namespace Uumi.Workflow
open Uumi.Contracts Uumi.Core Uumi.Foundations Uumi.Policy Uumi.State Uumi.Storage

def buildRun (command : CreateRunCommand) (runId : Identifier) (now : AwareDatetime) : RotationRun where
  id := runId
  organisationId := command.organisationId
  credentialId := command.credentialId
  trigger := command.trigger
  controlVersion := command.controlVersion
  createdAt := now
  updatedAt := now
  accepted := rfl

def eventKind : RunCommand → EventKind
  | .start _ => .runStarted
  | .renew _ => .leaseRenewed
  | .complete _ => .stageCompleted
  | .pause _ => .runPaused
  | .resume _ => .runResumed
  | .cleanup _ => .cleanupRequired
  | .fail _ => .runFailed
  | .cancel _ => .runCancelled
  | .recover _ => .recoveryStarted
  | .completeRecovery _ => .recoveryCompleted

def operation (now : AwareDatetime) : RunCommand → Operation
  | .start c => .start c.ownerId c.expectedRevision c.expiresAt now
  | .renew c => .renew c.ownerId c.fencingToken c.expectedRevision c.expiresAt now
  | .complete c => .complete c.proof c.fencingToken c.expectedRevision now c.bindings
  | .pause c => .pause c.fencingToken c.expectedRevision now
  | .resume c => .resume c.ownerId c.expectedRevision c.expiresAt now
  | .cleanup c => .cleanup c.failure c.fencingToken c.expectedRevision now
  | .fail c => .fail c.failure c.fencingToken c.expectedRevision now
  | .cancel c => .cancel c.expectedRevision now
  | .recover c => .recover c.ownerId c.expectedRevision c.expiresAt now
  | .completeRecovery c =>
    .completeRecovery c.recoveryId c.mode c.evidenceIds c.fencingToken c.expectedRevision now

def stageProof : RunCommand → Option StageProof
  | .complete c => some c.proof
  | _ => none

/-- `RunWorkflow.create`; `newId` is what the id factory returns. -/
def createRun (hashing : Hashing) (store : Store) (command : CreateRunCommand) (newId : Identifier)
    (now : AwareDatetime) : Except Error (MutationResult × Store) :=
  create hashing store (buildRun command (command.runId.getD newId) now) command

def mutateRun (hashing : Hashing) (store : Store) (machine : RotationMachine) (now : AwareDatetime)
    (command : RunCommand) : Except Error (MutationResult × Store) :=
  mutate hashing store command (eventKind command) (fun run => machine.perform run (operation now command))
    (stageProof command)

/-- One call on the repository. Callers choose the machine, the clock value and the fresh id. -/
inductive Call where
  | create (command : CreateRunCommand) (newId : Identifier) (now : AwareDatetime)
  | mutate (machine : RotationMachine) (now : AwareDatetime) (command : RunCommand)

def Call.command : Call → CreateRunCommand ⊕ RunCommand
  | .create command _ _ => .inl command
  | .mutate _ _ command => .inr command

def Call.key : Call → Identifier × Identifier
  | .create command _ _ => (command.organisationId, command.id)
  | .mutate _ _ command => (command.organisationId, command.id)

def repository (hashing : Hashing) : Service Store Call MutationResult Error where
  perform store
    | .create command newId now => createRun hashing store command newId now
    | .mutate machine now command => mutateRun hashing store machine now command

/-- A repository without runs; control versions are written by another service. -/
def Initial (store : Store) : Prop :=
  store.runs = Collection.empty ∧ store.steps = Collection.empty ∧ store.outbox = Collection.empty ∧
  store.locks = Collection.empty ∧ store.dedupe = Collection.empty

def sampleControls : ControlVersion where
  id := RotationRun.sample.controlVersion
  organisationId := RotationRun.sample.organisationId
  credentialId := RotationRun.sample.credentialId
  number := 1
  definition := ControlDefinition.sample
  digest := Hashing.sample.digest (definitionPayload ControlDefinition.sample.toControlFields)
  createdBy := RotationRun.sample.trigger.actorId
  createdAt := RotationRun.sample.createdAt

def sampleStore : Store where
  runs := Collection.empty
  steps := Collection.empty
  outbox := Collection.empty
  locks := Collection.empty
  dedupe := Collection.empty
  controls := Collection.empty.set
    (sampleControls.organisationId, sampleControls.credentialId, sampleControls.id) sampleControls

def sampleCommand : CreateRunCommand where
  id := commandOne
  organisationId := RotationRun.sample.organisationId
  credentialId := RotationRun.sample.credentialId
  controlVersion := RotationRun.sample.controlVersion
  trigger := RotationRun.sample.trigger

def sampleCreated : Store := sampleStore.commitCreate Hashing.sample RotationRun.sample sampleCommand

end Uumi.Workflow
