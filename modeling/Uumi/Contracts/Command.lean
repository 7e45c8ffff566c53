import Uumi.Contracts.Run

/-! The commands that create and change rotation runs. -/
namespace Uumi.Contracts

structure StageBindings where
  browserPlaybookVersion : Option Identifier := none
  planId : Option Identifier := none
  planHash : Option Digest := none
  currentGenerationId : Option Identifier := none
  targetGenerationId : Option Identifier := none
  deployments : List RuntimeDeployment := []
  deriving DecidableEq

structure CreateRunCommand where
  id : Identifier
  organisationId : Identifier
  credentialId : Identifier
  controlVersion : Identifier
  trigger : Trigger
  runId : Option Identifier := none
  deriving DecidableEq

def CreateRunCommand.operation (_ : CreateRunCommand) : String := "create"

/-- The fields that every command on an existing run carries. -/
@[ext]
structure CommandBase where
  id : Identifier
  organisationId : Identifier
  runId : Identifier
  actorId : Identifier
  expectedRevision : Nat
  deriving DecidableEq

structure StartRunCommand extends CommandBase where
  ownerId : Identifier
  expiresAt : AwareDatetime
  deriving DecidableEq

structure RenewLeaseCommand extends CommandBase where
  ownerId : Identifier
  expiresAt : AwareDatetime
  fencingToken : Nat
  deriving DecidableEq

structure CompleteStageCommand extends CommandBase where
  fencingToken : Nat
  proof : StageProof
  bindings : StageBindings := {}
  deriving DecidableEq

structure PauseRunCommand extends CommandBase where
  fencingToken : Nat
  deriving DecidableEq

structure ResumeRunCommand extends CommandBase where
  ownerId : Identifier
  expiresAt : AwareDatetime
  deriving DecidableEq

structure FailRunCommand extends CommandBase where
  fencingToken : Nat
  failure : Failure
  deriving DecidableEq

structure CancelRunCommand extends CommandBase where
  deriving DecidableEq

structure CleanupRunCommand extends CommandBase where
  fencingToken : Nat
  failure : Failure
  deriving DecidableEq

structure RecoverRunCommand extends CommandBase where
  ownerId : Identifier
  expiresAt : AwareDatetime
  deriving DecidableEq

structure CompleteRecoveryCommand extends CommandBase where
  fencingToken : Nat
  recoveryId : Identifier
  mode : RecoveryMode
  evidenceIds : List Identifier
  deriving DecidableEq

/-- A command on an existing run, one constructor for each subclass of the command contract. -/
inductive RunCommand where
  | start (command : StartRunCommand)
  | renew (command : RenewLeaseCommand)
  | complete (command : CompleteStageCommand)
  | pause (command : PauseRunCommand)
  | resume (command : ResumeRunCommand)
  | fail (command : FailRunCommand)
  | cancel (command : CancelRunCommand)
  | cleanup (command : CleanupRunCommand)
  | recover (command : RecoverRunCommand)
  | completeRecovery (command : CompleteRecoveryCommand)
  deriving DecidableEq

namespace RunCommand

def base : RunCommand → CommandBase
  | start c => c.toCommandBase
  | renew c => c.toCommandBase
  | complete c => c.toCommandBase
  | pause c => c.toCommandBase
  | resume c => c.toCommandBase
  | fail c => c.toCommandBase
  | cancel c => c.toCommandBase
  | cleanup c => c.toCommandBase
  | recover c => c.toCommandBase
  | completeRecovery c => c.toCommandBase

def operation : RunCommand → String
  | start _ => "start"
  | renew _ => "renew"
  | complete _ => "complete-stage"
  | pause _ => "pause"
  | resume _ => "resume"
  | fail _ => "fail"
  | cancel _ => "cancel"
  | cleanup _ => "cleanup"
  | recover _ => "recover"
  | completeRecovery _ => "complete-recovery"

def id (c : RunCommand) : Identifier := c.base.id
def organisationId (c : RunCommand) : Identifier := c.base.organisationId
def runId (c : RunCommand) : Identifier := c.base.runId
def actorId (c : RunCommand) : Identifier := c.base.actorId
def expectedRevision (c : RunCommand) : Nat := c.base.expectedRevision

/-- No command on a stored run is a creation. -/
theorem operation_ne_create (c : RunCommand) : c.operation ≠ "create" := by
  cases c <;> simp [operation]

/-- The operation tells a cancellation. -/
theorem operation_cancel {c : RunCommand} (h : c.operation = "cancel") : ∃ command, c = cancel command := by
  cases c with
  | cancel command => exact ⟨command, rfl⟩
  | _ => exact absurd h (by simp [operation])

end RunCommand
end Uumi.Contracts
