import Mathlib
import Uumi.Contracts.Command
import Uumi.Policy.Rules

/-! The rotation state machine: ten operations on one run, each guarded and each building the
updated run through the model validator. -/
namespace Uumi.State
open Uumi.Contracts Uumi.Core Uumi.Foundations Uumi.Policy

structure RotationMachine where
  policy : GatePolicy := {}
  validatePolicy : Bool := true

namespace RotationMachine

def checkRevision (run : RotationRun) (expected : Nat) : Except Error Unit :=
  raiseIf (run.revision ≠ expected)
    (.revisionConflict s!"expected revision {expected}, found {run.revision}")

def control (run : RotationRun) (fencingToken expectedRevision : Nat) (now : AwareDatetime) :
    Except Error Unit := do
  checkRevision run expectedRevision
  let lease ← required run.lease (.leaseConflict "run has no active lease")
  raiseIf (lease.fencingToken ≠ fencingToken) (.leaseConflict "stale fencing token")
  raiseIf (lease.expiresAt ≤ now) (.leaseConflict "lease has expired")

def interruptControl (run : RotationRun) (fencingToken expectedRevision : Nat) (now : AwareDatetime) :
    Except Error Unit := do
  checkRevision run expectedRevision
  let lease ← required run.lease (.leaseConflict "run has no active lease")
  raiseIf (¬ lease.expiresAt ≤ now ∧ lease.fencingToken ≠ fencingToken)
    (.leaseConflict "stale fencing token")

def future (expiresAt now : AwareDatetime) : Except Error Unit :=
  raiseIf (expiresAt ≤ now) (.leaseConflict "lease expiry must be in the future")

def unowned (run : RotationRun) (ownerId : Identifier) (now : AwareDatetime) : Except Error Unit :=
  raiseIf (∃ lease ∈ run.lease, now < lease.expiresAt ∧ lease.ownerId ≠ ownerId)
    (.leaseConflict "an active lease belongs to another worker")

/-- `_update`: change some fields, stamp the time, bump the revision, validate. -/
def update (run : RotationRun) (now : AwareDatetime) (changes : RunFields → RunFields) :
    Except Error RotationRun :=
  RotationRun.modelValidate { changes run.toRunFields with updatedAt := now, revision := run.revision + 1 }

def checkPolicy (machine : RotationMachine) (proof : StageProof) : Except Error Unit :=
  if machine.validatePolicy then machine.policy.validate proof else .ok ()

def nextLease (run : RotationRun) (ownerId : Identifier) (expiresAt : AwareDatetime) : Lease where
  ownerId := ownerId
  fencingToken := run.fencingToken + 1
  expiresAt := expiresAt
  token_pos := Nat.succ_pos _

def boundNames (bindings : StageBindings) : Finset String :=
  (if bindings.browserPlaybookVersion.isSome then {"browser_playbook_version"} else ∅) ∪
  (if bindings.planId.isSome then {"plan_id"} else ∅) ∪
  (if bindings.planHash.isSome then {"plan_hash"} else ∅) ∪
  (if bindings.currentGenerationId.isSome then {"current_generation_id"} else ∅) ∪
  (if bindings.targetGenerationId.isSome then {"target_generation_id"} else ∅) ∪
  (if bindings.deployments ≠ [] then {"deployments"} else ∅)

def allowed : Stage → Finset String
  | .preflight => {"browser_playbook_version", "current_generation_id"}
  | .plan => {"plan_id", "plan_hash"}
  | .create => {"target_generation_id"}
  | .deploy => {"deployments"}
  | _ => ∅

/-- A binding that is already set to something else. Stored deployments are models and bound
ones are plain mappings, so a second binding of them always differs. -/
def Rebinds (run : RotationRun) (bindings : StageBindings) : Prop :=
  (bindings.browserPlaybookVersion.isSome ∧ run.browserPlaybookVersion.isSome ∧
    run.browserPlaybookVersion ≠ bindings.browserPlaybookVersion) ∨
  (bindings.planId.isSome ∧ run.planId.isSome ∧ run.planId ≠ bindings.planId) ∨
  (bindings.planHash.isSome ∧ run.planHash.isSome ∧ run.planHash ≠ bindings.planHash) ∨
  (bindings.currentGenerationId.isSome ∧ run.currentGenerationId.isSome ∧
    run.currentGenerationId ≠ bindings.currentGenerationId) ∨
  (bindings.targetGenerationId.isSome ∧ run.targetGenerationId.isSome ∧
    run.targetGenerationId ≠ bindings.targetGenerationId) ∨
  (bindings.deployments ≠ [] ∧ run.deployments ≠ [])

instance (run : RotationRun) (bindings : StageBindings) : Decidable (Rebinds run bindings) := by
  unfold Rebinds
  infer_instance

def checkBindings (run : RotationRun) (bindings : StageBindings) : Except Error Unit := do
  let values := boundNames bindings
  let unexpected := values \ allowed run.stage
  raiseIf (unexpected ≠ ∅) (.transitionRejected
    (s!"stage {run.stage.value} cannot bind run fields: " ++ String.intercalate ", " (unexpected.sort (· ≤ ·))))
  raiseIf (run.stage = .preflight ∧ "current_generation_id" ∉ values)
    (.transitionRejected "preflight must bind the current generation")
  raiseIf (run.stage = .plan ∧ values ≠ allowed .plan)
    (.transitionRejected "plan stage must bind plan identity and digest")
  raiseIf (run.stage = .create ∧ values ≠ allowed .create)
    (.transitionRejected "create stage must bind the target generation")
  raiseIf (run.stage = .deploy ∧ values ≠ allowed .deploy)
    (.transitionRejected "deploy stage must bind runtime deployment identities")
  raiseIf (Rebinds run bindings)
    (.transitionRejected "run bindings cannot change after they are set")

def bind (bindings : StageBindings) (run : RunFields) : RunFields :=
  { run with
    browserPlaybookVersion := bindings.browserPlaybookVersion <|> run.browserPlaybookVersion
    planId := bindings.planId <|> run.planId
    planHash := bindings.planHash <|> run.planHash
    currentGenerationId := bindings.currentGenerationId <|> run.currentGenerationId
    targetGenerationId := bindings.targetGenerationId <|> run.targetGenerationId
    deployments := if bindings.deployments = [] then run.deployments else bindings.deployments }

/-- Leave a stage: the last one completes the run, every other one hands over to its successor. -/
def advance (stage : Stage) (run : RunFields) : RunFields :=
  match stage.next? with
  | none => { run with status := .completed, lease := none }
  | some next => { run with stage := next, status := .running }

def clearRecovery (run : RunFields) : RunFields :=
  { run with
    recoveryId := none
    recoveryStage := none
    recoveryMode := none
    recoveryFailure := none
    recoveryEvidenceIds := [] }

def start (run : RotationRun) (ownerId : Identifier) (expectedRevision : Nat)
    (expiresAt now : AwareDatetime) : Except Error RotationRun := do
  checkRevision run expectedRevision
  raiseIf (run.status ≠ .pending) (.transitionRejected "only a pending run can start")
  future expiresAt now
  update run now fun r =>
    { r with
      status := .running
      lease := some (nextLease run ownerId expiresAt)
      fencingToken := run.fencingToken + 1 }

def renew (run : RotationRun) (ownerId : Identifier) (fencingToken expectedRevision : Nat)
    (expiresAt now : AwareDatetime) : Except Error RotationRun := do
  control run fencingToken expectedRevision now
  let lease ← required run.lease (.leaseConflict "only the lease owner can renew it")
  raiseIf (lease.ownerId ≠ ownerId) (.leaseConflict "only the lease owner can renew it")
  future expiresAt now
  update run now fun r => { r with lease := some { lease with expiresAt := expiresAt } }

def complete (machine : RotationMachine) (run : RotationRun) (proof : StageProof)
    (fencingToken expectedRevision : Nat) (now : AwareDatetime) (bindings : StageBindings) :
    Except Error RotationRun := do
  control run fencingToken expectedRevision now
  raiseIf (run.status ≠ .running) (.transitionRejected "only normally running work can advance")
  raiseIf (proof.runId ≠ run.id ∨ proof.organisationId ≠ run.organisationId)
    (.transitionRejected "proof belongs to a different run")
  raiseIf (proof.stage ≠ run.stage) (.transitionRejected "proof does not match the current stage")
  machine.checkPolicy proof
  checkBindings run bindings
  update run now fun r => advance run.stage (bind bindings r)

def pause (run : RotationRun) (fencingToken expectedRevision : Nat) (now : AwareDatetime) :
    Except Error RotationRun := do
  control run fencingToken expectedRevision now
  raiseIf (run.status ∉ [.running, .recovering]) (.transitionRejected "only active work can pause")
  update run now fun r => { r with status := .paused }

def resume (run : RotationRun) (ownerId : Identifier) (expectedRevision : Nat)
    (expiresAt now : AwareDatetime) : Except Error RotationRun := do
  checkRevision run expectedRevision
  raiseIf (run.status ≠ .paused) (.transitionRejected "only a paused run can resume")
  unowned run ownerId now
  future expiresAt now
  update run now fun r =>
    { r with
      status := .running
      lease := some (nextLease run ownerId expiresAt)
      fencingToken := run.fencingToken + 1 }

def cleanup (run : RotationRun) (failure : Failure) (fencingToken expectedRevision : Nat)
    (now : AwareDatetime) : Except Error RotationRun := do
  interruptControl run fencingToken expectedRevision now
  raiseIf (run.status ∉ [.running, .recovering, .paused])
    (.transitionRejected "terminal work cannot enter cleanup")
  update run now fun r => { r with status := .cleanup, failure := some failure }

def fail (run : RotationRun) (failure : Failure) (fencingToken expectedRevision : Nat)
    (now : AwareDatetime) : Except Error RotationRun := do
  raiseIf (run.status ∈ [.completed, .failed, .compensated])
    (.transitionRejected "terminal work cannot fail again")
  interruptControl run fencingToken expectedRevision now
  update run now fun r =>
    { (if run.status = .recovering then clearRecovery r else r) with
      status := .failed
      failure := some failure
      lease := none }

def cancel (run : RotationRun) (expectedRevision : Nat) (now : AwareDatetime) :
    Except Error RotationRun := do
  checkRevision run expectedRevision
  raiseIf (run.status ∈ [.cancelled, .completed, .compensated])
    (.transitionRejected "terminal work cannot be cancelled")
  update run now fun r =>
    { clearRecovery r with
      status := .cancelled
      lease := none
      fencingToken := run.fencingToken + 1
      failure := none }

def recover (run : RotationRun) (ownerId : Identifier) (expectedRevision : Nat)
    (expiresAt now : AwareDatetime) : Except Error RotationRun := do
  checkRevision run expectedRevision
  raiseIf (run.status ∉ [.failed, .cleanup]) (.transitionRejected "only interrupted work can recover")
  unowned run ownerId now
  future expiresAt now
  update run now fun r =>
    { r with
      status := .recovering
      failure := none
      recoveryStage := some run.stage
      recoveryFailure := run.failure
      lease := some (nextLease run ownerId expiresAt)
      fencingToken := run.fencingToken + 1 }

def completeRecovery (run : RotationRun) (recoveryId : Identifier) (mode : RecoveryMode)
    (evidenceIds : List Identifier) (fencingToken expectedRevision : Nat) (now : AwareDatetime) :
    Except Error RotationRun := do
  control run fencingToken expectedRevision now
  raiseIf (run.status ≠ .recovering ∨ run.recoveryStage ≠ some run.stage)
    (.transitionRejected "only an active bound recovery can complete")
  raiseIf (evidenceIds = []) (.transitionRejected "recovery completion requires evidence")
  if mode = .retry then
    raiseIf (¬ ∃ failure ∈ run.recoveryFailure, failure.retryable = true)
      (.transitionRejected "a non-retryable failure cannot re-enter its stage")
    update run now fun r => { clearRecovery r with status := .running }
  else
    update run now fun r =>
      { r with
        status := .compensated
        lease := none
        recoveryId := some recoveryId
        recoveryMode := some mode
        recoveryEvidenceIds := evidenceIds }

end RotationMachine

/-- An operation with all its arguments, the clock value included. -/
inductive Operation where
  | start (ownerId : Identifier) (expectedRevision : Nat) (expiresAt now : AwareDatetime)
  | renew (ownerId : Identifier) (fencingToken expectedRevision : Nat) (expiresAt now : AwareDatetime)
  | complete (proof : StageProof) (fencingToken expectedRevision : Nat) (now : AwareDatetime)
      (bindings : StageBindings)
  | pause (fencingToken expectedRevision : Nat) (now : AwareDatetime)
  | resume (ownerId : Identifier) (expectedRevision : Nat) (expiresAt now : AwareDatetime)
  | cleanup (failure : Failure) (fencingToken expectedRevision : Nat) (now : AwareDatetime)
  | fail (failure : Failure) (fencingToken expectedRevision : Nat) (now : AwareDatetime)
  | cancel (expectedRevision : Nat) (now : AwareDatetime)
  | recover (ownerId : Identifier) (expectedRevision : Nat) (expiresAt now : AwareDatetime)
  | completeRecovery (recoveryId : Identifier) (mode : RecoveryMode) (evidenceIds : List Identifier)
      (fencingToken expectedRevision : Nat) (now : AwareDatetime)

def RotationMachine.perform (machine : RotationMachine) (run : RotationRun) :
    Operation → Except Error RotationRun
  | .start owner revision expires now => start run owner revision expires now
  | .renew owner token revision expires now => renew run owner token revision expires now
  | .complete proof token revision now bindings => machine.complete run proof token revision now bindings
  | .pause token revision now => pause run token revision now
  | .resume owner revision expires now => resume run owner revision expires now
  | .cleanup failure token revision now => cleanup run failure token revision now
  | .fail failure token revision now => fail run failure token revision now
  | .cancel revision now => cancel run revision now
  | .recover owner revision expires now => recover run owner revision expires now
  | .completeRecovery id mode evidence token revision now =>
    completeRecovery run id mode evidence token revision now

end Uumi.State
