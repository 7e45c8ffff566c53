import Uumi.Workflow.CredentialLock

/-! Recovering an interrupted run through the repository: the machine recovers failed runs and
runs in cleanup, the repository only those that still hold their lock. -/
namespace Uumi.Workflow
open Uumi.Contracts Uumi.Core Uumi.Foundations Uumi.Policy Uumi.State Uumi.Storage

variable {hashing : Hashing} {s : Store} {machine : RotationMachine} {now : AwareDatetime}
  {command : RecoverRunCommand} {run : RotationRun}

/-- A stored run that the machine agrees to recover, on the only claim to its credential and
under a command id that was never used. -/
structure Recoverable (s : Store) (now : AwareDatetime) (command : RecoverRunCommand)
    (run : RotationRun) : Prop where
  stored : s.runs (command.organisationId, command.runId) = some run
  interrupted : run.status = .failed ∨ run.status = .cleanup
  accepted : ∃ updated, RotationMachine.recover run command.ownerId command.expectedRevision
    command.expiresAt now = .ok updated
  alone : ∀ j other, s.runs (command.organisationId, j) = some other →
    other.credentialId = run.credentialId → other.status ∈ active → j = command.runId
  fresh : s.steps (command.organisationId, command.runId, command.id) = none ∧
    s.outbox (command.organisationId, command.id) = none

/-- The recovery is applied: the run is recovering, holds its lock and has a larger token. -/
def Recovers (hashing : Hashing) (s : Store) (machine : RotationMachine) (now : AwareDatetime)
    (command : RecoverRunCommand) (run : RotationRun) : Prop :=
  ∃ result s' updated lock, mutateRun hashing s machine now (.recover command) = .ok (result, s') ∧
    result.applied = true ∧ s'.runs (command.organisationId, command.runId) = some updated ∧
    updated.status = .recovering ∧
    s'.locks (command.organisationId, run.credentialId) = some lock ∧ lock.runId = command.runId ∧
    run.fencingToken < updated.fencingToken

private theorem recovers_of_cleanup (hp : Placed s) (hl : Locked s) (h : Recoverable s now command run)
    (hc : run.status = .cleanup) : Recovers hashing s machine now command run := by
  obtain ⟨updated, hu⟩ := h.accepted
  obtain ⟨hrev, _, _, _, hfields⟩ := RotationMachine.recover_ok.mp hu
  have hs : Succeeds run.toRunFields updated.toRunFields :=
    RotationMachine.perform_succeeds (show machine.perform run (.recover _ _ _ _) = .ok updated from hu)
  have hstatus : updated.status = .recovering := congrArg RunFields.status hfields
  have htoken : updated.fencingToken = run.fencingToken + 1 := congrArg RunFields.fencingToken hfields
  obtain ⟨lock, hlock, hid⟩ := (hl.lock_iff hp command.organisationId run.credentialId command.runId).mpr
    ⟨run, h.stored, rfl, by rw [hc]; decide⟩
  obtain ⟨horg, hrun⟩ := hp.run h.stored
  have holds : HoldsLock s command.organisationId run := ⟨lock, hlock, hid.trans hrun.symm⟩
  have effect : Mutates hashing s machine now (.recover command) run updated _ _ :=
    { new := h.fresh.1
      unused := h.fresh.2
      found := h.stored
      organisationId := horg
      revision := hrev
      lock := .inl holds
      gate := nofun
      transition_ok := hu
      same_organisation := hs.organisationId.trans horg
      same_run := hs.id
      bumped := hs.revision
      result_eq := rfl
      store_eq := rfl }
  refine ⟨_, _, updated, lock, mutate_ok.mpr (.inl ⟨run, updated, effect⟩), rfl,
    Collection.set_same .., hstatus, ?_, hid, ?_⟩
  · have hkeep : ¬ (HoldsLock s command.organisationId run ∧ updated.status ∈ releasing) := by
      rintro ⟨_, hrel⟩
      rw [hstatus] at hrel
      exact absurd hrel (by decide)
    rw [Mutates.locks effect]
    exact (congrFun (if_neg hkeep) _).trans hlock
  · rw [htoken]
    exact Nat.lt_succ_self _

private theorem not_recovers_of_failed (hp : Placed s) (hl : Locked s) (h : Recoverable s now command run)
    (hf : run.status = .failed) : ¬ Recovers hashing s machine now command run := by
  rintro ⟨result, s', _, _, hm, happ, _⟩
  rcases mutate_ok.mp hm with ⟨run', updated, hm⟩ | hr
  · obtain rfl : run = run' := Option.some.inj (h.stored.symm.trans hm.found)
    rcases hm.lock with hh | ⟨hc, _⟩
    · have owned := hl.demand_of_holds hp h.stored hh
      rw [demand, h.stored, Option.bind_some, demandOf, hf] at owned
      cases owned
    · exact absurd hc (by simp [RunCommand.operation])
  · rw [hr.unapplied] at happ
    cases happ

/-- The repository applies the recovery of an interrupted run exactly when the run is in cleanup. -/
theorem recovers_iff (reachable : (repository hashing).Reachable Initial s)
    (h : Recoverable s now command run) :
    Recovers hashing s machine now command run ↔ run.status = .cleanup := by
  obtain ⟨hp, hl⟩ := reachable_locked reachable
  constructor
  · intro hr
    exact h.interrupted.resolve_left fun hf => not_recovers_of_failed hp hl h hf hr
  · exact recovers_of_cleanup hp hl h

def sampleFailure : Failure where
  code := ⟨"stage-failed", by decide⟩
  message := ⟨"The stage failed.", by decide⟩
  retryable := true
  evidenceIds := []

def sampleFailed : RotationRun where
  toRunFields :=
    { sampleRunning.toRunFields with
      status := .failed
      lease := none
      failure := some sampleFailure
      updatedAt := ⟨2, 0⟩
      revision := 2 }
  accepted := by decide

def sampleCleanup : RotationRun where
  toRunFields :=
    { sampleRunning.toRunFields with
      status := .cleanup
      failure := some sampleFailure
      updatedAt := ⟨2, 0⟩
      revision := 2 }
  accepted := by decide

def sampleFail : RunCommand := .fail
  { sampleBase commandThree 1 with fencingToken := 1, failure := sampleFailure }

def sampleClean : RunCommand := .cleanup
  { sampleBase commandThree 1 with fencingToken := 1, failure := sampleFailure }

def sampleRecover : RecoverRunCommand :=
  { sampleBase commandFour 2 with ownerId := workerOne, expiresAt := ⟨200, 0⟩ }

def sampleGaveUp : Store := sampleMutated sampleStarted sampleRunning sampleFailed sampleFail

def sampleCleaning : Store := sampleMutated sampleStarted sampleRunning sampleCleanup sampleClean

private theorem sampleRunning_interrupts : RotationMachine.Interrupts sampleRunning 1 1 ⟨2, 0⟩ :=
  ⟨rfl, _, rfl, fun _ => rfl⟩

private theorem sampleGaveUp_reachable : (repository Hashing.sample).Reachable Initial sampleGaveUp :=
  sampleMutated_reachable sampleStarted_reachable
    { new := by decide
      unused := by decide
      found := rfl
      organisationId := rfl
      revision := rfl
      lock := .inl ⟨_, rfl, rfl⟩
      gate := nofun
      transition_ok := RotationMachine.fail_ok.mpr ⟨by decide, sampleRunning_interrupts, rfl⟩
      same_organisation := rfl
      same_run := rfl
      bumped := rfl
      result_eq := rfl
      store_eq := rfl }

/-- The store in which the run is cleaned up is reachable. -/
theorem sampleCleaning_reachable : (repository Hashing.sample).Reachable Initial sampleCleaning :=
  sampleMutated_reachable sampleStarted_reachable
    { new := by decide
      unused := by decide
      found := rfl
      organisationId := rfl
      revision := rfl
      lock := .inl ⟨_, rfl, rfl⟩
      gate := nofun
      transition_ok := RotationMachine.cleanup_ok.mpr ⟨sampleRunning_interrupts, by decide, rfl⟩
      same_organisation := rfl
      same_run := rfl
      bumped := rfl
      result_eq := rfl
      store_eq := rfl }

private theorem sampleMutated_alone {updated other : RotationRun} {command : RunCommand} {j : Identifier}
    (hid : command.organisationId = RotationRun.sample.organisationId ∧ command.runId = RotationRun.sample.id)
    (h : (sampleMutated sampleStarted sampleRunning updated command).runs
      (RotationRun.sample.organisationId, j) = some other) : j = RotationRun.sample.id := by
  change ((((Collection.empty.set (_, RotationRun.sample.id) _).set (_, RotationRun.sample.id) _).set
    (command.organisationId, command.runId) updated : Collection _ _)) _ = _ at h
  rw [hid.1, hid.2, Collection.set_eq_some, Collection.set_eq_some, Collection.set_eq_some] at h
  rcases h with ⟨hk, _⟩ | ⟨_, ⟨hk, _⟩ | ⟨_, ⟨hk, _⟩ | ⟨_, hn⟩⟩⟩
  · exact (Prod.mk.inj hk).2
  · exact (Prod.mk.inj hk).2
  · exact (Prod.mk.inj hk).2
  · cases hn

private theorem sampleGaveUp_recoverable : Recoverable sampleGaveUp ⟨3, 0⟩ sampleRecover sampleFailed where
  stored := rfl
  interrupted := .inl rfl
  accepted := by
    obtain ⟨updated, hu, _⟩ := RotationRun.modelValidate_of_valid
      ((RunFields.validateTerminalState_ok
        { sampleFailed.toRunFields with
          status := .recovering
          failure := none
          recoveryStage := some sampleFailed.stage
          recoveryFailure := sampleFailed.failure
          lease := some (RotationMachine.nextLease sampleFailed workerOne ⟨200, 0⟩)
          fencingToken := 2
          updatedAt := ⟨3, 0⟩
          revision := 3 }).mp (by decide))
    exact ⟨updated, hu⟩
  alone j other h _ _ := sampleMutated_alone ⟨rfl, rfl⟩ h
  fresh := by decide

private theorem sampleCleaning_recoverable :
    Recoverable sampleCleaning ⟨3, 0⟩ sampleRecover sampleCleanup where
  stored := rfl
  interrupted := .inr rfl
  accepted := by
    obtain ⟨updated, hu, _⟩ := RotationRun.modelValidate_of_valid
      ((RunFields.validateTerminalState_ok
        { sampleCleanup.toRunFields with
          status := .recovering
          failure := none
          recoveryStage := some sampleCleanup.stage
          recoveryFailure := sampleCleanup.failure
          lease := some (RotationMachine.nextLease sampleCleanup workerOne ⟨200, 0⟩)
          fencingToken := 2
          updatedAt := ⟨3, 0⟩
          revision := 3 }).mp (by decide))
    exact ⟨updated, hu⟩
  alone j other h _ _ := sampleMutated_alone ⟨rfl, rfl⟩ h
  fresh := by decide

/-- The sample run in cleanup recovers. -/
theorem recovers_sample : Recovers Hashing.sample sampleCleaning {} ⟨3, 0⟩ sampleRecover sampleCleanup :=
  (recovers_iff sampleCleaning_reachable sampleCleaning_recoverable).mpr rfl

/-- The failed sample run does not recover, although the machine accepts it. -/
theorem failed_not_recovers : ¬ ∀ hashing s machine now command run,
    (repository hashing).Reachable Initial s → Recoverable s now command run →
      Recovers hashing s machine now command run := by
  intro h
  obtain ⟨hp, hl⟩ := reachable_locked sampleGaveUp_reachable
  exact not_recovers_of_failed hp hl sampleGaveUp_recoverable rfl
    (h _ _ {} _ _ _ sampleGaveUp_reachable sampleGaveUp_recoverable)

end Uumi.Workflow
