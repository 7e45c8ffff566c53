import Uumi.State.Machine

/-! What each operation of the machine does when it succeeds: its guards and the fields of the
updated run. Nothing later unfolds an operation. -/
namespace Uumi.State
open Uumi.Contracts Uumi.Core Uumi.Foundations Uumi.Policy

namespace RotationMachine
variable {machine : RotationMachine} {run updated : RotationRun}
  {ownerId recoveryId : Identifier} {token revision : Nat} {expires now : AwareDatetime}
  {proof : StageProof} {bindings : StageBindings} {failure : Failure} {mode : RecoveryMode}
  {evidence : List Identifier}

@[simp] theorem checkRevision_ok : checkRevision run revision = .ok () ↔ run.revision = revision := by
  simp [checkRevision]

@[simp] theorem future_ok : future expires now = .ok () ↔ now < expires := by
  simp [future]

@[simp] theorem unowned_ok : unowned run ownerId now = .ok () ↔
    ∀ lease ∈ run.lease, now < lease.expiresAt → lease.ownerId = ownerId := by
  simp [unowned]

/-- The caller holds the live lease of the run, under its token and at its revision. -/
structure Controls (run : RotationRun) (token revision : Nat) (now : AwareDatetime) : Prop where
  revision : run.revision = revision
  live : ∃ lease, run.lease = some lease ∧ lease.fencingToken = token ∧ now < lease.expiresAt

/-- The run has a lease that has expired or whose token the caller presents. -/
structure Interrupts (run : RotationRun) (token revision : Nat) (now : AwareDatetime) : Prop where
  revision : run.revision = revision
  lease : ∃ lease, run.lease = some lease ∧ (now < lease.expiresAt → lease.fencingToken = token)

@[simp] theorem control_ok : control run token revision now = .ok () ↔ Controls run token revision now := by
  simp only [control, checkRevision_ok, unit_bind_ok, required_bind_ok, raiseIf_ok,
    not_not, AwareDatetime.not_le]
  constructor
  · rintro ⟨hr, lease, hl, ht, he⟩
    exact ⟨hr, lease, hl, ht, he⟩
  · rintro ⟨hr, lease, hl, ht, he⟩
    exact ⟨hr, lease, hl, ht, he⟩

@[simp] theorem interruptControl_ok :
    interruptControl run token revision now = .ok () ↔ Interrupts run token revision now := by
  simp only [interruptControl, checkRevision_ok, unit_bind_ok, required_bind_ok, raiseIf_ok,
    not_not, AwareDatetime.not_le, not_and]
  constructor
  · rintro ⟨hr, lease, hl, ht⟩
    exact ⟨hr, lease, hl, ht⟩
  · rintro ⟨hr, lease, hl, ht⟩
    exact ⟨hr, lease, hl, ht⟩

@[simp] theorem checkPolicy_ok : machine.checkPolicy proof = .ok () ↔
    (machine.validatePolicy = true → machine.policy.checks proof.stage ⊆ proof.checks) := by
  unfold checkPolicy
  split
  · rename_i h
    simp [h]
  · rename_i h
    simp [h]

/-- An update changes the fields, the time and the revision. -/
theorem update_ok {changes : RunFields → RunFields} : update run now changes = .ok updated ↔
    updated.toRunFields =
      { changes run.toRunFields with updatedAt := now, revision := run.revision + 1 } := by
  rw [update, RotationRun.modelValidate_ok]

/-- The bindings that a stage accepts. -/
structure BindsAt (run : RotationRun) (bindings : StageBindings) : Prop where
  allowed : boundNames bindings ⊆ allowed run.stage
  preflight : run.stage = .preflight → "current_generation_id" ∈ boundNames bindings
  exact : run.stage = .plan ∨ run.stage = .create ∨ run.stage = .deploy →
    boundNames bindings = RotationMachine.allowed run.stage
  fresh : ¬ Rebinds run bindings

@[simp] theorem checkBindings_ok : checkBindings run bindings = .ok () ↔ BindsAt run bindings := by
  simp only [checkBindings, unit_bind_ok, raiseIf_ok, not_and, not_not,
    Finset.sdiff_eq_empty_iff_subset]
  constructor
  · rintro ⟨ha, hp, hl, hc, hd, hr⟩
    refine ⟨ha, hp, ?_, hr⟩
    rintro (h | h | h)
    · rw [hl h, h]
    · rw [hc h, h]
    · rw [hd h, h]
  · rintro ⟨ha, hp, he, hr⟩
    refine ⟨ha, hp, ?_, ?_, ?_, hr⟩ <;> intro h
    · rw [he (.inl h), h]
    · rw [he (.inr (.inl h)), h]
    · rw [he (.inr (.inr h)), h]

/-- When a run starts, and what is written. -/
theorem start_ok : start run ownerId revision expires now = .ok updated ↔
    run.revision = revision ∧ run.status = .pending ∧ now < expires ∧
    updated.toRunFields = { run.toRunFields with
      status := .running, lease := some (nextLease run ownerId expires),
      fencingToken := run.fencingToken + 1, updatedAt := now, revision := run.revision + 1 } := by
  simp only [start, unit_bind_ok, checkRevision_ok, raiseIf_ok, future_ok, not_not, update_ok]

/-- When a lease is renewed, and what is written. -/
theorem renew_ok : renew run ownerId token revision expires now = .ok updated ↔
    Controls run token revision now ∧ now < expires ∧
    ∃ lease, run.lease = some lease ∧ lease.ownerId = ownerId ∧
    updated.toRunFields = { run.toRunFields with
      lease := some { lease with expiresAt := expires }, updatedAt := now,
      revision := run.revision + 1 } := by
  simp only [renew, unit_bind_ok, required_bind_ok, control_ok, raiseIf_ok, future_ok, update_ok, not_not]
  constructor
  · rintro ⟨hc, lease, hl, ho, he, hu⟩
    exact ⟨hc, he, lease, hl, ho, hu⟩
  · rintro ⟨hc, he, lease, hl, ho, hu⟩
    exact ⟨hc, lease, hl, ho, he, hu⟩

/-- When a stage is completed, and what is written. -/
theorem complete_ok : machine.complete run proof token revision now bindings = .ok updated ↔
    Controls run token revision now ∧ run.status = .running ∧
    proof.runId = run.id ∧ proof.organisationId = run.organisationId ∧ proof.stage = run.stage ∧
    (machine.validatePolicy = true → machine.policy.checks proof.stage ⊆ proof.checks) ∧
    BindsAt run bindings ∧
    updated.toRunFields = { advance run.stage (bind bindings run.toRunFields) with
      updatedAt := now, revision := run.revision + 1 } := by
  simp only [complete, unit_bind_ok, control_ok, raiseIf_ok, not_not, not_or, checkPolicy_ok,
    checkBindings_ok, update_ok]
  constructor
  · rintro ⟨hc, hs, ⟨hr, ho⟩, ht, hv, hb, hf⟩
    exact ⟨hc, hs, hr, ho, ht, hv, hb, hf⟩
  · rintro ⟨hc, hs, hr, ho, ht, hv, hb, hf⟩
    exact ⟨hc, hs, ⟨hr, ho⟩, ht, hv, hb, hf⟩

/-- When a run is paused, and what is written. -/
theorem pause_ok : pause run token revision now = .ok updated ↔
    Controls run token revision now ∧ run.status ∈ [.running, .recovering] ∧
    updated.toRunFields = { run.toRunFields with
      status := .paused, updatedAt := now, revision := run.revision + 1 } := by
  simp only [pause, unit_bind_ok, control_ok, raiseIf_ok, not_not, update_ok]

/-- When a run is resumed, and what is written. -/
theorem resume_ok : resume run ownerId revision expires now = .ok updated ↔
    run.revision = revision ∧ run.status = .paused ∧
    (∀ lease ∈ run.lease, now < lease.expiresAt → lease.ownerId = ownerId) ∧ now < expires ∧
    updated.toRunFields = { run.toRunFields with
      status := .running, lease := some (nextLease run ownerId expires),
      fencingToken := run.fencingToken + 1, updatedAt := now, revision := run.revision + 1 } := by
  simp only [resume, unit_bind_ok, checkRevision_ok, raiseIf_ok, unowned_ok, future_ok, not_not, update_ok]

/-- When a run goes to its cleanup, and what is written. -/
theorem cleanup_ok : cleanup run failure token revision now = .ok updated ↔
    Interrupts run token revision now ∧
    run.status ∈ [.running, .recovering, .paused] ∧
    updated.toRunFields = { run.toRunFields with
      status := .cleanup, failure := some failure, updatedAt := now, revision := run.revision + 1 } := by
  simp only [cleanup, unit_bind_ok, interruptControl_ok, raiseIf_ok, not_not, update_ok]

/-- When a run fails, and what is written. -/
theorem fail_ok : fail run failure token revision now = .ok updated ↔
    run.status ∉ [.completed, .failed, .compensated] ∧ Interrupts run token revision now ∧
    updated.toRunFields =
      { (if run.status = .recovering then clearRecovery run.toRunFields else run.toRunFields) with
        status := .failed, failure := some failure, lease := none, updatedAt := now,
        revision := run.revision + 1 } := by
  simp only [fail, raiseIf_ok, unit_bind_ok, interruptControl_ok, update_ok]

/-- When a run is cancelled, and what is written. -/
theorem cancel_ok : cancel run revision now = .ok updated ↔
    run.revision = revision ∧ run.status ∉ [.cancelled, .completed, .compensated] ∧
    updated.toRunFields = { clearRecovery run.toRunFields with
      status := .cancelled, lease := none, fencingToken := run.fencingToken + 1, failure := none,
      updatedAt := now, revision := run.revision + 1 } := by
  simp only [cancel, raiseIf_ok, unit_bind_ok, checkRevision_ok, update_ok]

/-- When a recovery begins, and what is written. -/
theorem recover_ok : recover run ownerId revision expires now = .ok updated ↔
    run.revision = revision ∧ run.status ∈ [.failed, .cleanup] ∧
    (∀ lease ∈ run.lease, now < lease.expiresAt → lease.ownerId = ownerId) ∧ now < expires ∧
    updated.toRunFields = { run.toRunFields with
      status := .recovering, failure := none, recoveryStage := some run.stage,
      recoveryFailure := run.failure, lease := some (nextLease run ownerId expires),
      fencingToken := run.fencingToken + 1, updatedAt := now, revision := run.revision + 1 } := by
  simp only [recover, unit_bind_ok, checkRevision_ok, raiseIf_ok, unowned_ok, future_ok, not_not, update_ok]

/-- When a recovery is completed, and what is written in each mode. -/
theorem completeRecovery_ok :
    completeRecovery run recoveryId mode evidence token revision now = .ok updated ↔
    Controls run token revision now ∧ run.status = .recovering ∧ run.recoveryStage = some run.stage ∧
    evidence ≠ [] ∧
    ((mode = .retry ∧ (∃ failure ∈ run.recoveryFailure, failure.retryable = true) ∧
      updated.toRunFields = { clearRecovery run.toRunFields with
        status := .running, updatedAt := now, revision := run.revision + 1 }) ∨
    (mode ≠ .retry ∧ updated.toRunFields = { run.toRunFields with
        status := .compensated, lease := none, recoveryId := some recoveryId, recoveryMode := some mode,
        recoveryEvidenceIds := evidence, updatedAt := now, revision := run.revision + 1 })) := by
  by_cases hm : mode = .retry <;>
    simp only [completeRecovery, hm, if_true, if_false, unit_bind_ok, control_ok, raiseIf_ok, not_or, not_not,
      update_ok, ne_eq, true_and, false_and, not_true_eq_false, not_false_eq_true, or_false, false_or]
  · constructor
    · rintro ⟨hc, ⟨hs, hg⟩, he, hf, hu⟩
      exact ⟨hc, hs, hg, he, hf, hu⟩
    · rintro ⟨hc, hs, hg, he, hf, hu⟩
      exact ⟨hc, ⟨hs, hg⟩, he, hf, hu⟩
  · constructor
    · rintro ⟨hc, ⟨hs, hg⟩, he, hu⟩
      exact ⟨hc, hs, hg, he, hu⟩
    · rintro ⟨hc, hs, hg, he, hu⟩
      exact ⟨hc, ⟨hs, hg⟩, he, hu⟩

end RotationMachine
end Uumi.State
