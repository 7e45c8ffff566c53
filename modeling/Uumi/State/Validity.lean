import Uumi.State.Inversion

/-! When an operation that its guards admit builds a run the model validator accepts. -/
namespace Uumi.State
open Uumi.Contracts Uumi.Core Uumi.Foundations Uumi.Policy

namespace RotationMachine
variable {machine : RotationMachine} {run : RotationRun} {token revision : Nat}
  {expires now : AwareDatetime} {changes : RunFields → RunFields}

/-- What `_update` hands to the model validator. -/
def stamped (run : RotationRun) (now : AwareDatetime) (changes : RunFields → RunFields) : RunFields :=
  { changes run.toRunFields with updatedAt := now, revision := run.revision + 1 }

private theorem raises_checkRevision : RaisesOnly Error.IsTransitionError (checkRevision run revision) :=
  raisesOnly_raiseIf _ trivial

private theorem raises_future : RaisesOnly Error.IsTransitionError (future expires now) :=
  raisesOnly_raiseIf _ trivial

private theorem raises_unowned (owner : Identifier) :
    RaisesOnly Error.IsTransitionError (unowned run owner now) :=
  raisesOnly_raiseIf _ trivial

private theorem raises_control : RaisesOnly Error.IsTransitionError (control run token revision now) :=
  raisesOnly_guard raises_checkRevision fun _ =>
    raisesOnly_bind (raisesOnly_required _ trivial) fun _ _ =>
      raisesOnly_guard (raisesOnly_raiseIf _ trivial) fun _ => raisesOnly_raiseIf _ trivial

private theorem raises_interruptControl :
    RaisesOnly Error.IsTransitionError (interruptControl run token revision now) :=
  raisesOnly_guard raises_checkRevision fun _ =>
    raisesOnly_bind (raisesOnly_required _ trivial) fun _ _ => raisesOnly_raiseIf _ trivial

private theorem raises_checkPolicy (proof : StageProof) :
    RaisesOnly Error.IsTransitionError (machine.checkPolicy proof) := by
  unfold checkPolicy
  split
  · exact raisesOnly_raiseIf _ trivial
  · exact raisesOnly_ok _ _

private theorem raises_checkBindings (bindings : StageBindings) :
    RaisesOnly Error.IsTransitionError (checkBindings run bindings) := by
  unfold checkBindings
  iterate 5 refine raisesOnly_guard (raisesOnly_raiseIf _ trivial) fun _ => ?_
  exact raisesOnly_raiseIf _ trivial

/-- An update raises a transition error, or nothing, exactly when the new fields are valid. -/
theorem raises_update_iff :
    RaisesOnly Error.IsTransitionError (update run now changes) ↔ (stamped run now changes).Valid := by
  constructor
  · intro h
    by_contra hv
    obtain ⟨message, he⟩ := RotationRun.modelValidate_of_not_valid hv
    exact h _ he
  · intro hv
    obtain ⟨updated, hu, -⟩ := RotationRun.modelValidate_of_valid hv
    have hok : update run now changes = .ok updated := hu
    rw [hok]
    exact raisesOnly_ok _ _

variable (run) in
private theorem failure_none (h : run.status ∉ RunFields.problemStates) : run.failure = none := by
  by_contra hf
  exact h (run.valid.failure.mpr hf)

variable (run) in
private theorem recovery_none (h : RunFields.recoveryBound run.status = false) : run.recoveryStage = none := by
  have hr := run.valid.recovery
  rw [h] at hr
  exact Option.isNone_iff_eq_none.mp (by simpa using hr.symm)

private theorem valid_plain {r : RunFields} (hp : r.status ∉ RunFields.problemStates)
    (hb : RunFields.recoveryBound r.status = false)
    (hc : r.status = .completed → r.stage = .complete)
    (hl : ∀ lease ∈ r.lease, lease.fencingToken = r.fencingToken)
    (hf : r.failure = none) (hr : r.recoveryStage = none) : r.Valid where
  completed := hc
  lease := hl
  failure := ⟨fun h => absurd h hp, fun h => absurd hf h⟩
  recovery := by rw [hb, hr]; rfl
  compensated h := by rw [h] at hb; cases hb

private theorem nextLease_token (owner : Identifier) :
    ∀ lease ∈ some (nextLease run owner expires), lease.fencingToken = run.fencingToken + 1 := by
  rintro _ ⟨⟩
  rfl

private theorem raises_start (owner : Identifier) :
    RaisesOnly Error.IsTransitionError (start run owner revision expires now) := by
  refine raisesOnly_guard raises_checkRevision fun _ => ?_
  refine raisesOnly_guard (raisesOnly_raiseIf _ trivial) fun hs => ?_
  refine raisesOnly_guard raises_future fun _ => ?_
  rw [raiseIf_ok, not_not] at hs
  have hf := failure_none run (by rw [hs]; decide)
  have hr := recovery_none run (by rw [hs]; rfl)
  exact raises_update_iff.mpr (valid_plain (by simp [stamped, RunFields.problemStates]) rfl nofun
    (nextLease_token owner) hf hr)

private theorem raises_renew (owner : Identifier) :
    RaisesOnly Error.IsTransitionError (renew run owner token revision expires now) := by
  refine raisesOnly_guard raises_control fun _ => ?_
  refine raisesOnly_bind (raisesOnly_required _ trivial) fun lease hl => ?_
  refine raisesOnly_guard (raisesOnly_raiseIf _ trivial) fun _ => ?_
  refine raisesOnly_guard raises_future fun _ => ?_
  rw [required_ok] at hl
  have hv := run.valid
  refine raises_update_iff.mpr ⟨hv.completed, ?_, hv.failure, hv.recovery, hv.compensated⟩
  rintro _ ⟨⟩
  exact hv.lease lease hl

private theorem raises_complete (proof : StageProof) (bindings : StageBindings) :
    RaisesOnly Error.IsTransitionError (machine.complete run proof token revision now bindings) := by
  refine raisesOnly_guard raises_control fun _ => ?_
  refine raisesOnly_guard (raisesOnly_raiseIf _ trivial) fun hs => ?_
  refine raisesOnly_guard (raisesOnly_raiseIf _ trivial) fun _ => ?_
  refine raisesOnly_guard (raisesOnly_raiseIf _ trivial) fun _ => ?_
  refine raisesOnly_guard (raises_checkPolicy proof) fun _ => ?_
  refine raisesOnly_guard (raises_checkBindings bindings) fun _ => ?_
  rw [raiseIf_ok, not_not] at hs
  have hf := failure_none run (by rw [hs]; decide)
  have hr := recovery_none run (by rw [hs]; rfl)
  rw [raises_update_iff]
  cases hn : run.stage.next? with
  | none =>
    have hc : run.stage = .complete := by
      by_contra hc
      obtain ⟨next, h, -⟩ := Stage.next?_of_ne_complete run.stage hc
      rw [h] at hn
      cases hn
    have hadv : stamped run now (fun r => advance run.stage (bind bindings r)) =
        { bind bindings run.toRunFields with
          status := .completed, lease := none, updatedAt := now, revision := run.revision + 1 } := by
      simp only [stamped, advance, hn]
    rw [hadv]
    exact valid_plain (by simp [RunFields.problemStates]) rfl (fun _ => hc) nofun hf hr
  | some next =>
    have hadv : stamped run now (fun r => advance run.stage (bind bindings r)) =
        { bind bindings run.toRunFields with
          stage := next, status := .running, updatedAt := now, revision := run.revision + 1 } := by
      simp only [stamped, advance, hn]
    rw [hadv]
    exact valid_plain (by simp [RunFields.problemStates]) rfl nofun run.valid.lease hf hr

/-- Resuming raises transition errors only. -/
theorem raises_resume (owner : Identifier) :
    RaisesOnly Error.IsTransitionError (resume run owner revision expires now) := by
  refine raisesOnly_guard raises_checkRevision fun _ => ?_
  refine raisesOnly_guard (raisesOnly_raiseIf _ trivial) fun hs => ?_
  refine raisesOnly_guard (raises_unowned owner) fun _ => ?_
  refine raisesOnly_guard raises_future fun _ => ?_
  rw [raiseIf_ok, not_not] at hs
  have hf := failure_none run (by rw [hs]; decide)
  have hr := recovery_none run (by rw [hs]; rfl)
  exact raises_update_iff.mpr (valid_plain (by simp [stamped, RunFields.problemStates]) rfl nofun
    (nextLease_token owner) hf hr)

/-- Failing drops the recovery fields of a recovering run, so every status that may fail may
become failed. -/
theorem raises_fail (failure : Failure) :
    RaisesOnly Error.IsTransitionError (fail run failure token revision now) := by
  refine raisesOnly_guard (raisesOnly_raiseIf _ trivial) fun hs => ?_
  refine raisesOnly_guard raises_interruptControl fun _ => ?_
  rw [raiseIf_ok] at hs
  have hr : (if run.status = .recovering then clearRecovery run.toRunFields else run.toRunFields).recoveryStage
      = none := by
    split
    · rfl
    · rename_i hn
      apply recovery_none
      cases h : run.status <;> simp_all [RunFields.recoveryBound]
  exact raises_update_iff.mpr
    { completed := nofun
      lease := nofun
      failure := ⟨fun _ => nofun, fun _ => by simp [stamped, RunFields.problemStates]⟩
      recovery := by
        simp only [stamped, hr]
        rfl
      compensated := nofun }

private theorem raises_cancel : RaisesOnly Error.IsTransitionError (cancel run revision now) := by
  refine raisesOnly_guard raises_checkRevision fun _ => ?_
  refine raisesOnly_guard (raisesOnly_raiseIf _ trivial) fun _ => ?_
  exact raises_update_iff.mpr (valid_plain (by simp [stamped, RunFields.problemStates]) rfl nofun nofun rfl rfl)

/-- Recovering raises transition errors only. -/
theorem raises_recover (owner : Identifier) :
    RaisesOnly Error.IsTransitionError (recover run owner revision expires now) := by
  refine raisesOnly_guard raises_checkRevision fun _ => ?_
  refine raisesOnly_guard (raisesOnly_raiseIf _ trivial) fun _ => ?_
  refine raisesOnly_guard (raises_unowned owner) fun _ => ?_
  refine raisesOnly_guard raises_future fun _ => ?_
  exact raises_update_iff.mpr
    { completed := nofun
      lease := nextLease_token owner
      failure := ⟨fun h => by simp [stamped, RunFields.problemStates] at h, fun h => absurd rfl h⟩
      recovery := rfl
      compensated := nofun }

private theorem raises_completeRecovery (id : Identifier) (mode : RecoveryMode) (evidence : List Identifier) :
    RaisesOnly Error.IsTransitionError (completeRecovery run id mode evidence token revision now) := by
  refine raisesOnly_guard raises_control fun _ => ?_
  refine raisesOnly_guard (raisesOnly_raiseIf _ trivial) fun hs => ?_
  refine raisesOnly_guard (raisesOnly_raiseIf _ trivial) fun he => ?_
  rw [raiseIf_ok, not_or, not_not, not_not] at hs
  rw [raiseIf_ok] at he
  obtain ⟨hs, hg⟩ := hs
  have hf := failure_none run (by rw [hs]; decide)
  split
  · refine raisesOnly_guard (raisesOnly_raiseIf _ trivial) fun _ => ?_
    exact raises_update_iff.mpr (valid_plain (by simp [stamped, RunFields.problemStates]) rfl nofun
      run.valid.lease hf rfl)
  · exact raises_update_iff.mpr
      { completed := nofun
        lease := nofun
        failure := ⟨fun h => by simp [stamped, RunFields.problemStates] at h, fun h => absurd hf h⟩
        recovery := by
          simp only [stamped, hg]
          rfl
        compensated := fun _ => ⟨by simp [stamped, hg], nofun, he⟩ }

private theorem recovering_stays_bound {r : RunFields} (h : r.Valid) (hs : run.status = .recovering)
    (hr : r.recoveryStage = run.recoveryStage) (hb : RunFields.recoveryBound r.status = false) : False := by
  have hv := h.recovery
  rw [hr, hb, ← run.valid.recovery, hs] at hv
  cases hv

/-- Pausing keeps the recovery stage, so it fails validation on a recovering run. -/
theorem raises_pause_iff : RaisesOnly Error.IsTransitionError (pause run token revision now) ↔
    ¬ (run.status = .recovering ∧ Controls run token revision now) := by
  constructor
  · rintro h ⟨hs, hc⟩
    rw [pause, raisesOnly_ok_bind (control_ok.mpr hc), raisesOnly_ok_bind (a := ()) (by simp [hs]),
      raises_update_iff] at h
    exact recovering_stays_bound h hs rfl rfl
  · intro h
    refine raisesOnly_guard raises_control fun hc => ?_
    refine raisesOnly_guard (raisesOnly_raiseIf _ trivial) fun hs => ?_
    have hn : run.status ≠ .recovering := fun hs => h ⟨hs, control_ok.mp hc⟩
    rw [raiseIf_ok, not_not] at hs
    have hrun : run.status = .running := by simpa [hn] using hs
    have hf := failure_none run (by rw [hrun]; decide)
    have hr := recovery_none run (by rw [hrun]; rfl)
    exact raises_update_iff.mpr (valid_plain (by simp [stamped, RunFields.problemStates]) rfl (by rintro ⟨⟩)
      run.valid.lease hf hr)

/-- Entering cleanup keeps the recovery stage as well. -/
theorem raises_cleanup_iff (failure : Failure) :
    RaisesOnly Error.IsTransitionError (cleanup run failure token revision now) ↔
    ¬ (run.status = .recovering ∧ Interrupts run token revision now) := by
  constructor
  · rintro h ⟨hs, hc⟩
    rw [cleanup, raisesOnly_ok_bind (interruptControl_ok.mpr hc), raisesOnly_ok_bind (a := ()) (by simp [hs]),
      raises_update_iff] at h
    exact recovering_stays_bound h hs rfl rfl
  · intro h
    refine raisesOnly_guard raises_interruptControl fun hc => ?_
    refine raisesOnly_guard (raisesOnly_raiseIf _ trivial) fun hs => ?_
    have hn : run.status ≠ .recovering := fun hs => h ⟨hs, interruptControl_ok.mp hc⟩
    rw [raiseIf_ok, not_not] at hs
    have hr := recovery_none run (by cases hq : run.status <;> simp_all [RunFields.recoveryBound])
    exact raises_update_iff.mpr
      { completed := by rintro ⟨⟩
        lease := run.valid.lease
        failure := ⟨fun _ => by rintro ⟨⟩, fun _ => by simp [stamped, RunFields.problemStates]⟩
        recovery := by
          simp only [stamped, hr]
          rfl
        compensated := by rintro ⟨⟩ }

/-- What a transition promises: a transition error, or a run that the model validator accepts. -/
def RaisesOrReturnsValid (machine : RotationMachine) (run : RotationRun) (operation : Operation) : Prop :=
  (∃ e, machine.perform run operation = .error e ∧ e.IsTransitionError) ∨
  ∃ updated, machine.perform run operation = .ok updated ∧
    updated.toRunFields.validateTerminalState = .ok ()

/-- A pause or a cleanup that the control check admits on a recovering run. -/
def SuspendsRecovery (run : RotationRun) : Operation → Prop
  | .pause token revision now => run.status = .recovering ∧ Controls run token revision now
  | .cleanup _ token revision now => run.status = .recovering ∧ Interrupts run token revision now
  | _ => False

private theorem raises_perform_iff (machine : RotationMachine) (run : RotationRun) (operation : Operation) :
    RaisesOnly Error.IsTransitionError (machine.perform run operation) ↔ ¬ SuspendsRecovery run operation := by
  cases operation with
  | start => exact iff_of_true (raises_start _) not_false
  | renew => exact iff_of_true (raises_renew _) not_false
  | complete => exact iff_of_true (raises_complete _ _) not_false
  | pause => exact raises_pause_iff
  | resume => exact iff_of_true (raises_resume _) not_false
  | cleanup => exact raises_cleanup_iff _
  | fail => exact iff_of_true (raises_fail _) not_false
  | cancel => exact iff_of_true raises_cancel not_false
  | recover => exact iff_of_true (raises_recover _) not_false
  | completeRecovery => exact iff_of_true (raises_completeRecovery _ _ _) not_false

private theorem raisesOrReturnsValid_iff_raisesOnly {machine : RotationMachine} {run : RotationRun}
    {operation : Operation} : RaisesOrReturnsValid machine run operation ↔
      RaisesOnly Error.IsTransitionError (machine.perform run operation) := by
  rw [raisesOnly_iff]
  refine or_congr_right (exists_congr fun updated => ?_)
  exact ⟨And.left, fun h => ⟨h, updated.accepted⟩⟩

/-- Every operation keeps its promise on every run, except a pause or a cleanup that the
control check admits on a recovering run: there the updated run fails validation. -/
theorem raisesOrReturnsValid_iff (machine : RotationMachine) (run : RotationRun) (operation : Operation) :
    RaisesOrReturnsValid machine run operation ↔ ¬ SuspendsRecovery run operation := by
  rw [← raises_perform_iff machine]
  exact raisesOrReturnsValid_iff_raisesOnly

/-- A worker that holds the live lease of a recovering run and pauses it gets a validation error. -/
theorem pause_recovering_fails_validation :
    ¬ ∀ machine run operation, RaisesOrReturnsValid machine run operation := by
  intro h
  have hp := raisesOrReturnsValid_iff_raisesOnly.mp (h {} RotationRun.sampleRecovering (.pause 2 4 ⟨10, 0⟩))
  exact raises_pause_iff.mp hp ⟨rfl, rfl, _, rfl, rfl, by decide⟩

end RotationMachine
end Uumi.State
