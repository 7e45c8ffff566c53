import Uumi.State.Inversion

/-! What every applied operation leaves alone, and what only a stage completion changes. -/
namespace Uumi.State
open Uumi.Contracts Uumi.Core Uumi.Foundations Uumi.Policy

/-- The identity of a run is fixed and its revision counts its transitions. -/
structure Succeeds (run updated : RunFields) : Prop where
  id : updated.id = run.id
  organisationId : updated.organisationId = run.organisationId
  credentialId : updated.credentialId = run.credentialId
  trigger : updated.trigger = run.trigger
  controlVersion : updated.controlVersion = run.controlVersion
  createdAt : updated.createdAt = run.createdAt
  revision : updated.revision = run.revision + 1

/-- The stage and the stage bindings stay, and nothing completes. -/
structure KeepsStage (run updated : RunFields) : Prop where
  stage : updated.stage = run.stage
  browserPlaybookVersion : updated.browserPlaybookVersion = run.browserPlaybookVersion
  planId : updated.planId = run.planId
  planHash : updated.planHash = run.planHash
  currentGenerationId : updated.currentGenerationId = run.currentGenerationId
  targetGenerationId : updated.targetGenerationId = run.targetGenerationId
  deployments : updated.deployments = run.deployments
  completed : updated.status = .completed → run.status = .completed

def Operation.proof : Operation → Option StageProof
  | .complete proof _ _ _ _ => some proof
  | _ => none

/-- The run leaves its stage under an accepted proof. -/
structure CompletesStage (run updated : RotationRun) (proof : StageProof) (token revision : Nat)
    (now : AwareDatetime) (bindings : StageBindings) : Prop where
  controls : RotationMachine.Controls run token revision now
  running : run.status = .running
  proof_run : proof.runId = run.id
  proof_organisation : proof.organisationId = run.organisationId
  proof_stage : proof.stage = run.stage
  binds : RotationMachine.BindsAt run bindings
  fields : updated.toRunFields =
    { RotationMachine.advance run.stage (RotationMachine.bind bindings run.toRunFields) with
      updatedAt := now, revision := run.revision + 1 }

namespace RotationMachine
variable {machine : RotationMachine} {run updated : RotationRun} {operation : Operation}

private theorem advance_succeeds (stage : Stage) (r : RunFields) :
    (advance stage r).id = r.id ∧ (advance stage r).organisationId = r.organisationId ∧
    (advance stage r).credentialId = r.credentialId ∧ (advance stage r).trigger = r.trigger ∧
    (advance stage r).controlVersion = r.controlVersion ∧ (advance stage r).createdAt = r.createdAt := by
  unfold advance
  split <;> exact ⟨rfl, rfl, rfl, rfl, rfl, rfl⟩

/-- Every applied operation fixes the identity of the run and bumps its revision once. -/
theorem perform_succeeds (h : machine.perform run operation = .ok updated) :
    Succeeds run.toRunFields updated.toRunFields := by
  cases operation with
  | start owner revision expires now =>
    obtain ⟨_, _, _, hu⟩ := start_ok.mp h
    rw [hu]
    exact ⟨rfl, rfl, rfl, rfl, rfl, rfl, rfl⟩
  | renew owner token revision expires now =>
    obtain ⟨_, _, lease, _, _, hu⟩ := renew_ok.mp h
    rw [hu]
    exact ⟨rfl, rfl, rfl, rfl, rfl, rfl, rfl⟩
  | complete proof token revision now bindings =>
    obtain ⟨_, _, _, _, _, _, _, hu⟩ := complete_ok.mp h
    obtain ⟨h1, h2, h3, h4, h5, h6⟩ := advance_succeeds run.stage (bind bindings run.toRunFields)
    rw [hu]
    exact ⟨h1, h2, h3, h4, h5, h6, rfl⟩
  | pause token revision now =>
    obtain ⟨_, _, hu⟩ := pause_ok.mp h
    rw [hu]
    exact ⟨rfl, rfl, rfl, rfl, rfl, rfl, rfl⟩
  | resume owner revision expires now =>
    obtain ⟨_, _, _, _, hu⟩ := resume_ok.mp h
    rw [hu]
    exact ⟨rfl, rfl, rfl, rfl, rfl, rfl, rfl⟩
  | cleanup failure token revision now =>
    obtain ⟨_, _, hu⟩ := cleanup_ok.mp h
    rw [hu]
    exact ⟨rfl, rfl, rfl, rfl, rfl, rfl, rfl⟩
  | fail failure token revision now =>
    obtain ⟨_, _, hu⟩ := fail_ok.mp h
    rw [hu]
    split <;> exact ⟨rfl, rfl, rfl, rfl, rfl, rfl, rfl⟩
  | cancel revision now =>
    obtain ⟨_, _, hu⟩ := cancel_ok.mp h
    rw [hu]
    exact ⟨rfl, rfl, rfl, rfl, rfl, rfl, rfl⟩
  | recover owner revision expires now =>
    obtain ⟨_, _, _, _, hu⟩ := recover_ok.mp h
    rw [hu]
    exact ⟨rfl, rfl, rfl, rfl, rfl, rfl, rfl⟩
  | completeRecovery id mode evidence token revision now =>
    obtain ⟨_, _, _, _, ⟨_, _, hu⟩ | ⟨_, hu⟩⟩ := completeRecovery_ok.mp h
    · rw [hu]
      exact ⟨rfl, rfl, rfl, rfl, rfl, rfl, rfl⟩
    · rw [hu]
      exact ⟨rfl, rfl, rfl, rfl, rfl, rfl, rfl⟩

/-- An applied operation keeps the stage, unless it is a completion that leaves it. -/
theorem perform_stage (h : machine.perform run operation = .ok updated) :
    (operation.proof = none ∧ KeepsStage run.toRunFields updated.toRunFields) ∨
    ∃ proof token revision now bindings, operation = .complete proof token revision now bindings ∧
      CompletesStage run updated proof token revision now bindings := by
  cases operation with
  | start owner revision expires now =>
    obtain ⟨_, _, _, hu⟩ := start_ok.mp h
    refine .inl ⟨rfl, ?_⟩
    rw [hu]
    exact ⟨rfl, rfl, rfl, rfl, rfl, rfl, rfl, nofun⟩
  | renew owner token revision expires now =>
    obtain ⟨_, _, lease, _, _, hu⟩ := renew_ok.mp h
    refine .inl ⟨rfl, ?_⟩
    rw [hu]
    exact ⟨rfl, rfl, rfl, rfl, rfl, rfl, rfl, fun hc => hc⟩
  | complete proof token revision now bindings =>
    obtain ⟨hc, hs, hr, ho, ht, _, hb, hu⟩ := complete_ok.mp h
    exact .inr ⟨proof, token, revision, now, bindings, rfl, ⟨hc, hs, hr, ho, ht, hb, hu⟩⟩
  | pause token revision now =>
    obtain ⟨_, _, hu⟩ := pause_ok.mp h
    refine .inl ⟨rfl, ?_⟩
    rw [hu]
    exact ⟨rfl, rfl, rfl, rfl, rfl, rfl, rfl, nofun⟩
  | resume owner revision expires now =>
    obtain ⟨_, _, _, _, hu⟩ := resume_ok.mp h
    refine .inl ⟨rfl, ?_⟩
    rw [hu]
    exact ⟨rfl, rfl, rfl, rfl, rfl, rfl, rfl, nofun⟩
  | cleanup failure token revision now =>
    obtain ⟨_, _, hu⟩ := cleanup_ok.mp h
    refine .inl ⟨rfl, ?_⟩
    rw [hu]
    exact ⟨rfl, rfl, rfl, rfl, rfl, rfl, rfl, nofun⟩
  | fail failure token revision now =>
    obtain ⟨_, _, hu⟩ := fail_ok.mp h
    refine .inl ⟨rfl, ?_⟩
    rw [hu]
    split <;> exact ⟨rfl, rfl, rfl, rfl, rfl, rfl, rfl, nofun⟩
  | cancel revision now =>
    obtain ⟨_, _, hu⟩ := cancel_ok.mp h
    refine .inl ⟨rfl, ?_⟩
    rw [hu]
    exact ⟨rfl, rfl, rfl, rfl, rfl, rfl, rfl, nofun⟩
  | recover owner revision expires now =>
    obtain ⟨_, _, _, _, hu⟩ := recover_ok.mp h
    refine .inl ⟨rfl, ?_⟩
    rw [hu]
    exact ⟨rfl, rfl, rfl, rfl, rfl, rfl, rfl, nofun⟩
  | completeRecovery id mode evidence token revision now =>
    obtain ⟨_, _, _, _, ⟨_, _, hu⟩ | ⟨_, hu⟩⟩ := completeRecovery_ok.mp h
    all_goals
      refine .inl ⟨rfl, ?_⟩
      rw [hu]
      exact ⟨rfl, rfl, rfl, rfl, rfl, rfl, rfl, nofun⟩

/-- A completed stage is followed by its successor, or completes the run if it is the last. -/
theorem completesStage_cases {proof : StageProof} {token revision : Nat} {now : AwareDatetime}
    {bindings : StageBindings} (h : CompletesStage run updated proof token revision now bindings) :
    (run.stage.next? = some updated.stage ∧ updated.status = .running) ∨
      (run.stage = .complete ∧ updated.stage = .complete ∧ updated.status = .completed) := by
  have hs := congrArg RunFields.stage h.fields
  have ht := congrArg RunFields.status h.fields
  cases hn : run.stage.next? with
  | none =>
    have hc : run.stage = .complete := by
      by_contra hc
      obtain ⟨next, he, -⟩ := Stage.next?_of_ne_complete run.stage hc
      rw [he] at hn
      cases hn
    simp only [advance, hn] at hs ht
    exact .inr ⟨hc, hs.trans hc, ht⟩
  | some next =>
    simp only [advance, hn] at hs ht
    exact .inl ⟨by rw [hs], ht⟩

/-- The bindings of the updated run are those that the completion set over the earlier ones. -/
theorem completesStage_bindings {proof : StageProof} {token revision : Nat} {now : AwareDatetime}
    {bindings : StageBindings} (h : CompletesStage run updated proof token revision now bindings) :
    updated.browserPlaybookVersion = (bind bindings run.toRunFields).browserPlaybookVersion ∧
    updated.planId = (bind bindings run.toRunFields).planId ∧
    updated.planHash = (bind bindings run.toRunFields).planHash ∧
    updated.currentGenerationId = (bind bindings run.toRunFields).currentGenerationId ∧
    updated.targetGenerationId = (bind bindings run.toRunFields).targetGenerationId ∧
    updated.deployments = (bind bindings run.toRunFields).deployments := by
  rw [h.fields]
  unfold advance
  split <;> exact ⟨rfl, rfl, rfl, rfl, rfl, rfl⟩

/-- A cancelled run is cancelled. -/
theorem perform_cancel_status {revision : Nat} {now : AwareDatetime}
    (h : machine.perform run (.cancel revision now) = .ok updated) : updated.status = .cancelled := by
  obtain ⟨_, _, hu⟩ := cancel_ok.mp h
  rw [hu]

end RotationMachine
end Uumi.State
