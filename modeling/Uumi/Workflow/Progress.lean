import Uumi.Workflow.StageGates

/-! Stage progress: how calls move a run through its stages, and what the record of a completed
run proves. -/
namespace Uumi.Workflow
open Uumi.Contracts Uumi.Core Uumi.Foundations Uumi.Policy Uumi.State Uumi.Storage

variable {hashing : Hashing} {s s' : Store}

private theorem operation_complete {command : RunCommand} {now now' : AwareDatetime} {proof : StageProof}
    {token revision : Nat} {bindings : StageBindings}
    (h : operation now command = .complete proof token revision now' bindings) :
    ∃ c, command = .complete c ∧ c.proof = proof ∧ c.fencingToken = token ∧ now = now' := by
  cases command with
  | complete c =>
    cases h
    exact ⟨c, rfl, rfl, rfl, rfl⟩
  | _ => cases h

/-- What a call does to the stage and the stage bindings of a stored run. -/
structure Moves (call : Call) (result : MutationResult) (run run' : RotationRun) : Prop where
  stage : run'.stage = run.stage ∨
    (run'.stage.index = run.stage.index + 1 ∧ result.applied = true ∧ result.run = run' ∧
      ∃ machine now c, call = .mutate machine now (.complete c) ∧
        c.organisationId = run.organisationId ∧ c.runId = run.id)
  bindings : RotationMachine.BindsOnce run.toRunFields run'.toRunFields

private theorem bindsOnce_refl (run : RunFields) : RotationMachine.BindsOnce run run :=
  ⟨.inl rfl, .inl rfl, .inl rfl, .inl rfl, .inl rfl, .inl rfl⟩

private theorem Moves.refl {call : Call} {result : MutationResult} (run : RotationRun) :
    Moves call result run run := ⟨.inl rfl, bindsOnce_refl _⟩

private theorem Creates.moves {command : CreateRunCommand} {newId : Identifier} {now : AwareDatetime}
    {result : MutationResult} {call : Call} (h : Creates hashing s command newId now result s')
    {o i : Identifier} {run : RotationRun} (hr : s.runs (o, i) = some run) :
    ∃ run', s'.runs (o, i) = some run' ∧ Moves call result run run' := by
  refine ⟨run, ?_, .refl run⟩
  rw [h.runs, Collection.set_of_ne, hr]
  intro he
  rw [he, show s.runs (command.organisationId, command.runId.getD newId) = none from h.new] at hr
  cases hr

private theorem Mutates.moves {machine : RotationMachine} {now : AwareDatetime} {command : RunCommand}
    {run updated other : RotationRun} {result : MutationResult} (hp : Placed s)
    (h : Mutates hashing s machine now command run updated result s') {o i : Identifier}
    (hr : s.runs (o, i) = some other) :
    ∃ run', s'.runs (o, i) = some run' ∧ Moves (.mutate machine now command) result other run' := by
  by_cases hk : (o, i) = (command.organisationId, command.runId)
  · cases hk
    obtain rfl : run = other := Option.some.inj (h.found.symm.trans hr)
    refine ⟨updated, by rw [h.runs, Collection.set_same], ?_, RotationMachine.perform_bindsOnce h.transition_ok⟩
    rcases RotationMachine.perform_stage h.transition_ok with ⟨_, hkeep⟩ | ⟨_, _, _, _, _, hop, hc⟩
    · exact .inl hkeep.stage
    · obtain ⟨c, rfl, _⟩ := operation_complete hop
      rcases RotationMachine.completesStage_cases hc with ⟨hn, _⟩ | ⟨hlast, hu, _⟩
      · obtain ⟨horg, hid⟩ := hp.run h.found
        refine .inr ⟨Stage.next?_index hn, ?_, ?_, machine, now, c, rfl, horg.symm, hid.symm⟩
        · rw [h.result_eq]
        · rw [h.result_eq]
      · exact .inl (hu.trans hlast.symm)
  · exact ⟨other, by rw [h.runs, Collection.set_of_ne hk, hr], .refl other⟩

/-- A run over a sequence of calls: its stage never goes back and what is bound stays bound. -/
structure Advances (run run' : RunFields) : Prop where
  stage : run.stage.index ≤ run'.stage.index
  browserPlaybookVersion : ∀ v, run.browserPlaybookVersion = some v → run'.browserPlaybookVersion = some v
  currentGenerationId : ∀ v, run.currentGenerationId = some v → run'.currentGenerationId = some v
  planId : ∀ v, run.planId = some v → run'.planId = some v
  planHash : ∀ v, run.planHash = some v → run'.planHash = some v
  targetGenerationId : ∀ v, run.targetGenerationId = some v → run'.targetGenerationId = some v
  deployments : ∀ v, RotationMachine.deployed run = some v → RotationMachine.deployed run' = some v

private theorem Advances.refl (run : RunFields) : Advances run run :=
  ⟨Nat.le_refl _, fun _ h => h, fun _ h => h, fun _ h => h, fun _ h => h, fun _ h => h, fun _ h => h⟩

private theorem Advances.trans {a b c : RunFields} (h : Advances a b) (k : Advances b c) : Advances a c where
  stage := Nat.le_trans h.stage k.stage
  browserPlaybookVersion v hv := k.browserPlaybookVersion v (h.browserPlaybookVersion v hv)
  currentGenerationId v hv := k.currentGenerationId v (h.currentGenerationId v hv)
  planId v hv := k.planId v (h.planId v hv)
  planHash v hv := k.planHash v (h.planHash v hv)
  targetGenerationId v hv := k.targetGenerationId v (h.targetGenerationId v hv)
  deployments v hv := k.deployments v (h.deployments v hv)

private theorem Moves.advances {call : Call} {result : MutationResult} {run run' : RotationRun}
    (h : Moves call result run run') : Advances run.toRunFields run'.toRunFields := by
  obtain ⟨hs, hb⟩ := h
  refine ⟨?_, fun _ => hb.browserPlaybookVersion.kept, fun _ => hb.currentGenerationId.kept,
    fun _ => hb.planId.kept, fun _ => hb.planHash.kept, fun _ => hb.targetGenerationId.kept,
    fun _ => hb.deployments.kept⟩
  rcases hs with hs | ⟨hs, _⟩
  · rw [hs]
  · rw [hs]
    exact Nat.le_succ _

private theorem perform_moves {call : Call} {result : MutationResult} (hp : Placed s)
    (h : (repository hashing).perform s call = .ok (result, s')) {o i : Identifier} {run : RotationRun}
    (hr : s.runs (o, i) = some run) : ∃ run', s'.runs (o, i) = some run' ∧ Moves call result run run' := by
  cases perform_effect h with
  | created _ _ _ _ effect => exact effect.moves hr
  | mutated machine now command old updated is_call effect =>
    subst is_call
    exact effect.moves hp hr
  | replayed _ unchanged => exact ⟨run, by rw [unchanged, hr], .refl run⟩

private theorem run_advances (hp : Placed s) (calls : List Call) {o i : Identifier} {run : RotationRun}
    (hr : s.runs (o, i) = some run) : ∃ run', ((repository hashing).run s calls).runs (o, i) = some run' ∧
      Advances run.toRunFields run'.toRunFields := by
  refine (repository hashing).run_relates (I := Placed)
    (R := fun s t => ∀ run, s.runs (o, i) = some run → ∃ run', t.runs (o, i) = some run' ∧
      Advances run.toRunFields run'.toRunFields) ?_ ?_ ?_ ?_ calls s hp run hr
  · exact fun _ _ _ _ => perform_placed
  · exact fun _ run hr => ⟨run, hr, .refl _⟩
  · intro a b c hab hbc run hr
    obtain ⟨run', hr', h1⟩ := hab run hr
    obtain ⟨run'', hr'', h2⟩ := hbc run' hr'
    exact ⟨run'', hr'', h1.trans h2⟩
  · intro a call result b hp h run hr
    obtain ⟨run', hr', hm⟩ := perform_moves hp h hr
    exact ⟨run', hr', hm.advances⟩

/-- An applied completion of a run, and the proof that it left in the run's record. -/
structure Completes (hashing : Hashing) (s s' : Store) (now : AwareDatetime) (c : CompleteStageCommand)
    (result : MutationResult) (run : RotationRun) : Prop where
  found : s.runs (c.organisationId, c.runId) = some run
  id : run.id = c.runId
  organisationId : run.organisationId = c.organisationId
  lease : ∃ lease, run.lease = some lease ∧ lease.fencingToken = c.fencingToken ∧ now < lease.expiresAt
  recorded : s'.steps (c.organisationId, c.runId, c.id) = some result.step
  proof : result.step.proof = some c.proof
  proof_run : c.proof.runId = run.id
  proof_organisation : c.proof.organisationId = run.organisationId
  proof_stage : c.proof.stage = run.stage
  checks : ∃ controls, Pins hashing s run controls ∧
    controls.definition.requiredChecks run.stage ⊆ c.proof.checks

private theorem Mutates.completes {machine : RotationMachine} {now : AwareDatetime} {c : CompleteStageCommand}
    {run updated : RotationRun} {result : MutationResult} (hp : Placed s)
    (h : Mutates hashing s machine now (.complete c) run updated result s') :
    Completes hashing s s' now c result run := by
  rcases RotationMachine.perform_stage h.transition_ok with ⟨hproof, _⟩ | ⟨_, _, _, _, _, hop, hc⟩
  · cases hproof
  · cases hop
    obtain ⟨horg, hid⟩ := hp.run h.found
    obtain ⟨lease, hlease, htoken, hlive⟩ := hc.controls.live
    obtain ⟨controls, hpins, hsub⟩ := h.gate c.proof rfl
    refine ⟨h.found, hid, horg, ⟨lease, hlease, htoken, hlive⟩, ?_, ?_, hc.proof_run, hc.proof_organisation,
      hc.proof_stage, controls, hpins, hc.proof_stage ▸ hsub⟩
    · rw [h.steps, h.result_eq]
      exact Collection.set_same ..
    · rw [h.result_eq]
      rfl

/-- What stage gating guarantees in a state. -/
structure StageGating (hashing : Hashing) (s : Store) : Prop where
  /-- A stored run moves at most one stage, by an applied completion, and binds in its own stages. -/
  moves : ∀ call result s', (repository hashing).perform s call = .ok (result, s') → ∀ o i run,
    s.runs (o, i) = some run → ∃ run', s'.runs (o, i) = some run' ∧ Moves call result run run'
  /-- Every applied completion held the live lease and presented an admissible proof. -/
  completes : ∀ machine now c result s', mutateRun hashing s machine now (.complete c) = .ok (result, s') →
    result.applied = true → ∃ run, Completes hashing s s' now c result run
  /-- No later state takes a stage or a binding back. -/
  advances : ∀ calls o i run, s.runs (o, i) = some run →
    ∃ run', ((repository hashing).run s calls).runs (o, i) = some run' ∧ Advances run.toRunFields run'.toRunFields
  bound : ∀ o i run, s.runs (o, i) = some run → RotationMachine.BoundPast run.toRunFields
  /-- A completed run has exactly one proof for each stage. -/
  completed : ∀ o i run, s.runs (o, i) = some run → run.status = .completed →
    ∀ stage, ∃! c, ∃ t p, Proves s o i c t p ∧ p.stage = stage
  /-- The proofs of a run are admissible and follow the order of the stages. -/
  admitted : ∀ o i run c t p, s.runs (o, i) = some run → Proves s o i c t p → Admits hashing s run p
  ordered : ∀ o i c c' t t' p p', Proves s o i c t p → Proves s o i c' t' p' →
    (t.revision < t'.revision ↔ p.stage.index < p'.stage.index)

private theorem Gated.ordered_iff (hg : Gated hashing s) {o i c c' : Identifier} {t t' : RunStep}
    {p p' : StageProof} (h : Proves s o i c t p) (h' : Proves s o i c' t' p') :
    t.revision < t'.revision ↔ p.stage.index < p'.stage.index := by
  refine ⟨fun hlt => ?_, hg.ordered h h'⟩
  rcases Nat.lt_trichotomy p.stage.index p'.stage.index with hs | hs | hs
  · exact hs
  · obtain rfl := hg.once h h' (Stage.index_injective hs)
    rw [Option.some.inj (h.1.symm.trans h'.1)] at hlt
    exact absurd hlt (Nat.lt_irrefl _)
  · exact absurd hlt (Nat.lt_asymm (hg.ordered h' h hs))

/-- Stage gating in every reachable state. -/
theorem stage_gating (h : (repository hashing).Reachable Initial s) : StageGating hashing s := by
  obtain ⟨⟨hp, hl, -⟩, hg⟩ := reachable_gated h
  refine ⟨?_, ?_, ?_, ?_, ?_, ?_, ?_⟩
  · intro call result s' hc o i run hr
    exact perform_moves hp hc hr
  · intro machine now c result s' hm happ
    rcases mutate_ok.mp hm with ⟨run, updated, hm⟩ | hr
    · exact ⟨run, Mutates.completes hp hm⟩
    · rw [hr.unapplied] at happ
      cases happ
  · intro calls o i run hr
    exact run_advances hp calls hr
  · intro o i run hr
    exact hg.bound hr
  · intro o i run hr hc stage
    obtain ⟨c, t, p, hprov, hstage⟩ := hg.proved hr (.inr hc : Passed run.toRunFields stage)
    refine ⟨c, ⟨t, p, hprov, hstage⟩, ?_⟩
    rintro c' ⟨t', p', hprov', hstage'⟩
    exact hg.once hprov' hprov (hstage'.trans hstage.symm)
  · intro o i run c t p hr hprov
    exact (hg.admitted hr hprov).2
  · intro o i c c' t t' p p' h1 h2
    exact hg.ordered_iff h1 h2

/-- The gating of the sample run after its start. -/
theorem stage_gating_sample : StageGating Hashing.sample sampleStarted :=
  stage_gating sampleStarted_reachable

end Uumi.Workflow
