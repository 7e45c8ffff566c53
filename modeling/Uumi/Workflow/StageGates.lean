import Uumi.State.Bindings
import Uumi.Workflow.CommandLog
import Uumi.Workflow.CredentialLock

/-! Stage gates: the proofs that the steps of a run record are those of the stages that the run
has left, one for each, in stage order, and each was checked against the pinned controls. -/
namespace Uumi.Workflow
open Uumi.Contracts Uumi.Core Uumi.Foundations Uumi.Policy Uumi.State Uumi.Storage

variable {hashing : Hashing} {s s' : Store}

def Passed (run : RunFields) (stage : Stage) : Prop :=
  stage.index < run.stage.index ∨ run.status = .completed

/-- The command of a run has a step with this proof. -/
def Proves (s : Store) (o i c : Identifier) (t : RunStep) (p : StageProof) : Prop :=
  s.steps (o, i, c) = some t ∧ t.proof = some p

/-- A proof that the gate of a run let pass. -/
structure Admits (hashing : Hashing) (s : Store) (run : RotationRun) (p : StageProof) : Prop where
  runId : p.runId = run.id
  organisationId : p.organisationId = run.organisationId
  checks : ∃ controls, Pins hashing s run controls ∧ controls.definition.requiredChecks p.stage ⊆ p.checks

structure Gated (hashing : Hashing) (s : Store) : Prop where
  bound : ∀ {o i run}, s.runs (o, i) = some run → RotationMachine.BoundPast run.toRunFields
  /-- Every stage that a run has left is proved. -/
  proved : ∀ {o i run stage}, s.runs (o, i) = some run → Passed run.toRunFields stage →
    ∃ c t p, Proves s o i c t p ∧ p.stage = stage
  /-- Every recorded proof is one of a stage that its run has left, and was admitted. -/
  admitted : ∀ {o i run c t p}, s.runs (o, i) = some run → Proves s o i c t p →
    Passed run.toRunFields p.stage ∧ Admits hashing s run p
  /-- No stage is proved twice. -/
  once : ∀ {o i c c' t t' p p'}, Proves s o i c t p → Proves s o i c' t' p' → p.stage = p'.stage → c = c'
  /-- Stages are proved in their order. -/
  ordered : ∀ {o i c c' t t' p p'}, Proves s o i c t p → Proves s o i c' t' p' →
    p.stage.index < p'.stage.index → t.revision < t'.revision

private theorem initial_gated (h : Initial s) : Gated hashing s := by
  obtain ⟨hr, hs, -⟩ := h
  have norun {k : Identifier × Identifier} {run : RotationRun} : s.runs k ≠ some run := by
    simp [hr, Collection.empty]
  have nostep {o i c : Identifier} {t : RunStep} {p : StageProof} : ¬ Proves s o i c t p := by
    rintro ⟨h, _⟩
    simp [hs, Collection.empty] at h
  exact ⟨fun h => absurd h norun, fun h => absurd h norun, fun h => absurd h norun,
    fun h => absurd h nostep, fun h => absurd h nostep⟩

private theorem Pins.transfer {run updated : RotationRun} {controls : ControlVersion}
    (h : Pins hashing s run controls) (hc : s'.controls = s.controls)
    (ho : updated.organisationId = run.organisationId) (hd : updated.credentialId = run.credentialId)
    (hv : updated.controlVersion = run.controlVersion) : Pins hashing s' updated controls := by
  obtain ⟨h1, h2, h3, h4, h5⟩ := h
  exact ⟨by rw [hc, ho, hd, hv, h1], h2.trans ho.symm, h3.trans hd.symm, h4.trans hv.symm, h5⟩

private theorem Admits.transfer {run updated : RotationRun} {p : StageProof} (h : Admits hashing s run p)
    (hc : s'.controls = s.controls) (hs : Succeeds run.toRunFields updated.toRunFields) :
    Admits hashing s' updated p := by
  obtain ⟨hr, ho, controls, hp, hsub⟩ := h
  exact ⟨hr.trans hs.id.symm, ho.trans hs.organisationId.symm, controls,
    Pins.transfer hp hc hs.organisationId hs.credentialId hs.controlVersion, hsub⟩

private theorem Admits.keep {run : RotationRun} {p : StageProof} (h : Admits hashing s run p)
    (hc : s'.controls = s.controls) : Admits hashing s' run p := by
  obtain ⟨hr, ho, controls, hp, hsub⟩ := h
  exact ⟨hr, ho, controls, Pins.transfer hp hc rfl rfl rfl, hsub⟩

private theorem proves_set {o i c : Identifier} {t : RunStep} (hs : s'.steps = s.steps.set (o, i, c) t)
    {o' i' c' : Identifier} {t' : RunStep} {p : StageProof} (h : Proves s' o' i' c' t' p) :
    (o' = o ∧ i' = i ∧ c' = c ∧ t' = t ∧ t.proof = some p) ∨ Proves s o' i' c' t' p := by
  obtain ⟨ht, hp⟩ := h
  rw [hs, Collection.set_eq_some] at ht
  rcases ht with ⟨hk, rfl⟩ | ⟨_, ht⟩
  · cases hk
    exact .inl ⟨rfl, rfl, rfl, rfl, hp⟩
  · exact .inr ⟨ht, hp⟩

private theorem proves_kept {o i c : Identifier} {t : RunStep} (hs : s'.steps = s.steps.set (o, i, c) t)
    (new : s.steps (o, i, c) = none) {o' i' c' : Identifier} {t' : RunStep} {p : StageProof}
    (h : Proves s o' i' c' t' p) : Proves s' o' i' c' t' p := by
  obtain ⟨ht, hp⟩ := h
  refine ⟨?_, hp⟩
  rw [hs, Collection.set_of_ne, ht]
  intro he
  rw [he, new] at ht
  cases ht

private theorem proves_iff {o i c : Identifier} {t : RunStep} (hs : s'.steps = s.steps.set (o, i, c) t)
    (new : s.steps (o, i, c) = none) (hp : t.proof = none) {o' i' c' : Identifier} {t' : RunStep}
    {p : StageProof} : Proves s' o' i' c' t' p ↔ Proves s o' i' c' t' p := by
  refine ⟨fun h => ?_, proves_kept hs new⟩
  rcases proves_set hs h with ⟨_, _, _, _, ht⟩ | h
  · rw [hp] at ht
    cases ht
  · exact h

/-- A creation proves no stage. -/
theorem Gated.create {command : CreateRunCommand} {newId : Identifier} {now : AwareDatetime}
    {result : MutationResult} (hp : Placed s) (hl : Logged s) (hg : Gated hashing s)
    (h : Creates hashing s command newId now result s') : Gated hashing s' := by
  have new := hl.unannounced h.unused (command.runId.getD newId)
  have iff {o i c t p} : Proves s' o i c t p ↔ Proves s o i c t p := proves_iff h.steps new rfl
  refine ⟨?_, ?_, ?_, ?_, ?_⟩
  · intro o i run hr
    rw [h.runs, Collection.set_eq_some] at hr
    rcases hr with ⟨_, rfl⟩ | ⟨_, hr⟩
    · constructor <;> simp [buildRun, Stage.index] <;> decide
    · exact hg.bound hr
  · intro o i run stage hr hpass
    rw [h.runs, Collection.set_eq_some] at hr
    rcases hr with ⟨_, rfl⟩ | ⟨_, hr⟩
    · -- a new run has left no stage
      exact absurd hpass (not_or.mpr ⟨Nat.not_lt_zero _, nofun⟩)
    · obtain ⟨c, t, p, hprov, hstage⟩ := hg.proved hr hpass
      exact ⟨c, t, p, iff.mpr hprov, hstage⟩
  · intro o i run c t p hr hprov
    rw [h.runs, Collection.set_eq_some] at hr
    rcases hr with ⟨hk, rfl⟩ | ⟨_, hr⟩
    · cases hk
      obtain ⟨r, hr⟩ := hp.owner (iff.mp hprov).1
      rw [show s.runs (command.organisationId, command.runId.getD newId) = none from h.new] at hr
      cases hr
    · obtain ⟨hpass, hadm⟩ := hg.admitted hr (iff.mp hprov)
      exact ⟨hpass, hadm.keep h.controls⟩
  · intro o i c c' t t' p p' h1 h2
    exact hg.once (iff.mp h1) (iff.mp h2)
  · intro o i c c' t t' p p' h1 h2
    exact hg.ordered (iff.mp h1) (iff.mp h2)

section
variable {machine : RotationMachine} {now : AwareDatetime} {command : RunCommand}
  {run updated : RotationRun} {result : MutationResult}

/-- No mutation applies to a completed run. -/
theorem Mutates.not_completed (hp : Placed s) (hl : Locked s)
    (h : Mutates hashing s machine now command run updated result s') : run.status ≠ .completed := by
  intro hc
  rcases h.lock with hh | ⟨_, hf⟩
  · have owned := hl.demand_of_holds hp h.found hh
    rw [demand, h.found, Option.bind_some, demandOf, hc] at owned
    cases owned
  · rw [hc] at hf
    cases hf

private theorem operation_proof : (operation now command).proof = stageProof command := by
  cases command <;> rfl

/-- The stages that a run has left after a completion: those before and the completed one. -/
theorem passed_completes_iff {proof : StageProof} {token revision : Nat} {bindings : StageBindings}
    (h : CompletesStage run updated proof token revision now bindings) (stage : Stage) :
    Passed updated.toRunFields stage ↔ Passed run.toRunFields stage ∨ stage = run.stage := by
  have hrun : run.status ≠ .completed := by
    rw [h.running]
    nofun
  rcases RotationMachine.completesStage_cases h with ⟨hn, hs⟩ | ⟨hlast, hu, hs⟩
  · have hnot : updated.status ≠ .completed := by
      rw [hs]
      nofun
    rw [Passed, Passed, Stage.next?_index hn, or_iff_left hnot, or_iff_left hrun, Nat.lt_succ_iff_lt_or_eq]
    exact or_congr_right ⟨fun he => Stage.index_injective he, fun he => congrArg Stage.index he⟩
  · refine iff_of_true (.inr hs) ?_
    rcases Nat.lt_or_eq_of_le stage.index_le_complete with hlt | heq
    · exact .inl (.inl (by rwa [hlast]))
    · exact .inr ((Stage.index_injective heq).trans hlast.symm)

private theorem Gated.mutate_plain (hp : Placed s) (hlock : Locked s) (hg : Gated hashing s)
    (h : Mutates hashing s machine now command run updated result s') (hproof : stageProof command = none)
    (hk : KeepsStage run.toRunFields updated.toRunFields) : Gated hashing s' := by
  have hs := h.succeeds
  have iff {o i c t p} : Proves s' o i c t p ↔ Proves s o i c t p := proves_iff h.steps h.new hproof
  have hpass (stage : Stage) : Passed updated.toRunFields stage ↔ Passed run.toRunFields stage := by
    have hn : updated.status ≠ .completed := fun hc => h.not_completed hp hlock (hk.completed hc)
    rw [Passed, Passed, hk.stage, or_iff_left hn, or_iff_left (h.not_completed hp hlock)]
  refine ⟨?_, ?_, ?_, ?_, ?_⟩
  · intro o i r hr
    rw [h.runs, Collection.set_eq_some] at hr
    rcases hr with ⟨_, rfl⟩ | ⟨_, hr⟩
    · exact RotationMachine.perform_boundPast (hg.bound h.found) h.transition_ok
    · exact hg.bound hr
  · intro o i r stage hr hps
    rw [h.runs, Collection.set_eq_some] at hr
    rcases hr with ⟨hkey, rfl⟩ | ⟨_, hr⟩
    · cases hkey
      obtain ⟨c, t, p, hprov, hstage⟩ := hg.proved h.found ((hpass stage).mp hps)
      exact ⟨c, t, p, iff.mpr hprov, hstage⟩
    · obtain ⟨c, t, p, hprov, hstage⟩ := hg.proved hr hps
      exact ⟨c, t, p, iff.mpr hprov, hstage⟩
  · intro o i r c t p hr hprov
    rw [h.runs, Collection.set_eq_some] at hr
    rcases hr with ⟨hkey, rfl⟩ | ⟨_, hr⟩
    · cases hkey
      obtain ⟨hps, hadm⟩ := hg.admitted h.found (iff.mp hprov)
      exact ⟨(hpass p.stage).mpr hps, hadm.transfer h.controls hs⟩
    · obtain ⟨hps, hadm⟩ := hg.admitted hr (iff.mp hprov)
      exact ⟨hps, hadm.keep h.controls⟩
  · intro o i c c' t t' p p' h1 h2
    exact hg.once (iff.mp h1) (iff.mp h2)
  · intro o i c c' t t' p p' h1 h2
    exact hg.ordered (iff.mp h1) (iff.mp h2)

private theorem Gated.mutate_complete (hp : Placed s) (hlock : Locked s) (hlog : Logged s)
    (hg : Gated hashing s) (h : Mutates hashing s machine now command run updated result s')
    {proof : StageProof} {token revision : Nat} {at' : AwareDatetime} {bindings : StageBindings}
    (hproof : stageProof command = some proof)
    (hc : CompletesStage run updated proof token revision at' bindings) : Gated hashing s' := by
  have hs := h.succeeds
  have hnot : ¬ Passed run.toRunFields run.stage :=
    not_or.mpr ⟨Nat.lt_irrefl _, h.not_completed hp hlock⟩
  -- a proof of the grown log is the new one or one of a stage that was left before
  have cases {o i c t p} (hprov : Proves s' o i c t p) :
      (o = command.organisationId ∧ i = command.runId ∧ c = command.id ∧ p = proof ∧
        t.revision = run.revision + 1) ∨ Proves s o i c t p := by
    rcases proves_set h.steps hprov with ⟨ho, hi, hcm, ht, hpr⟩ | hold
    · refine .inl ⟨ho, hi, hcm, ?_, ?_⟩
      · exact Option.some.inj (hpr.symm.trans hproof)
      · rw [ht]
        exact h.bumped
    · exact .inr hold
  have old {c t p} (hprov : Proves s command.organisationId command.runId c t p) :
      Passed run.toRunFields p.stage ∧ t.revision < run.revision + 1 := by
    refine ⟨(hg.admitted h.found hprov).1, Nat.lt_succ_of_le ?_⟩
    exact (hlog.dense h.found).bounded c _ (by rw [recorded, hprov.1]; rfl)
  have newProof : Proves s' command.organisationId command.runId command.id
      (mutateStep hashing run updated command (stageProof command)) proof :=
    ⟨by rw [h.steps, Collection.set_same], hproof⟩
  refine ⟨?_, ?_, ?_, ?_, ?_⟩
  · intro o i r hr
    rw [h.runs, Collection.set_eq_some] at hr
    rcases hr with ⟨_, rfl⟩ | ⟨_, hr⟩
    · exact RotationMachine.perform_boundPast (hg.bound h.found) h.transition_ok
    · exact hg.bound hr
  · intro o i r stage hr hps
    rw [h.runs, Collection.set_eq_some] at hr
    rcases hr with ⟨hkey, rfl⟩ | ⟨_, hr⟩
    · cases hkey
      rcases (passed_completes_iff hc stage).mp hps with hps | rfl
      · obtain ⟨c, t, p, hprov, hstage⟩ := hg.proved h.found hps
        exact ⟨c, t, p, proves_kept h.steps h.new hprov, hstage⟩
      · exact ⟨_, _, proof, newProof, hc.proof_stage⟩
    · obtain ⟨c, t, p, hprov, hstage⟩ := hg.proved hr hps
      exact ⟨c, t, p, proves_kept h.steps h.new hprov, hstage⟩
  · intro o i r c t p hr hprov
    rw [h.runs, Collection.set_eq_some] at hr
    rcases hr with ⟨hkey, rfl⟩ | ⟨hkey, hr⟩
    · cases hkey
      rcases cases hprov with ⟨_, _, _, rfl, _⟩ | hold
      · refine ⟨(passed_completes_iff hc _).mpr (.inr hc.proof_stage), ?_, ?_, ?_⟩
        · exact hc.proof_run.trans hs.id.symm
        · exact hc.proof_organisation.trans hs.organisationId.symm
        · obtain ⟨controls, hpins, hsub⟩ := h.gate p hproof
          exact ⟨controls, Pins.transfer hpins h.controls hs.organisationId hs.credentialId hs.controlVersion,
            hsub⟩
      · obtain ⟨hps, hadm⟩ := hg.admitted h.found hold
        exact ⟨(passed_completes_iff hc _).mpr (.inl hps), hadm.transfer h.controls hs⟩
    · rcases cases hprov with ⟨rfl, rfl, _⟩ | hold
      · exact absurd rfl hkey
      · obtain ⟨hps, hadm⟩ := hg.admitted hr hold
        exact ⟨hps, hadm.keep h.controls⟩
  · intro o i c c' t t' p p' h1 h2 he
    rcases cases h1 with ⟨rfl, rfl, rfl, rfl, _⟩ | o1
    · rcases cases h2 with ⟨_, _, rfl, _⟩ | o2
      · rfl
      · rw [hc.proof_stage] at he
        exact absurd (he ▸ (old o2).1) hnot
    · rcases cases h2 with ⟨rfl, rfl, rfl, rfl, _⟩ | o2
      · rw [hc.proof_stage] at he
        exact absurd (he ▸ (old o1).1) hnot
      · exact hg.once o1 o2 he
  · intro o i c c' t t' p p' h1 h2 hlt
    rcases cases h1 with ⟨rfl, rfl, rfl, rfl, hrev⟩ | o1
    · rcases cases h2 with ⟨_, _, _, rfl, _⟩ | o2
      · exact absurd hlt (Nat.lt_irrefl _)
      · -- an old proof is one of a stage before the completed one
        rw [hc.proof_stage] at hlt
        have hps := (old o2).1.resolve_right (h.not_completed hp hlock)
        exact absurd hps (Nat.lt_asymm hlt)
    · rcases cases h2 with ⟨rfl, rfl, rfl, rfl, hrev⟩ | o2
      · rw [hrev]
        exact (old o1).2
      · exact hg.ordered o1 o2 hlt

/-- A mutation proves the stage that it leaves. -/
theorem Gated.mutate (hp : Placed s) (hlock : Locked s) (hlog : Logged s) (hg : Gated hashing s)
    (h : Mutates hashing s machine now command run updated result s') : Gated hashing s' := by
  rcases RotationMachine.perform_stage h.transition_ok with ⟨hproof, hk⟩ | ⟨proof, token, revision, now', bindings, hop, hc⟩
  · rw [operation_proof] at hproof
    exact hg.mutate_plain hp hlock h hproof hk
  · have hproof := congrArg Operation.proof hop
    rw [operation_proof] at hproof
    exact hg.mutate_complete hp hlock hlog h hproof hc

end

/-- In every reachable store the stages that a run has left are proven. -/
theorem reachable_gated (h : (repository hashing).Reachable Initial s) :
    (Placed s ∧ Locked s ∧ Logged s) ∧ Gated hashing s :=
  reachable_invariant (I := fun s => (Placed s ∧ Locked s ∧ Logged s) ∧ Gated hashing s)
    (fun _ h => ⟨⟨initial_placed h, initial_locked h, initial_logged h⟩, initial_gated h⟩)
    (fun _ _ _ _ _ _ hi hc => by
      obtain ⟨⟨hp, hl, hlog⟩, hg⟩ := hi
      exact ⟨⟨hp.create hc, hl.create hc, hlog.create hp hc⟩, hg.create hp hlog hc⟩)
    (fun _ _ _ _ _ _ _ _ hi hm => by
      obtain ⟨⟨hp, hl, hlog⟩, hg⟩ := hi
      exact ⟨⟨hp.mutate hm, hl.mutate hp hm, hlog.mutate hm⟩, hg.mutate hp hl hlog hm⟩) h

end Uumi.Workflow
