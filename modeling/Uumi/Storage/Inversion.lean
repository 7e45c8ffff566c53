import Uumi.State.Inversion
import Uumi.Storage.Runs

/-! What a successful transaction of the run repository did. -/
namespace Uumi.Storage
open Uumi.Contracts Uumi.Core Uumi.Foundations Uumi.Policy

section
variable {hashing : Hashing} {store store' : Store} {run updated : RotationRun} {result : MutationResult}

@[simp] theorem tenant_ok {organisationId : Identifier} :
    tenant run organisationId = .ok () ↔ run.organisationId = organisationId := by
  simp [tenant]

/-- The stored control version that a run pins, with an intact digest. -/
structure Pins (hashing : Hashing) (store : Store) (run : RotationRun) (controls : ControlVersion) :
    Prop where
  stored : store.controls (run.organisationId, run.credentialId, run.controlVersion) = some controls
  organisationId : controls.organisationId = run.organisationId
  credentialId : controls.credentialId = run.credentialId
  id : controls.id = run.controlVersion
  digest : controls.digest = hashing.digest (definitionPayload controls.definition.toControlFields)

/-- The controls that a run is pinned to are the stored ones with their checksum. -/
theorem pinnedControls_ok {controls : ControlVersion} {missing mutable : String} :
    pinnedControls hashing store run missing mutable = .ok controls ↔ Pins hashing store run controls := by
  simp only [pinnedControls, required_bind_ok, unit_bind_ok, raiseIf_ok, not_or, not_not, pure_ok]
  constructor
  · rintro ⟨controls, hs, ⟨ho, hc, hi, hd⟩, rfl⟩
    exact ⟨hs, ho, hc, hi, hd⟩
  · rintro ⟨hs, ho, hc, hi, hd⟩
    exact ⟨controls, hs, ⟨ho, hc, hi, hd⟩, rfl⟩

private theorem existingCreate_ok {dedupe : DedupeDocument} {organisationId : Identifier} {requestHash : Digest} :
    existingCreate store dedupe organisationId requestHash = .ok result ↔
      dedupe.requestHash = requestHash ∧ store.runs (organisationId, dedupe.runId) = some result.run ∧
      store.steps (organisationId, dedupe.runId, dedupe.stepId) = some result.step ∧
      result.run.organisationId = organisationId ∧ result.applied = false := by
  simp only [existingCreate, unit_bind_ok, required_bind_ok, raiseIf_ok, not_not, tenant_ok, pure_ok]
  constructor
  · rintro ⟨hh, run, hr, step, hs, ht, rfl⟩
    exact ⟨hh, hr, hs, ht, rfl⟩
  · rintro ⟨hh, hr, hs, ht, ha⟩
    refine ⟨hh, result.run, hr, result.step, hs, ht, ?_⟩
    rw [← ha]

private theorem replay_ok {command : RunCommand} {step : RunStep} :
    replay hashing store command step = .ok result ↔
      step.commandHash = mutationHash hashing command ∧
      store.runs (command.organisationId, command.runId) = some result.run ∧
      result.run.organisationId = command.organisationId ∧ result.step = step ∧ result.applied = false := by
  simp only [replay, unit_bind_ok, required_bind_ok, raiseIf_ok, not_not, tenant_ok, pure_ok]
  constructor
  · rintro ⟨hh, run, hr, ht, rfl⟩
    exact ⟨hh, hr, ht, rfl, rfl⟩
  · rintro ⟨hh, hr, ht, rfl, ha⟩
    refine ⟨hh, result.run, hr, ht, ?_⟩
    rw [← ha]

def sourceKey (hashing : Hashing) (run : RotationRun) : Identifier × Digest :=
  (run.organisationId, dedupeSegment hashing run.trigger.source.value run.trigger.eventId.value)

/-- The run has what its create command asks for. -/
structure Matches (run : RotationRun) (command : CreateRunCommand) : Prop where
  organisationId : run.organisationId = command.organisationId
  credentialId : run.credentialId = command.credentialId
  controlVersion : run.controlVersion = command.controlVersion
  trigger : run.trigger = command.trigger
  id : ∀ id ∈ command.runId, run.id = id

/-- A creation is validated when it agrees with the run that it makes. -/
theorem validateCreate_ok {command : CreateRunCommand} :
    validateCreate run command = .ok () ↔ Matches run command := by
  simp only [validateCreate, raiseIf_ok, not_or, not_not]
  constructor
  · rintro ⟨ho, hc, hv, ht, hi⟩
    refine ⟨ho, hc, hv, ht, ?_⟩
    rintro id hid
    rw [Option.mem_def.mp hid] at hi
    exact hi
  · rintro ⟨ho, hc, hv, ht, hi⟩
    refine ⟨ho, hc, hv, ht, ?_⟩
    cases h : command.runId with
    | none => rfl
    | some id => exact hi id h

/-- A create command that took effect. -/
structure Created (hashing : Hashing) (store : Store) (run : RotationRun) (command : CreateRunCommand)
    (result : MutationResult) (store' : Store) : Prop where
  agrees : Matches run command
  unseen : store.dedupe (sourceKey hashing run) = none
  unlocked : store.locks (run.organisationId, run.credentialId) = none
  new : store.runs (run.organisationId, run.id) = none
  unused : store.outbox (run.organisationId, command.id) = none
  pinned : ∃ controls, Pins hashing store run controls
  result_eq : result = { run := run, step := createStep hashing run command, applied := true }
  store_eq : store' = store.commitCreate hashing run command

/-- A create command whose source event was accepted before. -/
structure Deduplicated (hashing : Hashing) (store : Store) (run : RotationRun)
    (command : CreateRunCommand) (result : MutationResult) (store' : Store) : Prop where
  agrees : Matches run command
  recorded : ∃ dedupe, store.dedupe (sourceKey hashing run) = some dedupe ∧
    dedupe.requestHash = creationHash hashing command ∧
    store.runs (run.organisationId, dedupe.runId) = some result.run ∧
    store.steps (run.organisationId, dedupe.runId, dedupe.stepId) = some result.step
  organisationId : result.run.organisationId = run.organisationId
  unapplied : result.applied = false
  store_eq : store' = store

/-- A create call succeeds exactly by taking effect or by recognising its source event. -/
theorem create_ok {command : CreateRunCommand} :
    create hashing store run command = .ok (result, store') ↔
      Created hashing store run command result store' ∨
        Deduplicated hashing store run command result store' := by
  simp only [create, unit_bind_ok, validateCreate_ok]
  cases hd : store.dedupe (sourceKey hashing run) with
  | none =>
    rw [show store.dedupe (run.organisationId, _) = none from hd]
    simp only [unit_bind_ok, absent_ok]
    rw [bind_ok]
    simp only [pinnedControls_ok, pure_ok, Prod.mk.injEq]
    constructor
    · rintro ⟨hm, hl, hr, ho, controls, hp, rfl, rfl⟩
      exact .inl ⟨hm, hd, hl, hr, ho, ⟨controls, hp⟩, rfl, rfl⟩
    · rintro (⟨hm, _, hl, hr, ho, ⟨controls, hp⟩, rfl, rfl⟩ | ⟨_, ⟨dedupe, hs, _⟩, _, _, _⟩)
      · exact ⟨hm, hl, hr, ho, controls, hp, rfl, rfl⟩
      · rw [hd] at hs
        cases hs
  | some dedupe =>
    rw [show store.dedupe (run.organisationId, _) = some dedupe from hd]
    simp only [bind_ok, existingCreate_ok, pure_ok, Prod.mk.injEq]
    constructor
    · rintro ⟨hm, result', ⟨hh, hr, hs, ht, ha⟩, rfl, rfl⟩
      exact .inr ⟨hm, ⟨dedupe, hd, hh, hr, hs⟩, ht, ha, rfl⟩
    · rintro (⟨_, hs, _⟩ | ⟨hm, ⟨dedupe', hs, hh, hr, hp⟩, ht, ha, rfl⟩)
      · rw [hd] at hs
        cases hs
      · rw [hd] at hs
        cases hs
        exact ⟨hm, result, ⟨hh, hr, hp, ht, ha⟩, rfl, rfl⟩

/-- A command that took effect. -/
structure Mutated (hashing : Hashing) (store : Store) (command : RunCommand) (kind : EventKind)
    (transition : Transition) (proof : Option StageProof) (run updated : RotationRun)
    (result : MutationResult) (store' : Store) : Prop where
  new : store.steps (command.organisationId, command.runId, command.id) = none
  unused : store.outbox (command.organisationId, command.id) = none
  found : store.runs (command.organisationId, command.runId) = some run
  organisationId : run.organisationId = command.organisationId
  revision : run.revision = command.expectedRevision
  lock : HoldsLock store command.organisationId run ∨ (command.operation = "cancel" ∧ run.status = .failed)
  gate : ∀ p ∈ proof, ∃ controls, Pins hashing store run controls ∧
    controls.definition.requiredChecks p.stage ⊆ p.checks
  transition_ok : transition run = .ok updated
  same_organisation : updated.organisationId = command.organisationId
  same_run : updated.id = run.id
  bumped : updated.revision = run.revision + 1
  result_eq : result =
    { run := updated, step := mutateStep hashing run updated command proof, applied := true }
  store_eq : store' = store.commitMutation hashing run updated command kind proof

/-- A command that the run has a step for. -/
structure Replayed (hashing : Hashing) (store : Store) (command : RunCommand) (result : MutationResult)
    (store' : Store) : Prop where
  recorded : store.steps (command.organisationId, command.runId, command.id) = some result.step
  same : result.step.commandHash = mutationHash hashing command
  found : store.runs (command.organisationId, command.runId) = some result.run
  organisationId : result.run.organisationId = command.organisationId
  unapplied : result.applied = false
  store_eq : store' = store

/-- A proof is checked against the required checks of its stage in the pinned controls. -/
theorem checkProof_ok {proof : Option StageProof} : checkProof hashing store run proof = .ok () ↔
    ∀ p ∈ proof, ∃ controls, Pins hashing store run controls ∧
      controls.definition.requiredChecks p.stage ⊆ p.checks := by
  cases proof with
  | none => simp [checkProof]
  | some p =>
    simp only [checkProof, bind_ok, pinnedControls_ok, GatePolicy.validate_ok, Option.mem_def,
      Option.some.injEq, forall_eq']
    rfl

/-- A transition stays with the run, one revision further. -/
theorem validateTransition_ok {organisationId : Identifier} :
    validateTransition run updated organisationId = .ok () ↔
      updated.organisationId = organisationId ∧ updated.id = run.id ∧
        updated.revision = run.revision + 1 := by
  simp only [validateTransition, unit_bind_ok, raiseIf_ok, not_or, not_not, and_assoc]

/-- A mutation succeeds exactly by taking effect or by recognising its own earlier effect. -/
theorem mutate_ok {command : RunCommand} {kind : EventKind} {transition : Transition}
    {proof : Option StageProof} : mutate hashing store command kind transition proof = .ok (result, store') ↔
      (∃ run updated, Mutated hashing store command kind transition proof run updated result store') ∨
        Replayed hashing store command result store' := by
  unfold mutate
  cases hs : store.steps (command.organisationId, command.runId, command.id) with
  | none =>
    simp only [unit_bind_ok, required_bind_ok, absent_ok, tenant_ok, raiseIf_ok, not_not, checkProof_ok]
    constructor
    · rintro ⟨ho, run, hr, ht, hv, hl, hg, h⟩
      rw [bind_ok] at h
      obtain ⟨updated, hu, h⟩ := h
      simp only [unit_bind_ok, validateTransition_ok, pure_ok, Prod.mk.injEq] at h
      obtain ⟨⟨h1, h2, h3⟩, rfl, rfl⟩ := h
      refine .inl ⟨run, updated, hs, ho, hr, ht, hv, ?_, hg, hu, h1, h2, h3, rfl, rfl⟩
      by_contra hn
      exact hl (not_or.mp hn)
    · rintro (⟨run, updated, _, ho, hr, ht, hv, hl, hg, hu, h1, h2, h3, rfl, rfl⟩ | ⟨hr, _⟩)
      · refine ⟨ho, run, hr, ht, hv, not_and_or.mpr ?_, hg, ?_⟩
        · exact hl.imp not_not.mpr not_not.mpr
        · rw [hu, ok_bind]
          simp only [unit_bind_ok, validateTransition_ok, pure_ok]
          exact ⟨⟨h1, h2, h3⟩, trivial⟩
      · rw [hs] at hr
        cases hr
  | some step =>
    simp only [bind_ok, replay_ok, pure_ok, Prod.mk.injEq]
    constructor
    · rintro ⟨result', ⟨hh, hr, ht, rfl, ha⟩, rfl, rfl⟩
      exact .inr ⟨hs, hh, hr, ht, ha, rfl⟩
    · rintro (⟨_, _, hn, _⟩ | ⟨hr, hh, hf, ht, ha, rfl⟩)
      · rw [hs] at hn
        cases hn
      · rw [hs] at hr
        cases hr
        exact ⟨result, ⟨hh, hf, ht, rfl, ha⟩, rfl, rfl⟩

end
end Uumi.Storage
