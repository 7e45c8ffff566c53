import Uumi.Foundations.DenseLog
import Uumi.Workflow.Effects

/-! The command log: steps and events grow together, one for each revision of a run, and no
document of the log ever changes. -/
namespace Uumi.Workflow
open Uumi.Contracts Uumi.Core Uumi.Foundations Uumi.Policy Uumi.State Uumi.Storage

variable {hashing : Hashing} {s s' : Store}

/-- An event announces what a step recorded. -/
structure Announces (event : RunEvent) (step : RunStep) : Prop where
  id : event.id = step.id
  organisationId : event.organisationId = step.organisationId
  runId : event.runId = step.runId
  revision : event.revision = step.revision
  stage : event.stage = step.afterStage
  status : event.status = step.afterStatus
  actorId : event.actorId = step.actorId
  occurredAt : event.occurredAt = step.recordedAt

def recorded (s : Store) (key : Identifier × Identifier) (command : Identifier) : Option Nat :=
  (s.steps (key.1, key.2, command)).map RunStep.revision

structure Logged (s : Store) : Prop where
  /-- Every event announces a step. -/
  announced : ∀ {o c e}, s.outbox (o, c) = some e →
    ∃ i t, s.steps (o, i, c) = some t ∧ Announces e.event t
  /-- Every step is announced under its command. -/
  announces : ∀ {o i c t}, s.steps (o, i, c) = some t → ∃ e, s.outbox (o, c) = some e ∧ Announces e.event t
  /-- The steps of a run count its revisions. -/
  dense : ∀ {o i r}, s.runs (o, i) = some r → DenseLog (recorded s (o, i)) r.revision
  /-- An accepted source event leads to the step of its create command. -/
  deduplicated : ∀ {o source d}, s.dedupe (o, source) = some d →
    ∃ t, s.steps (o, d.runId, d.stepId) = some t ∧ t.commandHash = d.requestHash

/-- At first no command is logged. -/
theorem initial_logged (h : Initial s) : Logged s := by
  obtain ⟨hr, hs, ho, _, hd⟩ := h
  exact ⟨fun h => by simp [ho, Collection.empty] at h, fun h => by simp [hs, Collection.empty] at h,
    fun h => by simp [hr, Collection.empty] at h, fun h => by simp [hd, Collection.empty] at h⟩

private theorem recorded_set {o i c : Identifier} {t : RunStep}
    (h : s'.steps = s.steps.set (o, i, c) t) :
    recorded s' (o, i) = Function.update (recorded s (o, i)) c (some t.revision) := by
  funext k
  by_cases hk : k = c
  · subst hk
    simp [recorded, h]
  · simp [recorded, h, hk]

private theorem recorded_of_ne {o i c : Identifier} {t : RunStep} {key : Identifier × Identifier}
    (h : s'.steps = s.steps.set (o, i, c) t) (hk : key ≠ (o, i)) : recorded s' key = recorded s key := by
  funext k
  have hne : (key.1, key.2, k) ≠ (o, i, c) := by
    intro he
    simp only [Prod.mk.injEq] at he
    exact hk (Prod.ext he.1 he.2.1)
  simp [recorded, h, hne]

/-- No step stands under a command without an event. -/
theorem Logged.unannounced (hl : Logged s) {o c : Identifier} (h : s.outbox (o, c) = none) (i : Identifier) :
    s.steps (o, i, c) = none := by
  cases ht : s.steps (o, i, c) with
  | none => rfl
  | some t =>
    obtain ⟨e, he, _⟩ := hl.announces ht
    rw [h] at he
    cases he

private theorem announced_set {o i c : Identifier} {t : RunStep} {e : OutboxEvent} (hl : Logged s)
    (hs : s'.steps = s.steps.set (o, i, c) t) (ho : s'.outbox = s.outbox.set (o, c) e)
    (unused : s.outbox (o, c) = none) (ha : Announces e.event t) :
    (∀ {o c e}, s'.outbox (o, c) = some e → ∃ i t, s'.steps (o, i, c) = some t ∧ Announces e.event t) ∧
      ∀ {o i c t}, s'.steps (o, i, c) = some t → ∃ e, s'.outbox (o, c) = some e ∧ Announces e.event t := by
  constructor
  · intro o' c' e' he
    rw [ho, Collection.set_eq_some] at he
    rcases he with ⟨hk, rfl⟩ | ⟨hk, he⟩
    · cases hk
      exact ⟨i, t, by rw [hs, Collection.set_same], ha⟩
    · obtain ⟨i', t', ht', ha'⟩ := hl.announced he
      refine ⟨i', t', ?_, ha'⟩
      rw [hs, Collection.set_of_ne, ht']
      intro hne
      simp only [Prod.mk.injEq] at hne
      exact hk (Prod.ext hne.1 hne.2.2)
  · intro o' i' c' t' ht
    rw [hs, Collection.set_eq_some] at ht
    rcases ht with ⟨hk, rfl⟩ | ⟨_, ht⟩
    · cases hk
      exact ⟨e, by rw [ho, Collection.set_same], ha⟩
    · obtain ⟨e', he', ha'⟩ := hl.announces ht
      refine ⟨e', ?_, ha'⟩
      rw [ho, Collection.set_of_ne, he']
      intro hne
      cases hne
      rw [unused] at he'
      cases he'

private theorem step_kept {o i c : Identifier} {t : RunStep} (hs : s'.steps = s.steps.set (o, i, c) t)
    (new : s.steps (o, i, c) = none) {key : Identifier × Identifier × Identifier} {old : RunStep}
    (h : s.steps key = some old) : s'.steps key = some old := by
  rw [hs, Collection.set_of_ne, h]
  rintro rfl
  rw [new] at h
  cases h

/-- A creation is logged. -/
theorem Logged.create {command : CreateRunCommand} {newId : Identifier} {now : AwareDatetime}
    {result : MutationResult} (hp : Placed s) (hl : Logged s)
    (h : Creates hashing s command newId now result s') : Logged s' := by
  obtain ⟨h1, h2⟩ := announced_set hl h.steps h.outbox h.unused ⟨rfl, rfl, rfl, rfl, rfl, rfl, rfl, rfl⟩
  have new := hl.unannounced h.unused (command.runId.getD newId)
  refine ⟨h1, h2, ?_, ?_⟩
  · intro o i r hr
    rw [h.runs, Collection.set_eq_some] at hr
    rcases hr with ⟨hk, rfl⟩ | ⟨hk, hr⟩
    · cases hk
      rw [recorded_set h.steps]
      refine DenseLog.first fun k => ?_
      -- a new run has no steps yet
      rw [recorded, Option.map_eq_none_iff]
      cases ht : s.steps (command.organisationId, command.runId.getD newId, k) with
      | none => rfl
      | some t =>
        obtain ⟨r, hr⟩ := hp.owner ht
        rw [show s.runs (command.organisationId, command.runId.getD newId) = none from h.new] at hr
        cases hr
    · rw [recorded_of_ne h.steps hk]
      exact hl.dense hr
  · intro o source d hd
    rw [h.dedupe, Collection.set_eq_some] at hd
    rcases hd with ⟨hk, rfl⟩ | ⟨_, hd⟩
    · cases hk
      exact ⟨_, by rw [h.steps]; exact Collection.set_same .., rfl⟩
    · obtain ⟨t, ht, hh⟩ := hl.deduplicated hd
      exact ⟨t, step_kept h.steps new ht, hh⟩

/-- A mutation is logged. -/
theorem Logged.mutate {machine : RotationMachine} {now : AwareDatetime} {command : RunCommand}
    {run updated : RotationRun} {result : MutationResult} (hl : Logged s)
    (h : Mutates hashing s machine now command run updated result s') : Logged s' := by
  have hs := h.succeeds
  obtain ⟨h1, h2⟩ := announced_set hl h.steps h.outbox h.unused
    ⟨rfl, h.same_organisation, h.same_run, rfl, rfl, rfl, rfl, rfl⟩
  refine ⟨h1, h2, ?_, ?_⟩
  · intro o i r hr
    rw [h.runs, Collection.set_eq_some] at hr
    rcases hr with ⟨hk, rfl⟩ | ⟨hk, hr⟩
    · cases hk
      rw [recorded_set h.steps]
      have happ := (hl.dense h.found).append command.id (by rw [recorded, h.new]; rfl)
      rwa [← hs.revision] at happ
    · rw [recorded_of_ne h.steps hk]
      exact hl.dense hr
  · intro o source d hd
    rw [h.dedupe] at hd
    obtain ⟨t, ht, hh⟩ := hl.deduplicated hd
    exact ⟨t, step_kept h.steps h.new ht, hh⟩

/-- In every reachable store the commands are logged. -/
theorem reachable_logged (h : (repository hashing).Reachable Initial s) : Placed s ∧ Logged s :=
  reachable_invariant (I := fun s => Placed s ∧ Logged s)
    (fun _ h => ⟨initial_placed h, initial_logged h⟩)
    (fun _ _ _ _ _ _ hi hc => ⟨hi.1.create hc, hi.2.create hi.1 hc⟩)
    (fun _ _ _ _ _ _ _ _ hi hm => ⟨hi.1.mutate hm, hi.2.mutate hm⟩) h

end Uumi.Workflow
