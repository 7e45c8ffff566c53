import Uumi.State.Inversion
import Uumi.Workflow.CredentialLock
import Uumi.Workflow.Idempotency

/-! Causes: every step of a run but its first was caused by one command, and every stored run is what its last step
led to. -/
namespace Uumi.Workflow
open Uumi.Contracts Uumi.Core Uumi.Foundations Uumi.Policy Uumi.State Uumi.Storage

variable {hashing : Hashing} {s s' : Store}

/-- What a command does to the run of its step. -/
def Leads (step : RunStep) : RunCommand → Prop
  | .start _ => step.beforeStatus = some .pending ∧ step.afterStatus = .running
  | .renew _ => step.beforeStatus = some step.afterStatus
  | .complete c => step.beforeStatus = some .running ∧ step.beforeStage = some c.proof.stage
  | .pause _ => step.afterStatus = .paused
  | .resume _ => step.beforeStatus = some .paused ∧ step.afterStatus = .running
  | .fail _ => step.afterStatus = .failed
  | .cancel _ => step.afterStatus = .cancelled
  | .cleanup _ => step.afterStatus = .cleanup
  | .recover _ => step.afterStatus = .recovering
  | .completeRecovery c => step.beforeStatus = some .recovering ∧
    step.afterStatus = if c.mode = .retry then .running else .compensated

/-- A step was caused by a command. -/
structure Causes (hashing : Hashing) (command : RunCommand) (key : Identifier × Identifier × Identifier)
    (step : RunStep) : Prop where
  key : key = (command.organisationId, command.runId, command.id)
  hash : step.commandHash = mutationHash hashing command
  operation : step.operation = command.operation
  actorId : step.actorId = command.actorId
  revision : step.revision = command.expectedRevision + 1
  proof : step.proof = stageProof command
  leads : Leads step command

/-- Under a collision-free hash, a step has one cause. -/
theorem Causes.unique (injective : Function.Injective hashing.sha256) {command other : RunCommand}
    {key key' : Identifier × Identifier × Identifier} {step : RunStep} (h : Causes hashing command key step)
    (k : Causes hashing other key' step) : command = other :=
  mutationHash_injective injective (h.hash.symm.trans k.hash)

/-- The run as it is was left by a step. -/
def LeftBy (s : Store) (run : RotationRun) : Prop :=
  ∃ c t, s.steps (run.organisationId, run.id, c) = some t ∧ t.revision = run.revision ∧ t.afterStage = run.stage ∧
    t.afterStatus = run.status

/-- Where a step comes from: it is the first of its run, or one command caused it and it follows the step before. -/
inductive Origin (hashing : Hashing) (s : Store) (key : Identifier × Identifier × Identifier) (t : RunStep) : Prop
  | created (operation : t.operation = "create") (revision : t.revision = 0) (command : CreateRunCommand)
      (hash : t.commandHash = creationHash hashing command)
  | caused (command : RunCommand) (causes : Causes hashing command key t) (c : Identifier) (t' : RunStep)
      (previous : s.steps (key.1, key.2.1, c) = some t') (revision : t.revision = t'.revision + 1)
      (stage : t.beforeStage = some t'.afterStage) (status : t.beforeStatus = some t'.afterStatus)

/-- A step that has an origin keeps it. -/
theorem Origin.persist {key : Identifier × Identifier × Identifier} {t : RunStep} (h : Origin hashing s key t)
    (later : Persists s s') : Origin hashing s' key t := by
  cases h with
  | created operation first command hash => exact .created operation first command hash
  | caused command causes c t' previous revision stage status =>
    exact .caused command causes c t' (later.steps _ _ previous) revision stage status

structure Caused (hashing : Hashing) (s : Store) : Prop where
  steps : ∀ {key t}, s.steps key = some t → Origin hashing s key t
  runs : ∀ {o i r}, s.runs (o, i) = some r → LeftBy s r

private theorem initial_caused (h : Initial s) : Caused hashing s := by
  obtain ⟨hr, hs, -⟩ := h
  exact ⟨fun h => by simp [hs, Collection.empty] at h, fun h => by simp [hr, Collection.empty] at h⟩

/-- What left a run is kept. -/
theorem LeftBy.persist {run : RotationRun} (h : LeftBy s run) (later : Persists s s') : LeftBy s' run := by
  obtain ⟨c, t, ht, rest⟩ := h
  exact ⟨c, t, later.steps _ t ht, rest⟩

/-- A creation keeps the causes of all steps. -/
theorem Caused.create {command : CreateRunCommand} {newId : Identifier} {now : AwareDatetime} {result : MutationResult}
    (hc : Caused hashing s) (later : Persists s s') (h : Creates hashing s command newId now result s') :
    Caused hashing s' where
  steps {key t} ht := by
    rw [h.steps, Collection.set_eq_some] at ht
    rcases ht with ⟨-, rfl⟩ | ⟨-, ht⟩
    · exact .created rfl rfl command rfl
    · exact (hc.steps ht).persist later
  runs {o i r} hr := by
    rw [h.runs, Collection.set_eq_some] at hr
    rcases hr with ⟨-, rfl⟩ | ⟨-, hr⟩
    · refine ⟨command.id, createStep hashing (createdRun command newId now) command, ?_, rfl, rfl, rfl⟩
      rw [h.steps]
      exact Collection.set_same ..
    · exact (hc.runs hr).persist later

section
variable {machine : RotationMachine} {now : AwareDatetime} {command : RunCommand} {run updated : RotationRun}
  {result : MutationResult}

private theorem perform_leads (h : machine.perform run (operation now command) = .ok updated) :
    Leads (mutateStep hashing run updated command (stageProof command)) command := by
  cases command with
  | start c =>
    obtain ⟨-, before, -, after⟩ := RotationMachine.start_ok.mp h
    exact ⟨congrArg some before, by rw [mutateStep, after]⟩
  | renew c =>
    obtain ⟨-, -, lease, -, -, after⟩ := RotationMachine.renew_ok.mp h
    exact congrArg some (by rw [mutateStep, after])
  | complete c =>
    obtain ⟨-, before, -, -, stage, -, -, -⟩ := RotationMachine.complete_ok.mp h
    exact ⟨congrArg some before, congrArg some stage.symm⟩
  | pause c =>
    obtain ⟨-, -, after⟩ := RotationMachine.pause_ok.mp h
    exact by rw [Leads, mutateStep, after]
  | resume c =>
    obtain ⟨-, before, -, -, after⟩ := RotationMachine.resume_ok.mp h
    exact ⟨congrArg some before, by rw [mutateStep, after]⟩
  | fail c =>
    obtain ⟨-, -, after⟩ := RotationMachine.fail_ok.mp h
    exact by rw [Leads, mutateStep, after]
  | cancel c =>
    obtain ⟨-, -, after⟩ := RotationMachine.cancel_ok.mp h
    exact by rw [Leads, mutateStep, after]
  | cleanup c =>
    obtain ⟨-, -, after⟩ := RotationMachine.cleanup_ok.mp h
    exact by rw [Leads, mutateStep, after]
  | recover c =>
    obtain ⟨-, -, -, -, after⟩ := RotationMachine.recover_ok.mp h
    exact by rw [Leads, mutateStep, after]
  | completeRecovery c =>
    obtain ⟨-, before, -, -, ⟨mode, -, after⟩ | ⟨mode, after⟩⟩ := RotationMachine.completeRecovery_ok.mp h
    · exact ⟨congrArg some before, by rw [mutateStep, after, if_pos mode]⟩
    · exact ⟨congrArg some before, by rw [mutateStep, after, if_neg mode]⟩

/-- A command that took effect caused its step. -/
theorem Mutates.causes (h : Mutates hashing s machine now command run updated result s') :
    Causes hashing command (command.organisationId, command.runId, command.id) result.step := by
  rw [h.result_eq]
  exact ⟨rfl, rfl, rfl, rfl, h.bumped.trans (by rw [h.revision]), rfl, perform_leads h.transition_ok⟩

/-- A mutation keeps the causes of all steps. -/
theorem Caused.mutate (hc : Caused hashing s) (hp : Placed s) (later : Persists s s')
    (h : Mutates hashing s machine now command run updated result s') : Caused hashing s' where
  steps {key t} ht := by
    rw [h.steps, Collection.set_eq_some] at ht
    rcases ht with ⟨rfl, rfl⟩ | ⟨-, ht⟩
    · have causes := h.causes
      rw [h.result_eq] at causes
      obtain ⟨c, t', ht', revision, stage, status⟩ := (hc.runs h.found).persist later
      rw [h.organisationId, (hp.run h.found).2] at ht'
      refine .caused command causes c t' ht' ?_ (congrArg some stage.symm) (congrArg some status.symm)
      rw [revision]
      exact h.bumped
    · exact (hc.steps ht).persist later
  runs {o i r} hr := by
    rw [h.runs, Collection.set_eq_some] at hr
    rcases hr with ⟨-, rfl⟩ | ⟨-, hr⟩
    · refine ⟨command.id, mutateStep hashing run updated command (stageProof command), ?_, rfl, rfl, rfl⟩
      rw [h.steps, h.same_organisation, h.same_run, (hp.run h.found).2]
      exact Collection.set_same ..
    · exact (hc.runs hr).persist later

end

/-- Runs that can be traced: every document in its place, a dense log, locks for open runs, and a cause for every
step. -/
structure Traced (hashing : Hashing) (s : Store) : Prop where
  placed : Placed s
  logged : Logged s
  locked : Locked s
  caused : Caused hashing s

/-- At first every document has its cause, as there is none. -/
theorem initial_traced (h : Initial s) : Traced hashing s :=
  ⟨initial_placed h, initial_logged h, initial_locked h, initial_caused h⟩

/-- Every call keeps the causes. -/
theorem Traced.perform {call : Call} {result : MutationResult} (h : Traced hashing s)
    (hperform : (repository hashing).perform s call = .ok (result, s')) : Traced hashing s' := by
  obtain ⟨placed, logged, locked, caused⟩ := h
  have later := perform_persists logged hperform
  cases perform_effect hperform with
  | created command newId now _ effect =>
    exact ⟨placed.create effect, logged.create placed effect, locked.create effect, caused.create later effect⟩
  | mutated machine now command run updated _ effect =>
    exact ⟨placed.mutate effect, logged.mutate effect, locked.mutate placed effect, caused.mutate placed later effect⟩
  | replayed _ unchanged => exact unchanged ▸ ⟨placed, logged, locked, caused⟩

private theorem reachable_traced (h : (repository hashing).Reachable Initial s) : Traced hashing s :=
  h.invariant (fun _ => initial_traced) fun _ _ _ _ traced hperform => traced.perform hperform

/-- New control versions touch no run. -/
theorem Traced.controls (h : Traced hashing s)
    (controls : Collection (Identifier × Identifier × Identifier) ControlVersion) :
    Traced hashing { s with controls } where
  placed := ⟨h.placed.run, h.placed.step, h.placed.owner⟩
  logged := ⟨h.logged.announced, h.logged.announces, h.logged.dense, h.logged.deduplicated⟩
  locked := h.locked
  caused := by
    refine ⟨fun ht => ?_, h.caused.runs⟩
    cases h.caused.steps ht with
    | created operation first command hash => exact .created operation first command hash
    | caused command causes c t' previous revision stage status =>
      exact .caused command causes c t' previous revision stage status

/-- Steps of one run at one revision are one step. -/
theorem Traced.step_unique (h : Traced hashing s) {o i c d : Identifier} {t u : RunStep}
    (ht : s.steps (o, i, c) = some t) (hu : s.steps (o, i, d) = some u) (revision : t.revision = u.revision) : t = u := by
  obtain ⟨run, found⟩ := h.placed.owner ht
  have same : c = d := (h.logged.dense found).unique c d t.revision
    (by rw [recorded, ht, Option.map_some]) (by rw [recorded, hu, Option.map_some, revision])
  subst same
  exact Option.some.inj (ht.symm.trans hu)

/-- The statuses that a run never leaves. -/
def final : List RunStatus := [.completed, .compensated]

/-- No mutation applies to a run that is final. -/
theorem Mutates.not_final {machine : RotationMachine} {now : AwareDatetime} {command : RunCommand}
    {run updated : RotationRun} {result : MutationResult} (hp : Placed s) (hl : Locked s)
    (h : Mutates hashing s machine now command run updated result s') : run.status ∉ final := by
  intro hf
  rcases h.lock with hh | ⟨-, failed⟩
  · have owned := hl.demand_of_holds hp h.found hh
    rw [demand, h.found, Option.bind_some, demandOf, if_neg] at owned
    · cases owned
    · revert hf
      cases run.status <;> decide
  · rw [failed] at hf
    exact absurd hf (by decide)

/-- The run was stored in this version: it still is, or in a later version, unless this one is final. -/
structure Reached (s : Store) (run : RotationRun) : Prop where
  stored : ∃ r, s.runs (run.organisationId, run.id) = some r ∧ (r = run ∨ run.revision < r.revision ∧ run.status ∉ final)
  left : LeftBy s run

/-- A stored run has been reached. -/
theorem Reached.now {o i : Identifier} {run : RotationRun} (traced : Traced hashing s) (h : s.runs (o, i) = some run) :
    Reached s run := by
  refine ⟨⟨run, ?_, .inl rfl⟩, traced.caused.runs h⟩
  obtain ⟨rfl, rfl⟩ := traced.placed.run h
  exact h

/-- A final version is the one that is stored. -/
theorem Reached.stays {run : RotationRun} (h : Reached s run) (hf : run.status ∈ final) :
    s.runs (run.organisationId, run.id) = some run := by
  obtain ⟨r, hr, rfl | ⟨-, hn⟩⟩ := h.stored
  · exact hr
  · exact absurd hf hn

/-- What has been reached stays so. -/
theorem Reached.perform {call : Call} {result : MutationResult} {run : RotationRun} (h : Reached s run)
    (traced : Traced hashing s) (hperform : (repository hashing).perform s call = .ok (result, s')) : Reached s' run := by
  refine ⟨?_, h.left.persist (perform_persists traced.logged hperform)⟩
  obtain ⟨r, hr, hv⟩ := h.stored
  cases perform_effect hperform with
  | created command newId now _ effect =>
    rw [effect.runs]
    refine ⟨r, ?_, hv⟩
    rw [Collection.set_of_ne, hr]
    intro hk
    rw [hk, show s.runs (command.organisationId, command.runId.getD newId) = none from effect.new] at hr
    cases hr
  | mutated machine now command old updated _ effect =>
    rw [effect.runs]
    by_cases hk : (run.organisationId, run.id) = (command.organisationId, command.runId)
    · rw [hk, Collection.set_same]
      rw [hk, effect.found] at hr
      cases hr
      refine ⟨updated, rfl, .inr ?_⟩
      rcases hv with rfl | ⟨hlt, hn⟩
      · exact ⟨by rw [effect.bumped]; exact Nat.lt_succ_self _, effect.not_final traced.placed traced.locked⟩
      · exact ⟨hlt.trans (by rw [effect.bumped]; exact Nat.lt_succ_self _), hn⟩
    · exact ⟨r, by rw [Collection.set_of_ne hk, hr], hv⟩
  | replayed _ unchanged => exact unchanged ▸ ⟨r, hr, hv⟩

/-- The step after a version of a run takes up where the version left off. -/
theorem Reached.before {run : RotationRun} (h : Reached s run) (traced : Traced hashing s) {c : Identifier} {t : RunStep}
    (ht : s.steps (run.organisationId, run.id, c) = some t) (revision : t.revision = run.revision + 1) :
    t.beforeStage = some run.stage ∧ t.beforeStatus = some run.status := by
  obtain ⟨d, left, hleft, hrevision, hstage, hstatus⟩ := h.left
  cases traced.caused.steps ht with
  | created operation first command hash =>
    rw [first] at revision
    exact absurd revision (Nat.succ_ne_zero _).symm
  | caused command causes d' previous hprevious after stage status =>
    have same : previous = left := traced.step_unique hprevious hleft (by omega)
    rw [stage, status, same, hstage, hstatus]
    exact ⟨rfl, rfl⟩

end Uumi.Workflow
