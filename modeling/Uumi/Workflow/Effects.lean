import Uumi.State.Frame
import Uumi.Storage.Inversion
import Uumi.Workflow.Steps

/-! The effect of a call on the documents, and the places that documents keep. -/
namespace Uumi.Workflow
open Uumi.Contracts Uumi.Core Uumi.Foundations Uumi.Policy Uumi.State Uumi.Storage

variable {hashing : Hashing} {s s' : Store} {call : Call} {result : MutationResult}

/-- A create call that took effect. -/
abbrev Creates (hashing : Hashing) (s : Store) (command : CreateRunCommand) (newId : Identifier)
    (now : AwareDatetime) (result : MutationResult) (s' : Store) : Prop :=
  Created hashing s (buildRun command (command.runId.getD newId) now) command result s'

/-- A mutate call that took `run` to `updated`. -/
abbrev Mutates (hashing : Hashing) (s : Store) (machine : RotationMachine) (now : AwareDatetime)
    (command : RunCommand) (run updated : RotationRun) (result : MutationResult) (s' : Store) : Prop :=
  Mutated hashing s command (eventKind command) (fun run => machine.perform run (operation now command))
    (stageProof command) run updated result s'

/-- What a successful call did. -/
inductive Effect (hashing : Hashing) (s : Store) (call : Call) (result : MutationResult) (s' : Store) : Prop
  | created (command : CreateRunCommand) (newId : Identifier) (now : AwareDatetime)
      (is_call : call = .create command newId now) (effect : Creates hashing s command newId now result s')
  | mutated (machine : RotationMachine) (now : AwareDatetime) (command : RunCommand)
      (run updated : RotationRun) (is_call : call = .mutate machine now command)
      (effect : Mutates hashing s machine now command run updated result s')
  | replayed (unapplied : result.applied = false) (unchanged : s' = s)

/-- A call that returns has the effect of its operation. -/
theorem perform_effect (h : (repository hashing).perform s call = .ok (result, s')) :
    Effect hashing s call result s' := by
  cases call with
  | create command newId now =>
    rcases create_ok.mp h with hc | hd
    · exact .created command newId now rfl hc
    · exact .replayed hd.unapplied hd.store_eq
  | mutate machine now command =>
    rcases mutate_ok.mp h with ⟨run, updated, hm⟩ | hr
    · exact .mutated machine now command run updated rfl hm
    · exact .replayed hr.unapplied hr.store_eq

/-- An invariant of the effects of calls holds in every reachable state. -/
theorem reachable_invariant {I : Store → Prop} (init : ∀ s, Initial s → I s)
    (create : ∀ s command newId now result s', I s → Creates hashing s command newId now result s' → I s')
    (mutate : ∀ s machine now command run updated result s', I s →
      Mutates hashing s machine now command run updated result s' → I s')
    (h : (repository hashing).Reachable Initial s) : I s := by
  refine h.invariant init fun s call result s' hi hp => ?_
  cases perform_effect hp with
  | created command newId now _ effect => exact create s command newId now result s' hi effect
  | mutated machine now command run updated _ effect =>
    exact mutate s machine now command run updated result s' hi effect
  | replayed _ unchanged => exact unchanged ▸ hi

section
variable {command : CreateRunCommand} {newId : Identifier} {now : AwareDatetime}

abbrev createdRun (command : CreateRunCommand) (newId : Identifier) (now : AwareDatetime) : RotationRun :=
  buildRun command (command.runId.getD newId) now

/-- A creation stores its run. -/
theorem Creates.runs (h : Creates hashing s command newId now result s') :
    s'.runs = s.runs.set (command.organisationId, command.runId.getD newId) (createdRun command newId now) := by
  rw [h.store_eq]
  rfl

/-- A creation stores its step. -/
theorem Creates.steps (h : Creates hashing s command newId now result s') :
    s'.steps = s.steps.set (command.organisationId, command.runId.getD newId, command.id)
      (createStep hashing (createdRun command newId now) command) := by
  rw [h.store_eq]
  rfl

/-- A creation stores its event. -/
theorem Creates.outbox (h : Creates hashing s command newId now result s') :
    s'.outbox = s.outbox.set (command.organisationId, command.id)
      (createEvent (createdRun command newId now) command) := by
  rw [h.store_eq]
  rfl

/-- A creation records its source event. -/
theorem Creates.dedupe (h : Creates hashing s command newId now result s') :
    s'.dedupe = s.dedupe.set (sourceKey hashing (createdRun command newId now))
      { organisationId := command.organisationId, runId := command.runId.getD newId, stepId := command.id,
        requestHash := creationHash hashing command, createdAt := now } := by
  rw [h.store_eq]
  rfl

/-- A creation locks its credential. -/
theorem Creates.locks (h : Creates hashing s command newId now result s') :
    s'.locks = s.locks.set (command.organisationId, command.credentialId)
      { organisationId := command.organisationId, credentialId := command.credentialId,
        runId := command.runId.getD newId, createdAt := now } := by
  rw [h.store_eq]
  rfl

/-- A creation touches no controls. -/
theorem Creates.controls (h : Creates hashing s command newId now result s') : s'.controls = s.controls := by
  rw [h.store_eq]
  rfl

end

section
variable {machine : RotationMachine} {now : AwareDatetime} {command : RunCommand}
  {run updated : RotationRun}

/-- A mutation moves its run one revision further. -/
theorem Mutates.succeeds (h : Mutates hashing s machine now command run updated result s') :
    Succeeds run.toRunFields updated.toRunFields :=
  RotationMachine.perform_succeeds h.transition_ok

/-- A mutation stores its run. -/
theorem Mutates.runs (h : Mutates hashing s machine now command run updated result s') :
    s'.runs = s.runs.set (command.organisationId, command.runId) updated := by
  rw [h.store_eq]
  rfl

/-- A mutation stores its step. -/
theorem Mutates.steps (h : Mutates hashing s machine now command run updated result s') :
    s'.steps = s.steps.set (command.organisationId, command.runId, command.id)
      (mutateStep hashing run updated command (stageProof command)) := by
  rw [h.store_eq]
  rfl

/-- A mutation stores its event. -/
theorem Mutates.outbox (h : Mutates hashing s machine now command run updated result s') :
    s'.outbox = s.outbox.set (command.organisationId, command.id)
      (mutateEvent run updated command (eventKind command)) := by
  rw [h.store_eq]
  rfl

/-- A mutation releases the lock with a status that releases it, and touches no other. -/
theorem Mutates.locks (h : Mutates hashing s machine now command run updated result s') :
    s'.locks = if HoldsLock s command.organisationId run ∧ updated.status ∈ releasing then
      s.locks.delete (command.organisationId, run.credentialId) else s.locks := by
  rw [h.store_eq]
  rfl

/-- A mutation touches no controls. -/
theorem Mutates.controls (h : Mutates hashing s machine now command run updated result s') :
    s'.controls = s.controls := by
  rw [h.store_eq]
  rfl

/-- A mutation touches no record of a source event. -/
theorem Mutates.dedupe (h : Mutates hashing s machine now command run updated result s') :
    s'.dedupe = s.dedupe := by
  rw [h.store_eq]
  rfl

end

structure Placed (s : Store) : Prop where
  run : ∀ {o i r}, s.runs (o, i) = some r → r.organisationId = o ∧ r.id = i
  step : ∀ {o i c t}, s.steps (o, i, c) = some t → t.organisationId = o ∧ t.runId = i ∧ t.id = c
  /-- A step belongs to a stored run. -/
  owner : ∀ {o i c t}, s.steps (o, i, c) = some t → ∃ r, s.runs (o, i) = some r

/-- At first no document is out of place. -/
theorem initial_placed (h : Initial s) : Placed s := by
  obtain ⟨hr, hs, -⟩ := h
  exact ⟨fun h => by simp [hr, Collection.empty] at h, fun h => by simp [hs, Collection.empty] at h,
    fun h => by simp [hs, Collection.empty] at h⟩

private theorem owner_kept {c : Collection (Identifier × Identifier) RotationRun}
    {key other : Identifier × Identifier} {r : RotationRun} (h : ∃ r, c other = some r) :
    ∃ r', c.set key r other = some r' := by
  by_cases hk : other = key
  · exact ⟨r, by rw [hk, Collection.set_same]⟩
  · rwa [Collection.set_of_ne hk]

/-- A creation puts every document in its place. -/
theorem Placed.create {command : CreateRunCommand} {newId : Identifier} {now : AwareDatetime}
    (hp : Placed s) (h : Creates hashing s command newId now result s') : Placed s' where
  run {o i r} hr := by
    rw [h.runs, Collection.set_eq_some] at hr
    rcases hr with ⟨hk, rfl⟩ | ⟨_, hr⟩
    · cases hk
      exact ⟨rfl, rfl⟩
    · exact hp.run hr
  step {o i c t} ht := by
    rw [h.steps, Collection.set_eq_some] at ht
    rcases ht with ⟨hk, rfl⟩ | ⟨_, ht⟩
    · cases hk
      exact ⟨rfl, rfl, rfl⟩
    · exact hp.step ht
  owner {o i c t} ht := by
    rw [h.steps, Collection.set_eq_some] at ht
    rw [h.runs]
    rcases ht with ⟨hk, rfl⟩ | ⟨_, ht⟩
    · cases hk
      exact ⟨_, Collection.set_same ..⟩
    · exact owner_kept (hp.owner ht)

/-- A mutation puts every document in its place. -/
theorem Placed.mutate {machine : RotationMachine} {now : AwareDatetime} {command : RunCommand}
    {run updated : RotationRun} (hp : Placed s)
    (h : Mutates hashing s machine now command run updated result s') : Placed s' where
  run {o i r} hr := by
    rw [h.runs, Collection.set_eq_some] at hr
    rcases hr with ⟨hk, rfl⟩ | ⟨_, hr⟩
    · cases hk
      exact ⟨h.same_organisation, h.same_run.trans (hp.run h.found).2⟩
    · exact hp.run hr
  step {o i c t} ht := by
    rw [h.steps, Collection.set_eq_some] at ht
    rcases ht with ⟨hk, rfl⟩ | ⟨_, ht⟩
    · cases hk
      exact ⟨rfl, (hp.run h.found).2, rfl⟩
    · exact hp.step ht
  owner {o i c t} ht := by
    rw [h.steps, Collection.set_eq_some] at ht
    rw [h.runs]
    rcases ht with ⟨hk, rfl⟩ | ⟨_, ht⟩
    · cases hk
      exact ⟨_, Collection.set_same ..⟩
    · exact owner_kept (hp.owner ht)

/-- Every call leaves the documents in their places. -/
theorem perform_placed (hp : Placed s)
    (h : (repository hashing).perform s call = .ok (result, s')) : Placed s' := by
  cases perform_effect h with
  | created _ _ _ _ effect => exact hp.create effect
  | mutated _ _ _ _ _ _ effect => exact hp.mutate effect
  | replayed _ unchanged => exact unchanged ▸ hp

/-- In every reachable store the documents are in their places. -/
theorem reachable_placed (h : (repository hashing).Reachable Initial s) : Placed s :=
  reachable_invariant (fun _ => initial_placed) (fun _ _ _ _ _ _ hp hc => hp.create hc)
    (fun _ _ _ _ _ _ _ _ hp hm => hp.mutate hm) h

/-- The sample store has no runs. -/
theorem sampleStore_initial : Initial sampleStore := ⟨rfl, rfl, rfl, rfl, rfl⟩

/-- The sample run is created in the sample store. -/
theorem sampleCreated_creates : Creates Hashing.sample sampleStore sampleCommand RotationRun.sample.id
    RotationRun.sample.createdAt
    { run := RotationRun.sample, step := createStep Hashing.sample RotationRun.sample sampleCommand,
      applied := true } sampleCreated where
  agrees := ⟨rfl, rfl, rfl, rfl, nofun⟩
  unseen := rfl
  unlocked := rfl
  new := rfl
  unused := rfl
  pinned := ⟨sampleControls, rfl, rfl, rfl, rfl, rfl⟩
  result_eq := rfl
  store_eq := rfl

/-- The store with the sample run is reachable. -/
theorem sampleCreated_reachable : (repository Hashing.sample).Reachable Initial sampleCreated := by
  refine ⟨sampleStore, [.create sampleCommand RotationRun.sample.id RotationRun.sample.createdAt],
    sampleStore_initial, ?_⟩
  have hp : (repository Hashing.sample).perform sampleStore
      (.create sampleCommand RotationRun.sample.id RotationRun.sample.createdAt) = .ok (_, sampleCreated) :=
    create_ok.mpr (.inl sampleCreated_creates)
  exact ((repository Hashing.sample).exec_of_ok hp).symm

def sampleRunning : RotationRun where
  toRunFields :=
    { RotationRun.sample.toRunFields with
      status := .running
      lease := some (RotationMachine.nextLease RotationRun.sample workerOne ⟨100, 0⟩)
      fencingToken := 1
      updatedAt := ⟨1, 0⟩
      revision := 1 }
  accepted := by decide

def sampleBase (id : Identifier) (revision : Nat) : CommandBase where
  id := id
  organisationId := RotationRun.sample.organisationId
  runId := RotationRun.sample.id
  actorId := RotationRun.sample.trigger.actorId
  expectedRevision := revision

def sampleStart : RunCommand := .start
  { sampleBase commandTwo 0 with ownerId := workerOne, expiresAt := ⟨100, 0⟩ }

def sampleMutated (s : Store) (run updated : RotationRun) (command : RunCommand) : Store :=
  s.commitMutation Hashing.sample run updated command (eventKind command) (stageProof command)

def sampleStarted : Store := sampleMutated sampleCreated RotationRun.sample sampleRunning sampleStart

/-- A mutation that keeps to its checks leads to a reachable state. -/
theorem sampleMutated_reachable {s : Store} {run updated : RotationRun} {command : RunCommand}
    (hs : (repository Hashing.sample).Reachable Initial s)
    (effect : Mutates Hashing.sample s {} updated.updatedAt command run updated
      { run := updated, step := mutateStep Hashing.sample run updated command (stageProof command), applied := true }
      (sampleMutated s run updated command)) :
    (repository Hashing.sample).Reachable Initial (sampleMutated s run updated command) := by
  have hp : (repository Hashing.sample).perform s (.mutate {} updated.updatedAt command) =
      .ok (_, sampleMutated s run updated command) := mutate_ok.mpr (.inl ⟨run, updated, effect⟩)
  rw [← (repository Hashing.sample).exec_of_ok hp]
  exact hs.exec _

/-- The sample run is started in its store. -/
theorem sampleStarted_mutates : Mutates Hashing.sample sampleCreated {} ⟨1, 0⟩ sampleStart RotationRun.sample
    sampleRunning
    { run := sampleRunning, step := mutateStep Hashing.sample RotationRun.sample sampleRunning sampleStart none,
      applied := true } sampleStarted where
  new := by decide
  unused := by decide
  found := rfl
  organisationId := rfl
  revision := rfl
  lock := .inl ⟨_, rfl, rfl⟩
  gate := nofun
  transition_ok := RotationMachine.start_ok.mpr ⟨rfl, rfl, by decide, rfl⟩
  same_organisation := rfl
  same_run := rfl
  bumped := rfl
  result_eq := rfl
  store_eq := rfl

/-- The store with the started run is reachable. -/
theorem sampleStarted_reachable : (repository Hashing.sample).Reachable Initial sampleStarted :=
  sampleMutated_reachable sampleCreated_reachable sampleStarted_mutates

end Uumi.Workflow
