import Uumi.Workflow.Idempotency

/-! Source events: an accepted one leads to the run that its create command asked for, whatever else is called. -/
namespace Uumi.Workflow
open Uumi.Contracts Uumi.Core Uumi.Foundations Uumi.Policy Uumi.State Uumi.Storage

variable {hashing : Hashing} {s s' : Store}

/-- Every accepted source event leads to a run that has what its create command asks for. -/
def Sourced (hashing : Hashing) (s : Store) : Prop :=
  ∀ o source d, s.dedupe (o, source) = some d → ∃ run command, s.runs (o, d.runId) = some run ∧
    Matches run command ∧ d.requestHash = creationHash hashing command

/-- At first no source event is recorded. -/
theorem initial_sourced (h : Initial s) : Sourced hashing s := by
  obtain ⟨-, -, -, -, hd⟩ := h
  intro o source d found
  simp [hd, Collection.empty] at found

/-- A run is what its command asks for until the end: no call changes what it was created with. -/
theorem matches_succeeds {run updated : RotationRun} {command : CreateRunCommand} (h : Matches run command)
    (hs : Succeeds run.toRunFields updated.toRunFields) : Matches updated command where
  organisationId := hs.organisationId.trans h.organisationId
  credentialId := hs.credentialId.trans h.credentialId
  controlVersion := hs.controlVersion.trans h.controlVersion
  trigger := hs.trigger.trans h.trigger
  id id hid := hs.id.trans (h.id id hid)

private theorem matches_sameContent {run : RotationRun} {command other : CreateRunCommand} (h : Matches run other)
    (same : { other with id := command.id } = command) : Matches run command := by
  rw [← same]
  exact ⟨h.organisationId, h.credentialId, h.controlVersion, h.trigger, h.id⟩

private theorem Mutates.matching {machine : RotationMachine} {now : AwareDatetime} {command : RunCommand}
    {old updated : RotationRun} {result : MutationResult}
    (h : Mutates hashing s machine now command old updated result s') {key : Identifier × Identifier}
    {run : RotationRun} (found : s.runs key = some run) :
    ∃ run', s'.runs key = some run' ∧ ∀ created, Matches run created → Matches run' created := by
  rw [h.runs]
  by_cases hk : key = (command.organisationId, command.runId)
  · subst hk
    obtain rfl : old = run := Option.some.inj (h.found.symm.trans found)
    exact ⟨updated, Collection.set_same .., fun _ hm => matches_succeeds hm h.succeeds⟩
  · exact ⟨run, (Collection.set_of_ne hk).trans found, fun _ hm => hm⟩

private theorem Creates.keeps_run {command : CreateRunCommand} {newId : Identifier} {now : AwareDatetime}
    {result : MutationResult} (h : Creates hashing s command newId now result s') {key : Identifier × Identifier}
    {run : RotationRun} (found : s.runs key = some run) : s'.runs key = some run := by
  rw [h.runs, Collection.set_of_ne, found]
  rintro rfl
  cases (show s.runs _ = none from h.new).symm.trans found

/-- No call takes a run away, or makes it one that another command asked for. -/
theorem perform_matching {call : Call} {result : MutationResult}
    (h : (repository hashing).perform s call = .ok (result, s')) {key : Identifier × Identifier}
    {run : RotationRun} (found : s.runs key = some run) :
    ∃ run', s'.runs key = some run' ∧ ∀ command, Matches run command → Matches run' command := by
  cases perform_effect h with
  | created _ _ _ _ effect => exact ⟨run, effect.keeps_run found, fun _ hm => hm⟩
  | mutated _ _ _ _ _ _ effect => exact effect.matching found
  | replayed _ unchanged =>
    subst unchanged
    exact ⟨run, found, fun _ hm => hm⟩

/-- Every call records the source event of the run that it creates. -/
theorem perform_sourced {call : Call} {result : MutationResult} (hs : Sourced hashing s)
    (h : (repository hashing).perform s call = .ok (result, s')) : Sourced hashing s' := by
  have kept : ∀ o source d, s.dedupe (o, source) = some d → ∃ run command, s'.runs (o, d.runId) = some run ∧
      Matches run command ∧ d.requestHash = creationHash hashing command := by
    intro o source d hd
    obtain ⟨run, command, found, asked, hash⟩ := hs o source d hd
    obtain ⟨run', found', still⟩ := perform_matching h found
    exact ⟨run', command, found', still command asked, hash⟩
  intro o source d hd
  cases perform_effect h with
  | created command newId now _ effect =>
    rw [effect.dedupe, Collection.set_eq_some] at hd
    rcases hd with ⟨hk, rfl⟩ | ⟨_, hd⟩
    · cases hk
      refine ⟨createdRun command newId now, command, ?_, effect.agrees, rfl⟩
      rw [effect.runs]
      exact Collection.set_same ..
    · exact kept o source d hd
  | mutated _ _ _ _ _ _ effect =>
    rw [effect.dedupe] at hd
    exact kept o source d hd
  | replayed _ unchanged =>
    subst unchanged
    exact hs o source d hd

/-- A create call answers with a stored run that has what its command asks for, also if the source event was accepted
before. -/
theorem create_matching (injective : Function.Injective hashing.sha256) (hp : Placed s) (hs : Sourced hashing s)
    {command : CreateRunCommand} {newId : Identifier} {now : AwareDatetime} {result : MutationResult}
    (h : (repository hashing).perform s (.create command newId now) = .ok (result, s')) :
    s'.runs (command.organisationId, result.run.id) = some result.run ∧ Matches result.run command := by
  rcases create_ok.mp h with effect | known
  · rw [effect.result_eq]
    refine ⟨?_, effect.agrees⟩
    rw [effect.store_eq]
    exact Collection.set_same ..
  · obtain ⟨d, hd, hash, found, -⟩ := known.recorded
    obtain ⟨run, other, found', asked, hash'⟩ := hs _ _ d hd
    obtain rfl : run = result.run := Option.some.inj (found'.symm.trans found)
    rw [known.store_eq]
    refine ⟨?_, matches_sameContent asked (creationHash_eq injective (hash.symm.trans hash'))⟩
    rw [(hp.run found').2]
    exact found'

end Uumi.Workflow
