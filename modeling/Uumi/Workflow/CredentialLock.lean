import Uumi.Foundations.Exclusive
import Uumi.Workflow.Effects

/-! The credential lock: the runs of a credential that are under way and its lock document are
one exclusive claim. -/
namespace Uumi.Workflow
open Uumi.Contracts Uumi.Core Uumi.Foundations Uumi.Policy Uumi.State Uumi.Storage

/-- The statuses of a run that is under way. -/
def active : List RunStatus := [.pending, .running, .paused, .cleanup, .recovering]

private theorem mem_active_iff (status : RunStatus) : status ∈ active ↔ status ∉ releasing := by
  cases status <;> decide

variable {hashing : Hashing} {s s' : Store}

/-- Who holds the lock of a credential. -/
def holder (s : Store) (credential : Identifier × Identifier) : Option (Identifier × Identifier) :=
  (s.locks credential).map fun lock => (credential.1, lock.runId)

def demandOf (r : RotationRun) : Option (Identifier × Identifier) :=
  if r.status ∈ active then some (r.organisationId, r.credentialId) else none

/-- The credential that the run stored under a key works on. -/
def demand (s : Store) (key : Identifier × Identifier) : Option (Identifier × Identifier) :=
  (s.runs key).bind demandOf

/-- Lock documents and runs under way agree. -/
def Locked (s : Store) : Prop := Exclusive (holder s) (demand s)

private theorem demand_set {key : Identifier × Identifier} {r : RotationRun}
    (h : s'.runs = s.runs.set key r) : demand s' = Function.update (demand s) key (demandOf r) := by
  funext k
  by_cases hk : k = key
  · simp [demand, h, hk]
  · simp [demand, h, hk]

private theorem holder_set {key : Identifier × Identifier} {lock : LockDocument}
    (h : s'.locks = s.locks.set key lock) :
    holder s' = Function.update (holder s) key (some (key.1, lock.runId)) := by
  funext k
  by_cases hk : k = key
  · subst hk
    simp [holder, h]
  · simp [holder, h, hk]

private theorem holder_delete {key : Identifier × Identifier} (h : s'.locks = s.locks.delete key) :
    holder s' = Function.update (holder s) key none := by
  funext k
  by_cases hk : k = key
  · subst hk
    simp [holder, h]
  · simp [holder, h, hk]

/-- At first no credential is locked. -/
theorem initial_locked (h : Initial s) : Locked s := by
  obtain ⟨hr, _, _, hl, _⟩ := h
  have hh : holder s = fun _ => none := by
    funext k
    simp [holder, hl, Collection.empty]
  have hd : demand s = fun _ => none := by
    funext k
    simp [demand, hr, Collection.empty]
  rw [Locked, hh, hd]
  exact Exclusive.initial

/-- A creation locks the credential of its run. -/
theorem Locked.create {command : CreateRunCommand} {newId : Identifier} {now : AwareDatetime}
    {result : MutationResult} (hl : Locked s) (h : Creates hashing s command newId now result s') :
    Locked s' := by
  rw [Locked, demand_set h.runs, holder_set h.locks]
  refine Exclusive.acquire hl ?_ ?_
  · rw [holder, show s.locks (command.organisationId, command.credentialId) = none from h.unlocked]
    rfl
  · rw [demand, show s.runs (command.organisationId, command.runId.getD newId) = none from h.new]
    rfl

/-- The run that holds its lock is under way. -/
theorem Locked.demand_of_holds {o i : Identifier} {r : RotationRun} (hl : Locked s) (hp : Placed s)
    (hr : s.runs (o, i) = some r) (hh : HoldsLock s o r) : demand s (o, i) = some (o, r.credentialId) := by
  obtain ⟨lock, hlock, hid⟩ := hh
  rw [← hl.agree, holder, Option.mem_def.mp hlock, Option.map_some, hid, (hp.run hr).2]

/-- A mutation keeps the lock of its run or releases it. -/
theorem Locked.mutate {machine : RotationMachine} {now : AwareDatetime} {command : RunCommand}
    {run updated : RotationRun} {result : MutationResult} (hl : Locked s) (hp : Placed s)
    (h : Mutates hashing s machine now command run updated result s') : Locked s' := by
  have hs := h.succeeds
  have hlocks := h.locks
  rw [Locked, demand_set h.runs]
  by_cases hh : HoldsLock s command.organisationId run
  · have owned := hl.demand_of_holds hp h.found hh
    by_cases hrel : updated.status ∈ releasing
    · -- the run leaves the statuses under way and gives its lock back
      rw [if_pos ⟨hh, hrel⟩] at hlocks
      rw [holder_delete hlocks, demandOf, if_neg fun ha => (mem_active_iff _).mp ha hrel]
      exact hl.release owned
    · rw [if_neg fun hc => hrel hc.2] at hlocks
      rw [show holder s' = holder s by funext k; rw [holder, holder, hlocks],
        demandOf, if_pos ((mem_active_iff _).mpr hrel), h.same_organisation, hs.credentialId]
      exact hl.keep owned
  · -- only a failed run passes the check without its lock, and it is cancelled
    obtain ⟨hc, hf⟩ := h.lock.resolve_left hh
    rw [if_neg fun hc => hh hc.1] at hlocks
    obtain ⟨c, rfl⟩ := RunCommand.operation_cancel hc
    have hu := RotationMachine.perform_cancel_status h.transition_ok
    have idle : demand s ((RunCommand.cancel c).organisationId, (RunCommand.cancel c).runId) = none := by
      rw [demand, h.found, Option.bind_some, demandOf, hf]
      rfl
    rw [show holder s' = holder s by funext k; rw [holder, holder, hlocks], demandOf, hu]
    exact hl.rest idle

/-- In every reachable store exactly the active runs hold locks. -/
theorem reachable_locked (h : (repository hashing).Reachable Initial s) : Placed s ∧ Locked s :=
  reachable_invariant (I := fun s => Placed s ∧ Locked s)
    (fun _ h => ⟨initial_placed h, initial_locked h⟩)
    (fun _ _ _ _ _ _ hi hc => ⟨hi.1.create hc, hi.2.create hc⟩)
    (fun _ _ _ _ _ _ _ _ hi hm => ⟨hi.1.mutate hm, hi.2.mutate hi.1 hm⟩) h

/-- What the lock documents of a state say about its runs and about the next mutation. -/
structure LockGuarantees (hashing : Hashing) (s : Store) : Prop where
  /-- A lock exists and names a run exactly when that run of the credential is under way. -/
  lock_iff : ∀ o c i, (∃ lock, s.locks (o, c) = some lock ∧ lock.runId = i) ↔
    ∃ run, s.runs (o, i) = some run ∧ run.credentialId = c ∧ run.status ∈ active
  /-- At most one run of a credential is under way. -/
  one_active : ∀ o i j run other, s.runs (o, i) = some run → s.runs (o, j) = some other →
    run.credentialId = other.credentialId → run.status ∈ active → other.status ∈ active → i = j
  /-- Whatever is applied to a run without its lock cancels a failed run. -/
  applied_holds : ∀ machine now command result s',
    mutateRun hashing s machine now command = .ok (result, s') → result.applied = true →
    ∃ run, s.runs (command.organisationId, command.runId) = some run ∧
      ((∃ lock, s.locks (command.organisationId, run.credentialId) = some lock ∧
          lock.runId = command.runId) ∨
        (command.operation = "cancel" ∧ run.status = .failed))
  /-- Cancelling a failed run leaves every lock as it is. -/
  cancel_failed : ∀ machine now c result s' run,
    mutateRun hashing s machine now (.cancel c) = .ok (result, s') →
    s.runs (c.organisationId, c.runId) = some run → run.status = .failed → s'.locks = s.locks

/-- A run holds the lock of its credential exactly when it is active. -/
theorem Locked.lock_iff (hl : Locked s) (hp : Placed s) (o c i : Identifier) :
    (∃ lock, s.locks (o, c) = some lock ∧ lock.runId = i) ↔
      ∃ run, s.runs (o, i) = some run ∧ run.credentialId = c ∧ run.status ∈ active := by
  have agree := hl.agree (o, c) (o, i)
  rw [holder, Option.map_eq_some_iff, demand, Option.bind_eq_some_iff] at agree
  constructor
  · rintro ⟨lock, hlock, rfl⟩
    obtain ⟨run, hr, hd⟩ := agree.mp ⟨lock, hlock, rfl⟩
    unfold demandOf at hd
    split at hd
    · rename_i ha
      cases hd
      exact ⟨run, hr, rfl, ha⟩
    · cases hd
  · rintro ⟨run, hr, rfl, ha⟩
    obtain ⟨lock, hlock, he⟩ := agree.mpr ⟨run, hr, by rw [demandOf, if_pos ha, (hp.run hr).1]⟩
    cases he
    exact ⟨lock, hlock, rfl⟩

/-- The credential lock in every reachable state. -/
theorem credential_lock (h : (repository hashing).Reachable Initial s) : LockGuarantees hashing s := by
  obtain ⟨hp, hl⟩ := reachable_locked h
  refine ⟨hl.lock_iff hp, ?_, ?_, ?_⟩
  · intro o i j run other hr ho hc ha hb
    obtain ⟨lock, hlock, rfl⟩ := (hl.lock_iff hp o run.credentialId i).mpr ⟨run, hr, rfl, ha⟩
    obtain ⟨lock', hlock', rfl⟩ := (hl.lock_iff hp o run.credentialId j).mpr ⟨other, ho, hc.symm, hb⟩
    rw [hlock] at hlock'
    cases hlock'
    rfl
  · intro machine now command result s' hm happ
    rcases mutate_ok.mp hm with ⟨run, updated, hm⟩ | hr
    · refine ⟨run, hm.found, hm.lock.imp_left ?_⟩
      rintro ⟨lock, hlock, hid⟩
      exact ⟨lock, hlock, hid.trans (hp.run hm.found).2⟩
    · rw [hr.unapplied] at happ
      cases happ
  · intro machine now c result s' run hm hf hs
    rcases mutate_ok.mp hm with ⟨run', updated, hm⟩ | hr
    · obtain rfl : run = run' := Option.some.inj (hf.symm.trans hm.found)
      have free : ¬ HoldsLock s c.organisationId run := by
        intro hh
        have owned := hl.demand_of_holds hp hf hh
        rw [demand, hf, Option.bind_some, demandOf, hs] at owned
        cases owned
      exact (Mutates.locks hm).trans (if_neg fun hc => free hc.1)
    · rw [hr.store_eq]

/-- The guarantees after one create call. -/
theorem credential_lock_sample : LockGuarantees Hashing.sample sampleCreated :=
  credential_lock sampleCreated_reachable

end Uumi.Workflow
