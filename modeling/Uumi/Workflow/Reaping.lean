import Uumi.Coordinator.Context
import Uumi.State.Validity
import Uumi.Workflow.Recovery

/-! The sweep over the runs whose workers are gone: each one in its own transactions, any of which may be turned
down, and then the sweep ends. -/
namespace Uumi.Workflow
open Uumi.Contracts Uumi.Core Uumi.Foundations Uumi.Policy Uumi.State Uumi.Storage

private theorem reap_accepts (checksum : Coordinator.Checksum) : identifierAccepts ("reap_" ++ checksum.text) = true := by
  obtain ⟨text, hlength, hdigits⟩ := checksum
  have hall : text.toList.all (fun d => identifierAccepts.lower d || ('0' ≤ d && d ≤ '9') || d == '_' || d == '-') =
      true := by
    simp only [List.all_eq_true] at hdigits ⊢
    exact fun c hc => Coordinator.hexadecimal_follows (hdigits c hc)
  simp [identifierAccepts, String.toList_append, String.length_append, hlength, hall]
  decide

def reapId (checksum : String → Coordinator.Checksum) (run : RotationRun) (operation : String) : Identifier where
  text := "reap_" ++
    (checksum (Coordinator.joined [run.organisationId.text, run.id.text, s!"{run.revision}", operation])).text
  accepted := reap_accepts _

def recoveryExpired : Failure where
  code := ⟨"recovery-lease-expired", by decide⟩
  message := ⟨"Recovery worker lease expired before recovery completed.", by decide⟩
  retryable := false
  evidenceIds := []

def stageExpired (stage : Stage) : Failure where
  code := ⟨"stage-lease-expired", by decide⟩
  message := ⟨s!"Worker lease expired while executing {stage.value}.", by cases stage <;> decide⟩
  retryable := true
  evidenceIds := []

def recoveryStages : List Stage := [.deploy, .verify, .rollout, .observe]

def restartExpiry (now : AwareDatetime) : AwareDatetime := { now with instant := now.instant + 1800000000 }

/-- A run that a sweep at a time takes up. -/
def Reapable (now : AwareDatetime) (run : RotationRun) : Prop :=
  run.status = .cleanup ∨
    run.status ∈ [.running, .recovering] ∧ ∃ lease ∈ run.lease, lease.expiresAt ≤ now

instance (now : AwareDatetime) (run : RotationRun) : Decidable (Reapable now run) := by
  unfold Reapable
  infer_instance

/-- One sweep: who asks for it and when, what the clock says at each of its transactions, and what other programs
ask of the repository before each of them. -/
structure Sweep where
  machine : RotationMachine
  checksum : String → Coordinator.Checksum
  organisationId : Identifier
  actorId : Identifier
  now : AwareDatetime
  clock : ℕ → AwareDatetime
  others : ℕ → List Call

/-- `ReapResult`. -/
structure ReapResult where
  scanned : Nat
  restarted : Nat
  failed : Nat
  runs : List RotationRun

namespace Sweep
variable (sweep : Sweep)

def command (run : RotationRun) (organisationId : Identifier) (operation : String) : CommandBase where
  id := reapId sweep.checksum run operation
  organisationId
  runId := run.id
  actorId := sweep.actorId
  expectedRevision := run.revision

/-- The command of `_restart_recovery`. -/
def recover (run : RotationRun) : RunCommand := .recover
  { sweep.command run run.organisationId "recover" with
    ownerId := sweep.actorId
    expiresAt := restartExpiry sweep.now }

def failRecovery (run : RotationRun) : RunCommand := .fail
  { sweep.command run sweep.organisationId "fail-recovery" with
    fencingToken := run.fencingToken
    failure := recoveryExpired }

def cleanup (run : RotationRun) : RunCommand := .cleanup
  { sweep.command run sweep.organisationId "cleanup" with
    fencingToken := run.fencingToken
    failure := stageExpired run.stage }

def fail (run : RotationRun) : RunCommand := .fail
  { sweep.command run sweep.organisationId "fail" with
    fencingToken := run.fencingToken
    failure := stageExpired run.stage }

section
variable (hashing : Hashing)

def found (n : ℕ) (store : Store) : Store := (repository hashing).run store (sweep.others n)

def transact (n : ℕ) (store : Store) (command : RunCommand) : Except Error (MutationResult × Store) :=
  mutateRun hashing (sweep.found hashing n store) sweep.machine (sweep.clock n) command

def turn (n : ℕ) (store : Store) (run : RotationRun) : Except Error (MutationResult × Store × ℕ) :=
  if run.status = .cleanup then do
    let (result, store) ← sweep.transact hashing n store (sweep.recover run)
    return (result, store, n + 1)
  else if run.status = .recovering then do
    let (result, store) ← sweep.transact hashing n store (sweep.failRecovery run)
    return (result, store, n + 1)
  else if run.stage ∈ recoveryStages ∧ run.planId.isSome then do
    let (cleaned, store) ← sweep.transact hashing n store (sweep.cleanup run)
    let (result, store) ← sweep.transact hashing (n + 1) store (sweep.recover cleaned.run)
    return (result, store, n + 2)
  else do
    let (result, store) ← sweep.transact hashing n store (sweep.fail run)
    return (result, store, n + 1)

def turns (n : ℕ) (store : Store) : List RotationRun → Except Error (List RotationRun × Store)
  | [] => .ok ([], store)
  | run :: runs => do
    let (result, store, n) ← sweep.turn hashing n store run
    let (rest, store) ← turns n store runs
    return (result.run :: rest, store)

def Restarts (run : RotationRun) : Prop :=
  run.status = .cleanup ∨ run.status ≠ .recovering ∧ run.stage ∈ recoveryStages ∧ run.planId.isSome

instance (run : RotationRun) : Decidable (Restarts run) := by
  unfold Restarts
  infer_instance

def reapExpired (listed : Store) (runs : List RotationRun) : Except Error (ReapResult × Store) := do
  let candidates := runs.filter (Reapable sweep.now ·)
  let (changed, store) ← sweep.turns hashing 0 listed candidates
  return ({
    scanned := candidates.length
    restarted := candidates.countP (Restarts ·)
    failed := candidates.countP (¬ Restarts ·)
    runs := changed }, store)

end
end Sweep

section
variable {hashing : Hashing} {s s' : Store} {machine : RotationMachine} {now : AwareDatetime} {command : RunCommand}
  {run after : RotationRun} {result : MutationResult}

/-- A run that was read: it is as it was, or at a later revision. -/
def Kept (s : Store) (run : RotationRun) : Prop :=
  ∃ stored, s.runs (run.organisationId, run.id) = some stored ∧ (stored = run ∨ run.revision < stored.revision)

private theorem kept_mutated {updated old : RotationRun} (h : Kept s run)
    (effect : Mutates hashing s machine now command old updated result s') : Kept s' run := by
  obtain ⟨stored, hstored, hgrown⟩ := h
  by_cases hkey : (run.organisationId, run.id) = (command.organisationId, command.runId)
  · obtain rfl : stored = old := Option.some.inj (hstored.symm.trans (hkey ▸ effect.found))
    refine ⟨updated, ?_, .inr ?_⟩
    · rw [effect.runs, hkey, Collection.set_same]
    · rw [effect.bumped]
      rcases hgrown with rfl | hgrown
      · exact Nat.lt_succ_self _
      · exact hgrown.trans (Nat.lt_succ_self _)
  · exact ⟨stored, by rw [effect.runs, Collection.set_of_ne hkey, hstored], hgrown⟩

private theorem kept_run (hp : Placed s) (h : Kept s run) (calls : List Call) :
    Kept ((repository hashing).run s calls) run := by
  refine ((repository hashing).run_invariant (I := fun s => Placed s ∧ Kept s run) (A := fun _ => True)
    ?_ calls (fun _ _ => trivial) s ⟨hp, h⟩).2
  rintro s call result s' - ⟨hp, hk⟩ hperform
  refine ⟨perform_placed hp hperform, ?_⟩
  cases perform_effect hperform with
  | created command newId now _ effect =>
    obtain ⟨stored, hstored, hgrown⟩ := hk
    refine ⟨stored, ?_, hgrown⟩
    rw [effect.runs, Collection.set_of_ne ?_, hstored]
    intro hkey
    rw [hkey] at hstored
    cases hstored.symm.trans effect.new
  | mutated machine now command old updated _ effect => exact kept_mutated hk effect
  | replayed _ unchanged => exact unchanged ▸ hk

/-- The run stands in the repository as it was listed, and the id of the command was never used. -/
structure Free (s : Store) (command : RunCommand) (run : RotationRun) : Prop where
  unchanged : s.runs (command.organisationId, command.runId) = some run
  new : s.steps (command.organisationId, command.runId, command.id) = none
  unused : s.outbox (command.organisationId, command.id) = none

/-- The same command was recorded before, and this has become of its run. -/
structure RunRecorded (hashing : Hashing) (s : Store) (command : RunCommand) (after : RotationRun) : Prop where
  step : ∃ step, s.steps (command.organisationId, command.runId, command.id) = some step ∧
    step.commandHash = mutationHash hashing command
  found : s.runs (command.organisationId, command.runId) = some after

/-- A command of a sweep addresses its run, at the revision that was read, cancels nothing and brings no proof. -/
structure Addresses (command : RunCommand) (run : RotationRun) : Prop where
  organisationId : command.organisationId = run.organisationId
  runId : command.runId = run.id
  revision : command.expectedRevision = run.revision
  goes_on : command.operation ≠ "cancel"
  unproven : stageProof command = none

private theorem Free.mutates (reachable : (repository hashing).Reachable Initial s) (free : Free s command run)
    (addressed : Addresses command run) (hactive : run.status ∈ active)
    (hperform : machine.perform run (operation now command) = .ok after) :
    Mutates hashing s machine now command run after
      { run := after, step := mutateStep hashing run after command (stageProof command), applied := true }
      (s.commitMutation hashing run after command (eventKind command) (stageProof command)) := by
  obtain ⟨hp, hl⟩ := reachable_locked reachable
  obtain ⟨horg, hid⟩ := hp.run free.unchanged
  have hs : Succeeds run.toRunFields after.toRunFields := RotationMachine.perform_succeeds hperform
  obtain ⟨lock, hlock, hlocked⟩ := (hl.lock_iff hp command.organisationId run.credentialId command.runId).mpr
    ⟨run, free.unchanged, rfl, hactive⟩
  exact {
    new := free.new
    unused := free.unused
    found := free.unchanged
    organisationId := horg
    revision := addressed.revision.symm
    lock := .inl ⟨lock, hlock, hlocked.trans hid.symm⟩
    gate := by rw [addressed.unproven]; rintro _ ⟨⟩
    transition_ok := hperform
    same_organisation := hs.organisationId.trans horg
    same_run := hs.id
    bumped := hs.revision
    result_eq := rfl
    store_eq := rfl }

/-- A transaction takes effect on a run under way that is as it was read, or finds its own record. -/
theorem mutateRun_iff (reachable : (repository hashing).Reachable Initial s) (kept : Kept s run)
    (addressed : Addresses command run) :
    (∃ result s', mutateRun hashing s machine now command = .ok (result, s') ∧ result.run = after) ↔
      Free s command run ∧ run.status ∈ active ∧ machine.perform run (operation now command) = .ok after ∨
        RunRecorded hashing s command after := by
  obtain ⟨hp, hl⟩ := reachable_locked reachable
  obtain ⟨stored, hstored, hgrown⟩ := kept
  rw [← addressed.organisationId, ← addressed.runId] at hstored
  constructor
  · rintro ⟨result, s', hm, rfl⟩
    rcases mutate_ok.mp hm with ⟨old, updated, effect⟩ | replayed
    · obtain rfl : stored = old := Option.some.inj (hstored.symm.trans effect.found)
      have hsame : stored = run := by
        refine hgrown.resolve_right fun hlt => ?_
        rw [effect.revision, addressed.revision] at hlt
        exact lt_irrefl _ hlt
      subst hsame
      have hactive : stored.status ∈ active := by
        obtain ⟨lock, hlock, hlocked⟩ := effect.lock.resolve_right fun h => addressed.goes_on h.1
        obtain ⟨found, hfound, -, hstatus⟩ := (hl.lock_iff hp command.organisationId stored.credentialId stored.id).mp
          ⟨lock, hlock, hlocked⟩
        rw [← addressed.runId, hstored] at hfound
        exact Option.some.inj hfound ▸ hstatus
      refine .inl ⟨⟨hstored, effect.new, effect.unused⟩, hactive, ?_⟩
      rw [effect.result_eq]
      exact effect.transition_ok
    · exact .inr ⟨⟨_, replayed.recorded, replayed.same⟩, replayed.found⟩
  · rintro (⟨free, hactive, hperform⟩ | recorded)
    · exact ⟨_, _, mutate_ok.mpr (.inl ⟨run, after, free.mutates reachable addressed hactive hperform⟩), rfl⟩
    · obtain ⟨step, hstep, hhash⟩ := recorded.step
      exact ⟨{ run := after, step, applied := false }, s, mutate_ok.mpr (.inr
        { recorded := hstep
          same := hhash
          found := recorded.found
          organisationId := (hp.run recorded.found).1
          unapplied := rfl
          store_eq := rfl }), rfl⟩

/-- The run that a transaction returns is the one that it leaves. -/
theorem mutateRun_stored (h : mutateRun hashing s machine now command = .ok (result, s')) :
    s'.runs (command.organisationId, command.runId) = some result.run := by
  rcases mutate_ok.mp h with ⟨old, updated, effect⟩ | replayed
  · rw [Mutates.runs effect, Collection.set_same, effect.result_eq]
  · rw [replayed.store_eq]
    exact replayed.found

private theorem mutateRun_reachable (reachable : (repository hashing).Reachable Initial s)
    (h : mutateRun hashing s machine now command = .ok (result, s')) :
    (repository hashing).Reachable Initial s' := by
  have hp : (repository hashing).perform s (.mutate machine now command) = .ok (result, s') := h
  rw [← (repository hashing).exec_of_ok hp]
  exact reachable.exec _

private theorem mutateRun_keeps {other : RotationRun} (kept : Kept s other)
    (h : mutateRun hashing s machine now command = .ok (result, s')) : Kept s' other := by
  rcases mutate_ok.mp h with ⟨old, updated, effect⟩ | replayed
  · exact kept_mutated kept effect
  · exact replayed.store_eq ▸ kept

end

/-- What a sweep promises to leave a run in. -/
def settled : List RunStatus := [.recovering, .failed]

private theorem fail_settles {run : RotationRun} (hstatus : run.status ∈ [.running, .recovering])
    (hlease : run.lease.isSome) (failure : Failure) (now : AwareDatetime) :
    ∃ after, RotationMachine.fail run failure run.fencingToken run.revision now = .ok after := by
  obtain ⟨lease, hlease⟩ := Option.isSome_iff_exists.mp hlease
  have hopen : run.status ∉ [.completed, .failed, .compensated] := by
    intro h
    rcases List.mem_pair.mp hstatus with hs | hs <;> simp [hs] at h
  have hinterrupts : RotationMachine.Interrupts run run.fencingToken run.revision now :=
    ⟨rfl, lease, hlease, fun _ => run.valid.lease lease hlease⟩
  have hvalid : RaisesOnly Error.IsTransitionError
      (RotationMachine.fail run failure run.fencingToken run.revision now) := RotationMachine.raises_fail failure
  rw [RotationMachine.fail, raisesOnly_ok_bind ((raiseIf_ok _ _ ()).mpr hopen),
    raisesOnly_ok_bind (RotationMachine.interruptControl_ok.mpr hinterrupts), RotationMachine.raises_update_iff] at hvalid
  obtain ⟨after, -, hafter⟩ := RotationRun.modelValidate_of_valid hvalid
  exact ⟨after, RotationMachine.fail_ok.mpr ⟨hopen, hinterrupts, hafter⟩⟩

private theorem cleanup_succeeds {run : RotationRun} (hstatus : run.status = .running)
    (hlease : run.lease.isSome) (failure : Failure) (now : AwareDatetime) :
    ∃ after, RotationMachine.cleanup run failure run.fencingToken run.revision now = .ok after := by
  obtain ⟨lease, hlease⟩ := Option.isSome_iff_exists.mp hlease
  have hopen : run.status ∈ [.running, .recovering, .paused] := by simp [hstatus]
  have hinterrupts : RotationMachine.Interrupts run run.fencingToken run.revision now :=
    ⟨rfl, lease, hlease, fun _ => run.valid.lease lease hlease⟩
  have hvalid : RaisesOnly Error.IsTransitionError
      (RotationMachine.cleanup run failure run.fencingToken run.revision now) :=
    (RotationMachine.raises_cleanup_iff failure).mpr fun h => by simp [hstatus] at h
  rw [RotationMachine.cleanup, raisesOnly_ok_bind (RotationMachine.interruptControl_ok.mpr hinterrupts),
    raisesOnly_ok_bind ((raiseIf_ok _ _ ()).mpr (not_not.mpr hopen)), RotationMachine.raises_update_iff] at hvalid
  obtain ⟨after, -, hafter⟩ := RotationRun.modelValidate_of_valid hvalid
  exact ⟨after, RotationMachine.cleanup_ok.mpr ⟨hinterrupts, hopen, hafter⟩⟩

private theorem recover_succeeds {run : RotationRun} {owner : Identifier} {expires now : AwareDatetime}
    (hstatus : run.status ∈ [.failed, .cleanup])
    (hunowned : ∀ lease ∈ run.lease, now < lease.expiresAt → lease.ownerId = owner) (hfuture : now < expires) :
    ∃ after, RotationMachine.recover run owner run.revision expires now = .ok after := by
  have hvalid : RaisesOnly Error.IsTransitionError
      (RotationMachine.recover run owner run.revision expires now) := RotationMachine.raises_recover owner
  rw [RotationMachine.recover, raisesOnly_ok_bind (RotationMachine.checkRevision_ok.mpr rfl),
    raisesOnly_ok_bind ((raiseIf_ok _ _ ()).mpr (not_not.mpr hstatus)),
    raisesOnly_ok_bind (RotationMachine.unowned_ok.mpr hunowned),
    raisesOnly_ok_bind (RotationMachine.future_ok.mpr hfuture), RotationMachine.raises_update_iff] at hvalid
  obtain ⟨after, -, hafter⟩ := RotationRun.modelValidate_of_valid hvalid
  exact ⟨after, RotationMachine.recover_ok.mpr ⟨rfl, hstatus, hunowned, hfuture, hafter⟩⟩

namespace Sweep
section
variable (sweep : Sweep) (hashing : Hashing)

/-- A failing command goes through: the run is as it was listed, or the command was recorded before and the run is
settled. -/
def FailsAt (n : ℕ) (store : Store) (command : RunCommand) (run : RotationRun) : Prop :=
  Free (sweep.found hashing n store) command run ∨
    ∃ after, RunRecorded hashing (sweep.found hashing n store) command after ∧ after.status ∈ settled

/-- Nobody else holds a live lease on the run, and the new lease is in the future. -/
structure Restartable (n : ℕ) (run : RotationRun) : Prop where
  interrupted : run.status = .cleanup
  unowned : ∀ lease ∈ run.lease, sweep.clock n < lease.expiresAt → lease.ownerId = sweep.actorId
  timely : sweep.clock n < restartExpiry sweep.now

/-- A restart goes through. -/
def RestartsAt (n : ℕ) (store : Store) (run : RotationRun) : Prop :=
  Free (sweep.found hashing n store) (sweep.recover run) run ∧ sweep.Restartable n run ∨
    ∃ after, RunRecorded hashing (sweep.found hashing n store) (sweep.recover run) after ∧ after.status ∈ settled

/-- The turn of a run goes through. -/
def Ready (n : ℕ) (store : Store) (run : RotationRun) : Prop :=
  if run.status = .cleanup then sweep.RestartsAt hashing n store run
  else if run.status = .recovering then sweep.FailsAt hashing n store (sweep.failRecovery run) run
  else if run.stage ∈ recoveryStages ∧ run.planId.isSome then
    (Free (sweep.found hashing n store) (sweep.cleanup run) run ∨
      ∃ after, RunRecorded hashing (sweep.found hashing n store) (sweep.cleanup run) after) ∧
    ∀ cleaned left, sweep.transact hashing n store (sweep.cleanup run) = .ok (cleaned, left) →
      sweep.RestartsAt hashing (n + 1) left cleaned.run
  else sweep.FailsAt hashing n store (sweep.fail run) run

end

variable {sweep : Sweep} {hashing : Hashing} {n : ℕ} {store left : Store} {run : RotationRun} {result : MutationResult}

private theorem found_reachable (reachable : (repository hashing).Reachable Initial store) :
    (repository hashing).Reachable Initial (sweep.found hashing n store) :=
  reachable.run _

private theorem found_kept (reachable : (repository hashing).Reachable Initial store) (kept : Kept store run) :
    Kept (sweep.found hashing n store) run :=
  kept_run (reachable_placed reachable) kept _

private theorem transact_left (reachable : (repository hashing).Reachable Initial store) {command : RunCommand}
    (h : sweep.transact hashing n store command = .ok (result, left)) :
    (repository hashing).Reachable Initial left ∧ left.runs (command.organisationId, command.runId) = some result.run ∧
      ∀ other, Kept store other → Kept left other :=
  ⟨mutateRun_reachable (found_reachable reachable) h, mutateRun_stored h,
    fun _ kept => mutateRun_keeps (found_kept reachable kept) h⟩

variable (sweep n) in
private theorem transact_iff (reachable : (repository hashing).Reachable Initial store) (kept : Kept store run)
    {command : RunCommand} (addressed : Addresses command run) (after : RotationRun) :
    (∃ result left, sweep.transact hashing n store command = .ok (result, left) ∧ result.run = after) ↔
      Free (sweep.found hashing n store) command run ∧ run.status ∈ active ∧
          sweep.machine.perform run (operation (sweep.clock n) command) = .ok after ∨
        RunRecorded hashing (sweep.found hashing n store) command after :=
  mutateRun_iff (found_reachable reachable) (found_kept reachable kept) addressed

private theorem failRecovery_addresses (ho : run.organisationId = sweep.organisationId) :
    Addresses (sweep.failRecovery run) run :=
  ⟨ho.symm, rfl, rfl, (by decide : "fail" ≠ "cancel"), rfl⟩

private theorem fail_addresses (ho : run.organisationId = sweep.organisationId) : Addresses (sweep.fail run) run :=
  ⟨ho.symm, rfl, rfl, (by decide : "fail" ≠ "cancel"), rfl⟩

private theorem cleanup_addresses (ho : run.organisationId = sweep.organisationId) :
    Addresses (sweep.cleanup run) run :=
  ⟨ho.symm, rfl, rfl, (by decide : "cleanup" ≠ "cancel"), rfl⟩

variable (sweep run) in
private theorem recover_addresses : Addresses (sweep.recover run) run :=
  ⟨rfl, rfl, rfl, (by decide : "recover" ≠ "cancel"), rfl⟩

private theorem transact_fail_iff (reachable : (repository hashing).Reachable Initial store) (kept : Kept store run)
    (hstatus : run.status ∈ [.running, .recovering]) (hlease : run.lease.isSome) {base : CommandBase}
    {failure : Failure} (addressed : Addresses (.fail { base with fencingToken := run.fencingToken, failure }) run) :
    (∃ result left, sweep.transact hashing n store
        (.fail { base with fencingToken := run.fencingToken, failure }) = .ok (result, left) ∧
      result.run.status ∈ settled) ↔
      sweep.FailsAt hashing n store (.fail { base with fencingToken := run.fencingToken, failure }) run := by
  have hiff := fun after => transact_iff sweep n reachable kept addressed after
  have hrevision : base.expectedRevision = run.revision := addressed.revision
  constructor
  · rintro ⟨result, left, h, hsettled⟩
    rcases (hiff result.run).mp ⟨result, left, h, rfl⟩ with ⟨free, -⟩ | recorded
    · exact .inl free
    · exact .inr ⟨_, recorded, hsettled⟩
  · rintro (free | ⟨after, recorded, hsettled⟩)
    · obtain ⟨after, hafter⟩ := fail_settles hstatus hlease failure (sweep.clock n)
      have hactive : run.status ∈ active := by
        rcases List.mem_pair.mp hstatus with hs | hs <;> simp [hs, active]
      obtain ⟨result, left, h, rfl⟩ := (hiff after).mpr (.inl ⟨free, hactive, by
        rw [← hrevision] at hafter
        exact hafter⟩)
      obtain ⟨-, -, hfields⟩ := RotationMachine.fail_ok.mp hafter
      have hstatus : result.run.status = .failed := congrArg RunFields.status hfields
      exact ⟨result, left, h, by simp [hstatus, settled]⟩
    · obtain ⟨result, left, h, rfl⟩ := (hiff after).mpr (.inr recorded)
      exact ⟨result, left, h, hsettled⟩

private theorem transact_recover_iff (reachable : (repository hashing).Reachable Initial store)
    (kept : Kept store run) :
    (∃ result left, sweep.transact hashing n store (sweep.recover run) = .ok (result, left) ∧
      result.run.status ∈ settled) ↔ sweep.RestartsAt hashing n store run := by
  have hiff := fun after => transact_iff sweep n reachable kept (recover_addresses sweep run) after
  constructor
  · rintro ⟨result, left, h, hsettled⟩
    rcases (hiff result.run).mp ⟨result, left, h, rfl⟩ with ⟨free, hactive, hperform⟩ | recorded
    · obtain ⟨-, hstatus, hunowned, hfuture, -⟩ := RotationMachine.recover_ok.mp hperform
      have hcleanup : run.status = .cleanup := by
        rcases List.mem_pair.mp hstatus with hs | hs
        · rw [hs] at hactive
          exact absurd hactive (by decide)
        · exact hs
      exact .inl ⟨free, hcleanup, hunowned, hfuture⟩
    · exact .inr ⟨_, recorded, hsettled⟩
  · rintro (⟨free, restartable⟩ | ⟨after, recorded, hsettled⟩)
    · obtain ⟨after, hafter⟩ := recover_succeeds (by simp [restartable.interrupted]) restartable.unowned
        restartable.timely
      obtain ⟨result, left, h, rfl⟩ := (hiff after).mpr
        (.inl ⟨free, by simp [restartable.interrupted, active], hafter⟩)
      obtain ⟨-, -, -, -, hfields⟩ := RotationMachine.recover_ok.mp hafter
      have hstatus : result.run.status = .recovering := congrArg RunFields.status hfields
      exact ⟨result, left, h, by simp [hstatus, settled]⟩
    · obtain ⟨result, left, h, rfl⟩ := (hiff after).mpr (.inr recorded)
      exact ⟨result, left, h, hsettled⟩

/-- The turn of a listed run goes through and settles it exactly when it is ready. -/
theorem turn_iff (reachable : (repository hashing).Reachable Initial store) (kept : Kept store run)
    (ho : run.organisationId = sweep.organisationId) (hreap : Reapable sweep.now run) :
    (∃ result left m, sweep.turn hashing n store run = .ok (result, left, m) ∧ result.run.status ∈ settled) ↔
      sweep.Ready hashing n store run := by
  unfold turn Ready
  split
  · simp only [bind_ok, pure_ok]
    rw [← transact_recover_iff reachable kept]
    constructor
    · rintro ⟨result, left, m, ⟨⟨_, _⟩, h, he⟩, hsettled⟩
      cases he
      exact ⟨_, _, h, hsettled⟩
    · rintro ⟨result, left, h, hsettled⟩
      exact ⟨result, left, n + 1, ⟨(result, left), h, rfl⟩, hsettled⟩
  · rename_i hcleanup
    obtain ⟨hstatus, lease, hlease, -⟩ := hreap.resolve_left hcleanup
    have hlease : run.lease.isSome := Option.isSome_of_mem hlease
    have failing : ∀ command, ((∃ result left, sweep.transact hashing n store command = .ok (result, left) ∧
        result.run.status ∈ settled) ↔ sweep.FailsAt hashing n store command run) →
        ((∃ result left m, (do
          let (result, store) ← sweep.transact hashing n store command
          return (result, store, n + 1) : Except Error (MutationResult × Store × ℕ)) = .ok (result, left, m) ∧
            result.run.status ∈ settled) ↔ sweep.FailsAt hashing n store command run) := by
      intro command hiff
      simp only [bind_ok, pure_ok]
      rw [← hiff]
      constructor
      · rintro ⟨result, left, m, ⟨⟨_, _⟩, h, he⟩, hsettled⟩
        cases he
        exact ⟨_, _, h, hsettled⟩
      · rintro ⟨result, left, h, hsettled⟩
        exact ⟨result, left, n + 1, ⟨(result, left), h, rfl⟩, hsettled⟩
    split
    · exact failing _ (transact_fail_iff reachable kept hstatus hlease (failRecovery_addresses ho))
    · rename_i hrecovering
      have hrunning : run.status = .running := by
        rcases List.mem_pair.mp hstatus with hs | hs
        · exact hs
        · exact absurd hs hrecovering
      split
      · have hiff := fun after => transact_iff sweep n reachable kept (cleanup_addresses ho) after
        -- what the cleanup leaves is what its result says
        have hnext : ∀ cleaned left, sweep.transact hashing n store (sweep.cleanup run) = .ok (cleaned, left) →
            (repository hashing).Reachable Initial left ∧ Kept left cleaned.run := by
          intro cleaned left h
          obtain ⟨hreach, hstored, -⟩ := transact_left reachable h
          obtain ⟨horg, hid⟩ := (reachable_placed hreach).run hstored
          exact ⟨hreach, cleaned.run, by rw [horg, hid, hstored], .inl rfl⟩
        constructor
        · rintro ⟨result, left, m, h, hsettled⟩
          simp only [bind_ok, pure_ok] at h
          obtain ⟨⟨cleaned, middle⟩, hclean, ⟨_, _⟩, hrestart, he⟩ := h
          cases he
          refine ⟨?_, fun cleaned' left' h => ?_⟩
          · rcases (hiff cleaned.run).mp ⟨cleaned, middle, hclean, rfl⟩ with ⟨free, -⟩ | recorded
            · exact .inl free
            · exact .inr ⟨_, recorded⟩
          · cases hclean.symm.trans h
            obtain ⟨hreach, hkept⟩ := hnext cleaned middle hclean
            exact (transact_recover_iff hreach hkept).mp ⟨_, _, hrestart, hsettled⟩
        · rintro ⟨hclean, hrestart⟩
          have hcleaned : ∃ cleaned middle, sweep.transact hashing n store (sweep.cleanup run) = .ok (cleaned, middle) := by
            rcases hclean with free | ⟨after, recorded⟩
            · obtain ⟨after, hafter⟩ := cleanup_succeeds hrunning hlease (stageExpired run.stage) (sweep.clock n)
              obtain ⟨cleaned, middle, h, -⟩ := (hiff after).mpr
                (.inl ⟨free, by simp [hrunning, active], hafter⟩)
              exact ⟨cleaned, middle, h⟩
            · obtain ⟨cleaned, middle, h, -⟩ := (hiff after).mpr (.inr recorded)
              exact ⟨cleaned, middle, h⟩
          obtain ⟨cleaned, middle, h⟩ := hcleaned
          obtain ⟨hreach, hkept⟩ := hnext cleaned middle h
          obtain ⟨result, left, h', hsettled⟩ := (transact_recover_iff hreach hkept).mpr (hrestart cleaned middle h)
          refine ⟨result, left, n + 2, ?_, hsettled⟩
          simp only [bind_ok, pure_ok]
          exact ⟨(cleaned, middle), h, (result, left), h', rfl⟩
      · exact failing _ (transact_fail_iff reachable kept hstatus hlease (fail_addresses ho))

private theorem turn_left (reachable : (repository hashing).Reachable Initial store)
    (ho : run.organisationId = sweep.organisationId) {m : ℕ}
    (h : sweep.turn hashing n store run = .ok (result, left, m)) :
    (repository hashing).Reachable Initial left ∧ (∀ other, Kept store other → Kept left other) ∧
      left.runs (run.organisationId, run.id) = some result.run := by
  have single : ∀ command, Addresses command run →
      (do
        let (result, store) ← sweep.transact hashing n store command
        return (result, store, n + 1) : Except Error (MutationResult × Store × ℕ)) = .ok (result, left, m) →
      (repository hashing).Reachable Initial left ∧ (∀ other, Kept store other → Kept left other) ∧
        left.runs (run.organisationId, run.id) = some result.run := by
    intro command addressed h
    simp only [bind_ok, pure_ok] at h
    obtain ⟨⟨_, _⟩, htransact, he⟩ := h
    cases he
    obtain ⟨hreach, hstored, hkept⟩ := transact_left reachable htransact
    rw [addressed.organisationId, addressed.runId] at hstored
    exact ⟨hreach, hkept, hstored⟩
  unfold turn at h
  split at h
  · exact single _ (recover_addresses sweep run) h
  · split at h
    · exact single _ (failRecovery_addresses ho) h
    · split at h
      · simp only [bind_ok, pure_ok] at h
        obtain ⟨⟨cleaned, middle⟩, hclean, ⟨_, _⟩, hrestart, he⟩ := h
        cases he
        obtain ⟨hreach, hstored, hkept⟩ := transact_left reachable hclean
        obtain ⟨hreach', hstored', hkept'⟩ := transact_left hreach hrestart
        obtain ⟨horg, hid⟩ := (reachable_placed hreach).run hstored
        refine ⟨hreach', fun other hother => hkept' other (hkept other hother), ?_⟩
        have horg : cleaned.run.organisationId = run.organisationId := horg.trans ho.symm
        have hid : cleaned.run.id = run.id := hid
        rw [← horg, ← hid]
        exact hstored'
      · exact single _ (fail_addresses ho) h

private theorem free_transact {command other : RunCommand} (alone : sweep.others n = []) (free : Free store command run)
    (h : sweep.transact hashing n store other = .ok (result, left)) (hrun : command.runId ≠ other.runId)
    (hid : command.id ≠ other.id) : Free left command run := by
  rw [transact, found, alone] at h
  rcases mutate_ok.mp h with ⟨old, updated, effect⟩ | replayed
  · refine ⟨?_, ?_, ?_⟩
    · rw [Mutates.runs effect, Collection.set_of_ne fun h => hrun (Prod.mk.inj h).2]
      exact free.unchanged
    · rw [Mutates.steps effect, Collection.set_of_ne fun h => hid (Prod.mk.inj (Prod.mk.inj h).2).2]
      exact free.new
    · rw [Mutates.outbox effect, Collection.set_of_ne fun h => hid (Prod.mk.inj h).2]
      exact free.unused
  · rw [replayed.store_eq]
    exact free

private theorem turn_recovering (hstatus : run.status = .recovering) {m : ℕ}
    (h : sweep.turn hashing n store run = .ok (result, left, m)) :
    sweep.transact hashing n store (sweep.failRecovery run) = .ok (result, left) := by
  have hcleanup : run.status ≠ .cleanup := by simp [hstatus]
  rw [turn, if_neg hcleanup, if_pos hstatus] at h
  simp only [bind_ok, pure_ok] at h
  obtain ⟨⟨_, _⟩, h, he⟩ := h
  cases he
  exact h

private theorem turn_cleanup (hstatus : run.status = .cleanup) {m : ℕ}
    (h : sweep.turn hashing n store run = .ok (result, left, m)) :
    sweep.transact hashing n store (sweep.recover run) = .ok (result, left) := by
  rw [turn, if_pos hstatus] at h
  simp only [bind_ok, pure_ok] at h
  obtain ⟨⟨_, _⟩, h, he⟩ := h
  cases he
  exact h

variable (sweep hashing) in
/-- Every run is ready when its turn comes. -/
def AllReady (n : ℕ) (store : Store) : List RotationRun → Prop
  | [] => True
  | run :: runs => sweep.Ready hashing n store run ∧ ∀ result left m,
      sweep.turn hashing n store run = .ok (result, left, m) → AllReady m left runs

private theorem turns_ids {runs changed : List RotationRun}
    (reachable : (repository hashing).Reachable Initial store)
    (ho : ∀ run ∈ runs, run.organisationId = sweep.organisationId)
    (h : sweep.turns hashing n store runs = .ok (changed, left)) :
    changed.map (·.id) = runs.map (·.id) := by
  induction runs generalizing n store changed with
  | nil =>
    cases h
    rfl
  | cons run runs ih =>
    simp only [turns, bind_ok, pure_ok] at h
    obtain ⟨⟨result, middle, m⟩, hturn, ⟨rest, final⟩, hrest, he⟩ := h
    cases he
    obtain ⟨hreach, -, hstored⟩ := turn_left reachable (ho run List.mem_cons_self) hturn
    have hid : result.run.id = run.id := ((reachable_placed hreach).run hstored).2
    have hids := ih hreach (fun other hother => ho other (List.mem_cons_of_mem _ hother)) hrest
    simp only [List.map_cons, hid, hids]

/-- All turns go through and settle their runs exactly when every run is ready. -/
theorem turns_iff {runs : List RotationRun} (reachable : (repository hashing).Reachable Initial store)
    (listed : ∀ run ∈ runs, run.organisationId = sweep.organisationId ∧ Reapable sweep.now run ∧ Kept store run) :
    (∃ changed left, sweep.turns hashing n store runs = .ok (changed, left) ∧
      ∀ after ∈ changed, after.status ∈ settled) ↔ sweep.AllReady hashing n store runs := by
  induction runs generalizing n store with
  | nil =>
    simp only [turns, AllReady, iff_true]
    exact ⟨[], store, rfl, fun _ hafter => absurd hafter List.not_mem_nil⟩
  | cons run runs ih =>
    obtain ⟨ho, hreap, hkept⟩ := listed run List.mem_cons_self
    have hiff := turn_iff (n := n) reachable hkept ho hreap
    have hnext : ∀ result middle m, sweep.turn hashing n store run = .ok (result, middle, m) →
        ((∃ changed left, sweep.turns hashing m middle runs = .ok (changed, left) ∧
          ∀ after ∈ changed, after.status ∈ settled) ↔ sweep.AllReady hashing m middle runs) := by
      intro result middle m hturn
      obtain ⟨hreach, hkeeps, -⟩ := turn_left reachable ho hturn
      refine ih hreach fun other hother => ?_
      obtain ⟨horg, hreapable, hk⟩ := listed other (List.mem_cons_of_mem _ hother)
      exact ⟨horg, hreapable, hkeeps other hk⟩
    constructor
    · rintro ⟨changed, left, h, hsettled⟩
      simp only [turns, bind_ok, pure_ok] at h
      obtain ⟨⟨result, middle, m⟩, hturn, ⟨rest, final⟩, hrest, he⟩ := h
      cases he
      refine ⟨hiff.mp ⟨result, middle, m, hturn, hsettled _ List.mem_cons_self⟩, ?_⟩
      intro result' middle' m' hturn'
      cases hturn.symm.trans hturn'
      exact (hnext _ _ _ hturn).mp ⟨rest, _, hrest, fun after hafter => hsettled after (List.mem_cons_of_mem _ hafter)⟩
    · rintro ⟨hready, hrest⟩
      obtain ⟨result, middle, m, hturn, hstatus⟩ := hiff.mpr hready
      obtain ⟨rest, final, hturns, hsettled⟩ := (hnext _ _ _ hturn).mpr (hrest _ _ _ hturn)
      refine ⟨result.run :: rest, final, ?_, ?_⟩
      · simp only [turns, bind_ok, pure_ok]
        exact ⟨(result, middle, m), hturn, (rest, final), hturns, rfl⟩
      · rintro after hafter
        rcases List.mem_cons.mp hafter with rfl | hafter
        · exact hstatus
        · exact hsettled after hafter

/-- `list_runs`, within its limit: the runs of an organisation, each one once. -/
structure Lists (store : Store) (organisationId : Identifier) (runs : List RotationRun) : Prop where
  mem_iff : ∀ run, run ∈ runs ↔ run.organisationId = organisationId ∧ store.runs (organisationId, run.id) = some run
  nodup : (runs.map (·.id)).Nodup
  limit : runs.length ≤ 500

variable (sweep hashing) in
/-- The sweep returns, and every run that it should take up is recovering or failed. -/
def ReapsAll (listed : Store) (runs : List RotationRun) : Prop :=
  ∃ result final, sweep.reapExpired hashing listed runs = .ok (result, final) ∧
    ∀ id run, listed.runs (sweep.organisationId, id) = some run → Reapable sweep.now run →
      ∃ after ∈ result.runs, after.id = id ∧ after.status ∈ settled

/-- A sweep settles every run that it should take up exactly when each of them is ready when its turn comes. -/
theorem reapsAll_iff {listed : Store} {runs : List RotationRun}
    (reachable : (repository hashing).Reachable Initial listed) (lists : Lists listed sweep.organisationId runs) :
    sweep.ReapsAll hashing listed runs ↔
      sweep.AllReady hashing 0 listed (runs.filter (Reapable sweep.now ·)) := by
  have hp := reachable_placed reachable
  have hlisted : ∀ run ∈ runs.filter (Reapable sweep.now ·), run.organisationId = sweep.organisationId ∧
      Reapable sweep.now run ∧ Kept listed run := by
    intro run hrun
    obtain ⟨hmem, hreap⟩ := List.mem_filter.mp hrun
    obtain ⟨ho, hstored⟩ := (lists.mem_iff run).mp hmem
    exact ⟨ho, of_decide_eq_true hreap, run, by rw [ho, hstored], .inl rfl⟩
  rw [← turns_iff reachable hlisted]
  constructor
  · rintro ⟨result, final, h, hall⟩
    simp only [reapExpired, bind_ok, pure_ok] at h
    obtain ⟨⟨changed, left⟩, hturns, he⟩ := h
    cases he
    refine ⟨changed, _, hturns, fun after hafter => ?_⟩
    have hids := turns_ids reachable (fun run hrun => (hlisted run hrun).1) hturns
    obtain ⟨run, hrun, hid⟩ := List.mem_map.mp (hids ▸ List.mem_map_of_mem hafter)
    obtain ⟨hmem, hreap⟩ := List.mem_filter.mp hrun
    obtain ⟨other, hother, hsame, hsettled⟩ := hall run.id run ((lists.mem_iff run).mp hmem).2 (of_decide_eq_true hreap)
    have hnodup : (changed.map (·.id)).Nodup := by
      rw [hids]
      exact lists.nodup.sublist (List.filter_sublist.map _)
    have heq : other = after := List.inj_on_of_nodup_map hnodup hother hafter (hsame.trans hid)
    exact heq ▸ hsettled
  · rintro ⟨changed, left, hturns, hsettled⟩
    refine ⟨_, left, by simp only [reapExpired, hturns, ok_bind]; rfl, fun id run hstored hreap => ?_⟩
    obtain ⟨ho, hid⟩ := hp.run hstored
    have hmem : run ∈ runs.filter (Reapable sweep.now ·) :=
      List.mem_filter.mpr ⟨(lists.mem_iff run).mpr ⟨ho, by rw [hid, hstored]⟩, decide_eq_true hreap⟩
    have hids := turns_ids reachable (fun run hrun => (hlisted run hrun).1) hturns
    obtain ⟨after, hafter, hsame⟩ := List.mem_map.mp (hids.symm ▸ List.mem_map_of_mem hmem)
    exact ⟨after, hafter, hsame.trans hid, hsettled after hafter⟩

end Sweep

def sampleChecksum : Coordinator.Checksum := ⟨"0000000000000000000000000000000000000000", by decide⟩

def sampleSweep (now : AwareDatetime) : Sweep where
  machine := {}
  checksum := fun _ => sampleChecksum
  organisationId := RotationRun.sample.organisationId
  actorId := operatorOne
  now := now
  clock := fun _ => now
  others := fun _ => []

/-- A run of a fleet: its credential, the event it comes from and the commands on it. -/
structure FleetMember where
  runId : Identifier
  credentialId : Identifier
  eventId : Text 1 256
  created : Identifier
  started : Identifier
  cleaned : Identifier
  recovered : Identifier

namespace FleetMember
variable (member : FleetMember)

def key : Identifier × Identifier := (organisationOne, member.runId)

def pending : RotationRun where
  toRunFields := { RotationRun.sample.toRunFields with
    id := member.runId
    credentialId := member.credentialId
    trigger := { RotationRun.sample.trigger with eventId := member.eventId } }
  accepted := rfl

def running : RotationRun where
  toRunFields := { member.pending.toRunFields with
    status := .running
    lease := some (RotationMachine.nextLease member.pending workerOne ⟨100, 0⟩)
    fencingToken := 1
    updatedAt := ⟨1, 0⟩
    revision := 1 }
  accepted := rfl

def interrupted : RotationRun where
  toRunFields := { member.running.toRunFields with
    status := .cleanup
    failure := some sampleFailure
    updatedAt := ⟨2, 0⟩
    revision := 2 }
  accepted := rfl

def recovering : RotationRun where
  toRunFields := { member.interrupted.toRunFields with
    status := .recovering
    failure := none
    recoveryStage := some .trigger
    recoveryFailure := some sampleFailure
    lease := some (RotationMachine.nextLease member.interrupted workerOne ⟨150, 0⟩)
    fencingToken := 2
    updatedAt := ⟨3, 0⟩
    revision := 3 }
  accepted := rfl

def creation : CreateRunCommand where
  id := member.created
  organisationId := organisationOne
  credentialId := member.credentialId
  controlVersion := RotationRun.sample.controlVersion
  trigger := member.pending.trigger
  runId := some member.runId

def base (id : Identifier) (revision : Nat) : CommandBase :=
  { sampleBase id revision with runId := member.runId }

def start : RunCommand := .start { member.base member.started 0 with ownerId := workerOne, expiresAt := ⟨100, 0⟩ }

def clean : RunCommand :=
  .cleanup { member.base member.cleaned 1 with fencingToken := 1, failure := sampleFailure }

def recover : RunCommand :=
  .recover { member.base member.recovered 2 with ownerId := workerOne, expiresAt := ⟨150, 0⟩ }

def controls : ControlVersion := { sampleControls with credentialId := member.credentialId }

def add (s : Store) : Store := s.commitCreate Hashing.sample member.pending member.creation

def begin (s : Store) : Store := sampleMutated s member.pending member.running member.start

def interrupt (s : Store) : Store := sampleMutated s member.running member.interrupted member.clean

def restart (s : Store) : Store := sampleMutated s member.interrupted member.recovering member.recover

variable {member} {s : Store}

private theorem creates (reachable : (repository Hashing.sample).Reachable Initial s)
    (unseen : s.dedupe (sourceKey Hashing.sample member.pending) = none)
    (unlocked : s.locks (organisationOne, member.credentialId) = none) (new : s.runs member.key = none)
    (unused : s.outbox (organisationOne, member.created) = none)
    (pinned : s.controls (organisationOne, member.credentialId, RotationRun.sample.controlVersion) = some member.controls) :
    (repository Hashing.sample).Reachable Initial (member.add s) := by
  have effect : Creates Hashing.sample s member.creation member.runId ⟨0, 0⟩
      { run := member.pending, step := createStep Hashing.sample member.pending member.creation, applied := true }
      (member.add s) :=
    { agrees := ⟨rfl, rfl, rfl, rfl, fun _ h => Option.some.inj h⟩
      unseen, unlocked, new, unused
      pinned := ⟨member.controls, pinned, rfl, rfl, rfl, rfl⟩
      result_eq := rfl
      store_eq := rfl }
  have hp : (repository Hashing.sample).perform s (.create member.creation member.runId ⟨0, 0⟩) =
      .ok (_, member.add s) := create_ok.mpr (.inl effect)
  rw [← (repository Hashing.sample).exec_of_ok hp]
  exact reachable.exec _

private theorem interrupts : RotationMachine.Interrupts member.running 1 1 ⟨2, 0⟩ := ⟨rfl, _, rfl, fun _ => rfl⟩

private theorem begins (reachable : (repository Hashing.sample).Reachable Initial s)
    (free : Free s member.start member.pending) : (repository Hashing.sample).Reachable Initial (member.begin s) :=
  have addressed : Addresses member.start member.pending :=
    ⟨rfl, rfl, rfl, (by decide : "start" ≠ "cancel"), rfl⟩
  sampleMutated_reachable reachable <| free.mutates reachable addressed (by decide : RunStatus.pending ∈ active) <|
    RotationMachine.start_ok.mpr ⟨rfl, rfl, (by decide : (⟨1, 0⟩ : AwareDatetime) < ⟨100, 0⟩), rfl⟩

private theorem is_interrupted (reachable : (repository Hashing.sample).Reachable Initial s)
    (free : Free s member.clean member.running) : (repository Hashing.sample).Reachable Initial (member.interrupt s) :=
  have addressed : Addresses member.clean member.running :=
    ⟨rfl, rfl, rfl, (by decide : "cleanup" ≠ "cancel"), rfl⟩
  sampleMutated_reachable reachable <| free.mutates reachable addressed (by decide : RunStatus.running ∈ active) <|
    RotationMachine.cleanup_ok.mpr ⟨interrupts, List.mem_cons_self, rfl⟩

private theorem restarts (reachable : (repository Hashing.sample).Reachable Initial s)
    (free : Free s member.recover member.interrupted) : (repository Hashing.sample).Reachable Initial (member.restart s) :=
  have addressed : Addresses member.recover member.interrupted :=
    ⟨rfl, rfl, rfl, (by decide : "recover" ≠ "cancel"), rfl⟩
  sampleMutated_reachable reachable <| free.mutates reachable addressed (by decide : RunStatus.cleanup ∈ active) <|
    RotationMachine.recover_ok.mpr ⟨rfl, (by decide : RunStatus.cleanup ∈ [.failed, .cleanup]),
      fun _ h _ => by cases h; rfl, (by decide : (⟨3, 0⟩ : AwareDatetime) < ⟨150, 0⟩), rfl⟩

end FleetMember

def firstMember : FleetMember where
  runId := runOne
  credentialId := credentialOne
  eventId := ⟨"expiry-1", by decide⟩
  created := ⟨"create-1", rfl⟩
  started := ⟨"start-1", rfl⟩
  cleaned := ⟨"clean-1", rfl⟩
  recovered := ⟨"recover-1", rfl⟩

def secondMember : FleetMember where
  runId := runTwo
  credentialId := ⟨"credential-2", rfl⟩
  eventId := ⟨"expiry-2", by decide⟩
  created := ⟨"create-2", rfl⟩
  started := ⟨"start-2", rfl⟩
  cleaned := ⟨"clean-2", rfl⟩
  recovered := ⟨"recover-2", rfl⟩

def thirdMember : FleetMember where
  runId := ⟨"run-3", rfl⟩
  credentialId := ⟨"credential-3", rfl⟩
  eventId := ⟨"expiry-3", by decide⟩
  created := ⟨"create-3", rfl⟩
  started := ⟨"start-3", rfl⟩
  cleaned := ⟨"clean-3", rfl⟩
  recovered := ⟨"recover-3", rfl⟩

def fourthMember : FleetMember where
  runId := ⟨"run-4", rfl⟩
  credentialId := ⟨"credential-4", rfl⟩
  eventId := ⟨"expiry-4", by decide⟩
  created := ⟨"create-4", rfl⟩
  started := ⟨"start-4", rfl⟩
  cleaned := ⟨"clean-4", rfl⟩
  recovered := ⟨"recover-4", rfl⟩

def fleetControls (key : Identifier × Identifier × Identifier) : Option ControlVersion :=
  if key.1 = organisationOne ∧ key.2.2 = RotationRun.sample.controlVersion then
    some { sampleControls with credentialId := key.2.1 }
  else none

def fleetStore : Store := { sampleStore with controls := fleetControls }

def fleetRestarted : Store :=
  firstMember.restart (firstMember.interrupt (firstMember.begin (firstMember.add fleetStore)))

def fleetInterrupted : Store := secondMember.interrupt (secondMember.begin (secondMember.add fleetRestarted))

def fleet : Store := fourthMember.add (thirdMember.begin (thirdMember.add fleetInterrupted))

/-- The checksums of the texts from which a sweep takes the ids of its commands on the fleet. -/
def fleetChecksum (text : String) : Coordinator.Checksum :=
  if text = "org-1\x00run-1\x003\x00fail-recovery" then ⟨"f78ac1c928776ce63e94e2f3fda1a09a584516a9", by decide⟩
  else if text = "org-1\x00run-2\x002\x00recover" then ⟨"86a4ee9acd97cea9055efaa844032fcb0abd1198", by decide⟩
  else if text = "org-1\x00run-3\x001\x00fail" then ⟨"351f44ab082469f39e467c56e3e418bafdb38460", by decide⟩
  else sampleChecksum

def fleetSweep : Sweep := { sampleSweep ⟨200, 0⟩ with checksum := fleetChecksum }

private theorem fleet_reachable : (repository Hashing.sample).Reachable Initial fleet := by
  have initial : (repository Hashing.sample).Reachable Initial fleetStore :=
    ⟨fleetStore, [], ⟨rfl, rfl, rfl, rfl, rfl⟩, rfl⟩
  have first : (repository Hashing.sample).Reachable Initial fleetRestarted := by
    refine FleetMember.restarts
      (FleetMember.is_interrupted (FleetMember.begins (FleetMember.creates initial ?_ ?_ ?_ ?_ rfl) ?_) ?_) ?_
    · rfl
    · rfl
    · rfl
    · rfl
    · exact ⟨rfl, by decide, by decide⟩
    · exact ⟨rfl, by decide, by decide⟩
    · exact ⟨rfl, by decide, by decide⟩
  have second : (repository Hashing.sample).Reachable Initial fleetInterrupted := by
    refine FleetMember.is_interrupted (FleetMember.begins (FleetMember.creates first ?_ ?_ ?_ ?_ rfl) ?_) ?_
    · decide
    · decide
    · decide
    · decide
    · exact ⟨rfl, by decide, by decide⟩
    · exact ⟨rfl, by decide, by decide⟩
  refine FleetMember.creates (FleetMember.begins (FleetMember.creates second ?_ ?_ ?_ ?_ rfl) ?_) ?_ ?_ ?_ ?_ rfl
  · decide
  · decide
  · decide
  · decide
  · exact ⟨rfl, by decide, by decide⟩
  · decide
  · decide
  · decide
  · decide

def fleetRuns : List RotationRun :=
  [firstMember.recovering, secondMember.interrupted, thirdMember.running, fourthMember.pending]

private theorem fleet_lists : Sweep.Lists fleet organisationOne fleetRuns where
  mem_iff run := by
    constructor
    · intro h
      simp only [fleetRuns, List.mem_cons, List.not_mem_nil, or_false] at h
      rcases h with rfl | rfl | rfl | rfl
      · exact ⟨rfl, rfl⟩
      · exact ⟨rfl, rfl⟩
      · exact ⟨rfl, rfl⟩
      · exact ⟨rfl, rfl⟩
    · rintro ⟨-, h⟩
      by_cases h4 : run.id = fourthMember.runId
      · rw [h4] at h
        cases h
        simp [fleetRuns]
      by_cases h3 : run.id = thirdMember.runId
      · rw [h3] at h
        cases h
        simp [fleetRuns]
      by_cases h2 : run.id = secondMember.runId
      · rw [h2] at h
        cases h
        simp [fleetRuns]
      by_cases h1 : run.id = firstMember.runId
      · rw [h1] at h
        cases h
        simp [fleetRuns]
      -- the writes of each member go under its own key
      have hne : ∀ member : FleetMember, run.id ≠ member.runId → (organisationOne, run.id) ≠ member.key :=
        fun _ hne h => hne (Prod.mk.inj h).2
      have none : fleet.runs (organisationOne, run.id) = none :=
        calc fleet.runs (organisationOne, run.id)
            = (thirdMember.begin (thirdMember.add fleetInterrupted)).runs (organisationOne, run.id) :=
              Collection.set_of_ne (hne _ h4)
          _ = fleetInterrupted.runs (organisationOne, run.id) :=
              (Collection.set_of_ne (hne _ h3)).trans (Collection.set_of_ne (hne _ h3))
          _ = fleetRestarted.runs (organisationOne, run.id) :=
              (Collection.set_of_ne (hne _ h2)).trans
                ((Collection.set_of_ne (hne _ h2)).trans (Collection.set_of_ne (hne _ h2)))
          _ = none :=
              (Collection.set_of_ne (hne _ h1)).trans ((Collection.set_of_ne (hne _ h1)).trans
                ((Collection.set_of_ne (hne _ h1)).trans (Collection.set_of_ne (hne _ h1))))
      cases none.symm.trans h
  nodup := by decide
  limit := by decide

/-- The sweep finds three runs of three statuses whose workers are gone, and settles each of them. -/
theorem fleet_reaped : fleetSweep.ReapsAll Hashing.sample fleet fleetRuns := by
  refine (Sweep.reapsAll_iff fleet_reachable fleet_lists).mpr ?_
  have candidates : fleetRuns.filter (Reapable fleetSweep.now ·) =
      [firstMember.recovering, secondMember.interrupted, thirdMember.running] := rfl
  rw [candidates]
  have first : Free fleet (fleetSweep.failRecovery firstMember.recovering) firstMember.recovering :=
    ⟨rfl, by decide, by decide⟩
  have second : Free fleet (fleetSweep.recover secondMember.interrupted) secondMember.interrupted :=
    ⟨rfl, by decide, by decide⟩
  have third : Free fleet (fleetSweep.fail thirdMember.running) thirdMember.running :=
    ⟨rfl, by decide, by decide⟩
  refine ⟨.inl first, fun result left m h => ?_⟩
  have h := Sweep.turn_recovering rfl h
  have second := Sweep.free_transact rfl second h (by decide) (by decide)
  have third := Sweep.free_transact rfl third h (by decide) (by decide)
  have unowned : ∀ lease ∈ secondMember.interrupted.lease, fleetSweep.clock m < lease.expiresAt →
      lease.ownerId = operatorOne := by
    rintro _ ⟨⟩ hlive
    exact absurd hlive (by decide : ¬ (⟨200, 0⟩ : AwareDatetime) < ⟨100, 0⟩)
  refine ⟨.inl ⟨second, rfl, unowned, (by decide : (⟨200, 0⟩ : AwareDatetime) < restartExpiry ⟨200, 0⟩)⟩,
    fun result left m h => ?_⟩
  have third := Sweep.free_transact rfl third (Sweep.turn_cleanup rfl h) (by decide) (by decide)
  exact ⟨.inl third, fun _ _ _ _ => trivial⟩

private theorem sample_lists {store : Store} {run : RotationRun}
    (hruns : ∀ key stored, store.runs key = some stored ↔
      key = (RotationRun.sample.organisationId, RotationRun.sample.id) ∧ stored = run)
    (ho : run.organisationId = RotationRun.sample.organisationId) (hid : run.id = RotationRun.sample.id) :
    Sweep.Lists store RotationRun.sample.organisationId [run] where
  mem_iff other := by
    rw [List.mem_singleton, hruns]
    constructor
    · rintro rfl
      exact ⟨ho, by rw [hid], rfl⟩
    · rintro ⟨-, -, rfl⟩
      rfl
  nodup := List.nodup_singleton _
  limit := by simp

private theorem sampleStarted_runs (key : Identifier × Identifier) (stored : RotationRun) :
    sampleStarted.runs key = some stored ↔
      key = (RotationRun.sample.organisationId, RotationRun.sample.id) ∧ stored = sampleRunning := by
  change ((Collection.empty.set (RotationRun.sample.organisationId, RotationRun.sample.id) RotationRun.sample).set
    (RotationRun.sample.organisationId, RotationRun.sample.id) sampleRunning) key = some stored ↔ _
  rw [Collection.set_eq_some, Collection.set_eq_some]
  constructor
  · rintro (⟨hkey, rfl⟩ | ⟨hne, ⟨hkey, -⟩ | ⟨-, hnone⟩⟩)
    · exact ⟨hkey, rfl⟩
    · exact absurd hkey hne
    · cases hnone
  · rintro ⟨hkey, rfl⟩
    exact .inl ⟨hkey, rfl⟩

private theorem sampleCleaning_runs (key : Identifier × Identifier) (stored : RotationRun) :
    sampleCleaning.runs key = some stored ↔
      key = (RotationRun.sample.organisationId, RotationRun.sample.id) ∧ stored = sampleCleanup := by
  change (sampleStarted.runs.set (RotationRun.sample.organisationId, RotationRun.sample.id) sampleCleanup) key =
    some stored ↔ _
  rw [Collection.set_eq_some, sampleStarted_runs]
  constructor
  · rintro (⟨hkey, rfl⟩ | ⟨hne, hkey, -⟩)
    · exact ⟨hkey, rfl⟩
    · exact absurd hkey hne
  · rintro ⟨hkey, rfl⟩
    exact .inl ⟨hkey, rfl⟩

/-- The worker still holds the lease of the run in cleanup, and the sweep of another caller ends there. -/
theorem held_cleanup_aborts_sweep : ¬ ∀ (hashing : Hashing) (sweep : Sweep) (listed : Store) (runs : List RotationRun),
    (repository hashing).Reachable Initial listed → Sweep.Lists listed sweep.organisationId runs →
      sweep.ReapsAll hashing listed runs := by
  intro claim
  obtain ⟨result, final, h, -⟩ := claim Hashing.sample (sampleSweep ⟨3, 0⟩) sampleCleaning [sampleCleanup]
    sampleCleaning_reachable (sample_lists sampleCleaning_runs rfl rfl)
  have hcandidates : [sampleCleanup].filter (Reapable (sampleSweep ⟨3, 0⟩).now ·) = [sampleCleanup] := by decide
  simp only [Sweep.reapExpired, hcandidates, bind_ok, Sweep.turns] at h
  obtain ⟨_, ⟨⟨result, left, m⟩, hturn, -⟩, -⟩ := h
  have hcleanup : sampleCleanup.status = .cleanup := rfl
  rw [Sweep.turn, if_pos hcleanup, bind_ok] at hturn
  obtain ⟨⟨result, left⟩, hrecover, -⟩ := hturn
  have hmutate : mutateRun Hashing.sample sampleCleaning {} ⟨3, 0⟩ ((sampleSweep ⟨3, 0⟩).recover sampleCleanup) =
      .ok (result, left) := hrecover
  rcases mutate_ok.mp hmutate with ⟨old, updated, effect⟩ | replayed
  · obtain ⟨-, rfl⟩ := (sampleCleaning_runs _ _).mp effect.found
    have hperform : RotationMachine.recover sampleCleanup operatorOne 2 (restartExpiry ⟨3, 0⟩) ⟨3, 0⟩ = .ok updated :=
      effect.transition_ok
    obtain ⟨-, -, hunowned, -⟩ := RotationMachine.recover_ok.mp hperform
    exact absurd (hunowned _ rfl (by decide)) (by decide)
  · have hnone : sampleCleaning.steps (RotationRun.sample.organisationId, RotationRun.sample.id,
        reapId (fun _ => sampleChecksum) sampleCleanup "recover") = none := by decide
    cases hnone.symm.trans replayed.recorded

end Uumi.Workflow
