import Uumi.Browser.Waiting
import Uumi.State.Validity
import Uumi.Coordinator.Rollout
import Uumi.Workflow.Effects

/-! A completed setup resumes every run that waits for its connection, exactly when the waiter lists these runs and each
can be resumed under an id of its own that was never used. -/
namespace Uumi.Browser
open Uumi.Contracts Uumi.Coordinator Uumi.Core Uumi.Foundations Uumi.Policy Uumi.State Uumi.Storage Uumi.Workflow
open Uumi.Foundations.Program (lift served_bind served_keeps served_lift served_perform served_pure served_tryCatch)
open Uumi.State.RotationMachine (checkRevision_ok unowned_ok future_ok resume_ok raises_resume raises_update_iff)

section
variable {hashes : Hashes} {machine : RotationMachine} {circumstances : Circumstances} {o k actor r : Identifier}
  {s s' : WaitingState}

/-- A free run is woken, and nothing else changes. -/
structure Wakes (hashes : Hashes) (circumstances : Circumstances) (o actor r : Identifier) (s s' : WaitingState) : Prop
    where
  free : Free hashes circumstances o actor s r
  runs : ∃ run, run.status = .running ∧ s'.store.runs = s.store.runs.set (o, r) run
  steps : ∃ step, s'.store.steps = s.store.steps.set (o, r, resumeCommandId hashes o r) step
  outbox : ∃ event, s'.store.outbox = s.store.outbox.set (o, resumeCommandId hashes o r) event
  locks : s'.store.locks = s.store.locks
  waiters : s'.waiters = s.waiters
  waitsFor : s'.waitsFor = s.waitsFor

private theorem resume_effect {run : RotationRun} {result : MutationResult} {store : Store}
    (found : s.store.runs (o, r) = some run) (paused : run.status = .paused)
    (h : mutateRun hashes.toHashing s.store machine (circumstances.workflowNow r)
      (.resume (resumeCommand hashes o r actor (resumeExpiry circumstances.now) run)) = .ok (result, store)) :
    (store = s.store ∧ s.store.steps (o, r, resumeCommandId hashes o r) ≠ none) ∨
      Wakes hashes circumstances o actor r s { s with store } := by
  rcases mutate_ok.mp h with ⟨run', updated, hm⟩ | hr
  · right
    obtain rfl : run = run' := Option.some.inj (found.symm.trans hm.found)
    obtain ⟨-, -, hlease, htimely, hfields⟩ := resume_ok.mp hm.transition_ok
    have hrunning : updated.status = .running := congrArg RunFields.status hfields
    have hlock : HoldsLock s.store o run := hm.lock.resolve_right fun hc => by
      rw [paused] at hc
      cases hc.2
    obtain rfl := hm.store_eq
    refine ⟨⟨hm.new, hm.unused, ⟨run, found, paused, hm.organisationId, hlock, hlease⟩, htimely⟩, ⟨updated, hrunning, rfl⟩,
      ⟨_, rfl⟩, ⟨_, rfl⟩, ?_, rfl, rfl⟩
    change (if _ then _ else _) = _
    rw [if_neg]
    rintro ⟨-, hreleasing⟩
    rw [hrunning] at hreleasing
    revert hreleasing
    decide
  · exact .inl ⟨hr.store_eq, fun hnone => Option.some_ne_none _ (hr.recorded.symm.trans hnone)⟩

private theorem resume_paused {run : RotationRun} {expires now : AwareDatetime} (paused : run.status = .paused)
    (unowned : ∀ lease ∈ run.lease, now < lease.expiresAt → lease.ownerId = actor) (timely : now < expires) :
    ∃ updated, RotationMachine.resume run actor run.revision expires now = .ok updated := by
  have hupdate : RotationMachine.resume run actor run.revision expires now = RotationMachine.update run now fun fields =>
      { fields with
        status := .running
        lease := some (RotationMachine.nextLease run actor expires)
        fencingToken := run.fencingToken + 1 } := by
    unfold RotationMachine.resume
    rw [checkRevision_ok.mpr rfl, ok_bind, raiseIf_bind_of_not (not_not.mpr paused), unowned_ok.mpr unowned, ok_bind,
      future_ok.mpr timely, ok_bind]
  have hraises : RaisesOnly Error.IsTransitionError (RotationMachine.resume run actor run.revision expires now) :=
    raises_resume actor
  rw [hupdate, raises_update_iff] at hraises
  obtain ⟨updated, hu, -⟩ := RotationRun.modelValidate_of_valid hraises
  exact ⟨updated, hupdate.trans hu⟩

variable (machine) in
private theorem resume_of_free {run : RotationRun} (free : Free hashes circumstances o actor s r)
    (found : s.store.runs (o, r) = some run) :
    ∃ result store, mutateRun hashes.toHashing s.store machine (circumstances.workflowNow r)
      (.resume (resumeCommand hashes o r actor (resumeExpiry circumstances.now) run)) = .ok (result, store) := by
  obtain ⟨run', found', paused, horganisation, hlock, hlease⟩ := free.ready
  obtain rfl : run = run' := Option.some.inj (found.symm.trans found')
  obtain ⟨updated, hresume⟩ := resume_paused paused hlease free.timely
  have hfields := (resume_ok.mp hresume).2.2.2.2
  exact ⟨_, _, mutate_ok.mpr (.inl ⟨run, updated, {
    new := free.new
    unused := free.unused
    found := found
    organisationId := horganisation
    revision := rfl
    lock := .inl hlock
    gate := nofun
    transition_ok := hresume
    same_organisation := (congrArg RunFields.organisationId hfields).trans horganisation
    same_run := by rw [hfields]
    bumped := congrArg RunFields.revision hfields
    result_eq := rfl
    store_eq := rfl }⟩)⟩

private theorem served_resumeRun (r : Identifier) :
    (resumeRun hashes o actor (resumeExpiry circumstances.now) r).served (handleWaiter hashes machine circumstances) s =
      if circumstances.reads r then
        match get s.store o r with
        | .error _ => (.ok false, s)
        | .ok run =>
          if run.status ≠ .paused then (.ok false, s) else
            match circumstances.resumes r, mutateRun hashes.toHashing s.store machine (circumstances.workflowNow r)
                (.resume (resumeCommand hashes o r actor (resumeExpiry circumstances.now) run)) with
            | .answered, .ok (_, store) => (.ok true, { s with store })
            | .lost, .ok (_, store) => (.ok false, { s with store })
            | _, _ => (.ok false, s)
      else (.ok false, s) := by
  unfold resumeRun
  rw [served_tryCatch, served_bind, served_perform]
  cases hreads : circumstances.reads r with
  | false =>
    simp only [handleWaiter, hreads]
    rfl
  | true =>
    simp only [handleWaiter, hreads, if_true]
    cases hget : get s.store o r with
    | error e => rfl
    | ok run =>
      dsimp only
      by_cases paused : run.status = .paused
      · rw [if_neg (not_not.mpr paused), if_neg (not_not.mpr paused), served_bind, served_perform]
        simp only [handleWaiter, resumeCommand]
        generalize mutateRun hashes.toHashing s.store machine _ _ = mutated
        cases mutated with
        | error e => cases circumstances.resumes r <;> rfl
        | ok value => cases circumstances.resumes r <;> rfl
      · rw [if_pos paused, if_pos paused]
        rfl

private theorem get_ok {run : RotationRun} (h : Storage.get s.store o r = .ok run) :
    s.store.runs (o, r) = some run ∧ run.organisationId = o := by
  simp only [Storage.get, required_bind_ok, unit_bind_ok, pure_ok, tenant_ok] at h
  obtain ⟨run', found, horganisation, rfl⟩ := h
  exact ⟨found, horganisation⟩

variable (hashes machine circumstances o actor) in
private theorem resumeRun_turn (s : WaitingState) (r : Identifier) : ∃ resumed s',
    (resumeRun hashes o actor (resumeExpiry circumstances.now) r).served (handleWaiter hashes machine circumstances) s =
        (.ok resumed, s') ∧
      (resumed = true → circumstances.reads r = true ∧ circumstances.resumes r = .answered) ∧
      (s' = s ∨ Wakes hashes circumstances o actor r s s') := by
  rw [served_resumeRun]
  split
  · next hreads =>
    split
    · exact ⟨false, s, rfl, nofun, .inl rfl⟩
    · next run hget =>
      obtain ⟨found, -⟩ := get_ok hget
      split
      · exact ⟨false, s, rfl, nofun, .inl rfl⟩
      · next paused =>
        split
        · next store hfate hmutate =>
          refine ⟨true, _, rfl, fun _ => ⟨hreads, hfate⟩, ?_⟩
          rcases resume_effect found (not_not.mp paused) hmutate with ⟨same, -⟩ | wakes
          · exact .inl (by rw [same])
          · exact .inr wakes
        · next store hfate hmutate =>
          refine ⟨false, _, rfl, nofun, ?_⟩
          rcases resume_effect found (not_not.mp paused) hmutate with ⟨same, -⟩ | wakes
          · exact .inl (by rw [same])
          · exact .inr wakes
        · exact ⟨false, s, rfl, nofun, .inl rfl⟩
  · exact ⟨false, s, rfl, nofun, .inl rfl⟩

private theorem resumeRun_of_mutate {run : RotationRun} {result : MutationResult} {store : Store}
    (reads : circumstances.reads r = true) (found : Storage.get s.store o r = .ok run) (paused : run.status = .paused)
    (answered : circumstances.resumes r = .answered)
    (h : mutateRun hashes.toHashing s.store machine (circumstances.workflowNow r)
      (.resume (resumeCommand hashes o r actor (resumeExpiry circumstances.now) run)) = .ok (result, store)) :
    (resumeRun hashes o actor (resumeExpiry circumstances.now) r).served (handleWaiter hashes machine circumstances) s =
      (.ok true, { s with store }) := by
  rw [served_resumeRun, if_pos reads, found]
  dsimp only
  rw [if_neg (not_not.mpr paused), answered, h]

variable (machine) in
private theorem resumeRun_resumes (resumable : Resumable hashes circumstances o actor s r) : ∃ s',
    (resumeRun hashes o actor (resumeExpiry circumstances.now) r).served (handleWaiter hashes machine circumstances) s =
        (.ok true, s') ∧ Wakes hashes circumstances o actor r s s' := by
  obtain ⟨run, found, paused, horganisation, -⟩ := resumable.ready
  have hget : Storage.get s.store o r = .ok run := by
    simp only [Storage.get, required_bind_ok, unit_bind_ok, pure_ok, tenant_ok]
    exact ⟨run, found, horganisation, rfl⟩
  obtain ⟨result, store, h⟩ := resume_of_free machine resumable.toFree found
  refine ⟨_, resumeRun_of_mutate resumable.read hget paused resumable.answered h, ?_⟩
  rcases resume_effect found paused h with ⟨-, old⟩ | wakes
  · exact absurd resumable.new old
  · exact wakes

variable (hashes machine circumstances actor) in
private theorem resumeRun_running (running : s.Running o r) :
    (resumeRun hashes o actor (resumeExpiry circumstances.now) r).served (handleWaiter hashes machine circumstances) s =
      (.ok false, s) := by
  obtain ⟨run, found, hstatus⟩ := running
  rw [served_resumeRun]
  split
  · split
    · rfl
    · next run' hget =>
      obtain ⟨found', -⟩ := get_ok hget
      obtain rfl := Option.some.inj (found.symm.trans found')
      rw [if_pos]
      rw [hstatus]
      nofun
  · rfl

/-- What the resumer does to some runs. A run that it changes was free, and its command is a new event. -/
structure Loop (hashes : Hashes) (circumstances : Circumstances) (o actor : Identifier) (runIds : List Identifier)
    (s : WaitingState) (resumed : List Identifier) (s' : WaitingState) : Prop where
  resumed : ∀ r ∈ resumed, r ∈ runIds ∧ circumstances.reads r = true ∧ circumstances.resumes r = .answered
  runs : ∀ o' r, s'.store.runs (o', r) = s.store.runs (o', r) ∨
    (o' = o ∧ r ∈ runIds ∧ Free hashes circumstances o actor s r ∧ s'.Running o r ∧
      s'.store.outbox (o, resumeCommandId hashes o r) ≠ none)
  outbox : ∀ key, s'.store.outbox key = none → s.store.outbox key = none
  steps : ∀ key, s'.store.steps key = none → s.store.steps key = none
  locks : s'.store.locks = s.store.locks
  waiters : s'.waiters = s.waiters
  waitsFor : s'.waitsFor = s.waitsFor
  distinct : ∀ r r', s'.store.runs (o, r) ≠ s.store.runs (o, r) → s'.store.runs (o, r') ≠ s.store.runs (o, r') →
    resumeCommandId hashes o r = resumeCommandId hashes o r' → r = r'

private theorem set_none {κ δ : Type} [DecidableEq κ] {c : Collection κ δ} {key other : κ} {document : δ}
    (h : c.set key document other = none) : c other = none := by
  by_cases same : other = key
  · rw [same, Collection.set_same] at h
    cases h
  · rwa [Collection.set_of_ne same] at h

private theorem free_before {s₁ : WaitingState} (runs : s₁.store.runs (o, r) = s.store.runs (o, r))
    (outbox : ∀ key, s₁.store.outbox key = none → s.store.outbox key = none)
    (steps : ∀ key, s₁.store.steps key = none → s.store.steps key = none) (locks : s₁.store.locks = s.store.locks)
    (free : Free hashes circumstances o actor s₁ r) : Free hashes circumstances o actor s r := by
  obtain ⟨run, found, paused, horganisation, hlock, hlease⟩ := free.ready
  refine ⟨steps _ free.new, outbox _ free.unused, ⟨run, ?_, paused, horganisation, ?_, hlease⟩, free.timely⟩
  · rw [← runs]
    exact found
  · rw [HoldsLock, ← locks]
    exact hlock

private theorem Wakes.changed {s₁ : WaitingState} {head : Identifier} (wakes : Wakes hashes circumstances o actor head s s₁) :
    s₁.Running o head ∧ (∀ o' r, (o', r) ≠ (o, head) → s₁.store.runs (o', r) = s.store.runs (o', r)) ∧
      s₁.store.outbox (o, resumeCommandId hashes o head) ≠ none := by
  obtain ⟨run, hstatus, hruns⟩ := wakes.runs
  obtain ⟨event, houtbox⟩ := wakes.outbox
  refine ⟨⟨run, ?_, hstatus⟩, fun o' r hne => ?_, ?_⟩
  · rw [hruns, Collection.set_same]
  · rw [hruns, Collection.set_of_ne hne]
  · rw [houtbox, Collection.set_same]
    exact Option.some_ne_none _

private theorem Loop.unchanged {runIds resumed : List Identifier}
    (loop : Loop hashes circumstances o actor runIds s resumed s') (running : s.Running o r) :
    s'.store.runs (o, r) = s.store.runs (o, r) := by
  rcases loop.runs o r with same | ⟨-, -, free, -⟩
  · exact same
  · obtain ⟨run, found, hstatus⟩ := running
    obtain ⟨run', found', paused, -⟩ := free.ready
    obtain rfl := Option.some.inj (found.symm.trans found')
    rw [hstatus] at paused
    cases paused

private theorem Loop.running {runIds resumed : List Identifier}
    (loop : Loop hashes circumstances o actor runIds s resumed s') (running : s.Running o r) : s'.Running o r := by
  obtain ⟨run, found, hstatus⟩ := running
  exact ⟨run, (loop.unchanged ⟨run, found, hstatus⟩).trans found, hstatus⟩

private theorem Loop.cons {head : Identifier} {runIds others : List Identifier} {resumed : Bool} {s₁ : WaitingState}
    (answered : resumed = true → circumstances.reads head = true ∧ circumstances.resumes head = .answered)
    (turn : s₁ = s ∨ Wakes hashes circumstances o actor head s s₁)
    (loop : Loop hashes circumstances o actor runIds s₁ others s') :
    Loop hashes circumstances o actor (head :: runIds) s (if resumed then head :: others else others) s' := by
  have hresumed : ∀ r ∈ (if resumed then head :: others else others),
      r ∈ head :: runIds ∧ circumstances.reads r = true ∧ circumstances.resumes r = .answered := by
    intro r mem
    split at mem
    · next yes =>
      rcases List.mem_cons.mp mem with rfl | mem
      · exact ⟨List.mem_cons_self, answered yes⟩
      · exact ⟨List.mem_cons_of_mem _ (loop.resumed r mem).1, (loop.resumed r mem).2⟩
    · exact ⟨List.mem_cons_of_mem _ (loop.resumed r mem).1, (loop.resumed r mem).2⟩
  rcases turn with rfl | wakes
  · refine ⟨hresumed, fun o' r => ?_, loop.outbox, loop.steps, loop.locks, loop.waiters, loop.waitsFor, loop.distinct⟩
    rcases loop.runs o' r with same | ⟨ho, mem, rest⟩
    · exact .inl same
    · exact .inr ⟨ho, List.mem_cons_of_mem _ mem, rest⟩
  · obtain ⟨hrunning, hother, hevent⟩ := wakes.changed
    have houtbox : ∀ key, s₁.store.outbox key = none → s.store.outbox key = none := by
      obtain ⟨event, h⟩ := wakes.outbox
      rw [h]
      exact fun _ => set_none
    have hsteps : ∀ key, s₁.store.steps key = none → s.store.steps key = none := by
      obtain ⟨step, h⟩ := wakes.steps
      rw [h]
      exact fun _ => set_none
    -- The head runs after its turn, and a later turn does not take it.
    have hhead : s'.store.runs (o, head) = s₁.store.runs (o, head) := loop.unchanged hrunning
    have hlater : ∀ r ≠ head, s'.store.runs (o, r) ≠ s.store.runs (o, r) →
        s'.store.runs (o, r) ≠ s₁.store.runs (o, r) := by
      intro r hne changed same
      rw [hother o r (fun h => hne (Prod.mk.inj h).2)] at same
      exact changed same
    have hnew : ∀ r ≠ head, s'.store.runs (o, r) ≠ s.store.runs (o, r) →
        resumeCommandId hashes o r ≠ resumeCommandId hashes o head := by
      intro r hne changed same
      rcases loop.runs o r with unchanged | ⟨-, -, free, -⟩
      · exact hlater r hne changed unchanged
      · exact hevent (same ▸ free.unused)
    refine ⟨hresumed, fun o' r => ?_, fun key h => houtbox key (loop.outbox key h),
      fun key h => hsteps key (loop.steps key h), loop.locks.trans wakes.locks, loop.waiters.trans wakes.waiters,
      loop.waitsFor.trans wakes.waitsFor, fun r r' hr hr' same => ?_⟩
    · by_cases key : (o', r) = (o, head)
      · obtain ⟨rfl, rfl⟩ := Prod.mk.inj key
        obtain ⟨run, found, hstatus⟩ := hrunning
        refine .inr ⟨rfl, List.mem_cons_self, wakes.free, ⟨run, hhead.trans found, hstatus⟩, fun h => hevent ?_⟩
        exact loop.outbox _ h
      · rcases loop.runs o' r with same | ⟨rfl, mem, free, rest⟩
        · exact .inl (same.trans (hother o' r key))
        · exact .inr ⟨rfl, List.mem_cons_of_mem _ mem,
            free_before (hother o' r key) houtbox hsteps wakes.locks free, rest⟩
    · by_cases hrh : r = head
      · by_cases hrh' : r' = head
        · rw [hrh, hrh']
        · subst hrh
          exact absurd same.symm (hnew r' hrh' hr')
      · by_cases hrh' : r' = head
        · subst hrh'
          exact absurd same (hnew r hrh hr)
        · exact loop.distinct r r' (hlater r hrh hr) (hlater r' hrh' hr') same

variable (hashes machine circumstances o actor) in
/-- The resumer ends without an error. -/
theorem resumeEach_loop (runIds : List Identifier) (s : WaitingState) : ∃ resumed s',
    (resumeEach hashes o actor (resumeExpiry circumstances.now) runIds).served
        (handleWaiter hashes machine circumstances) s = (.ok resumed, s') ∧
      Loop hashes circumstances o actor runIds s resumed s' := by
  induction runIds generalizing s with
  | nil =>
    exact ⟨[], s, rfl, fun _ h => absurd h List.not_mem_nil, fun _ _ => .inl rfl, fun _ h => h, fun _ h => h, rfl, rfl, rfl,
      fun _ _ h => absurd rfl h⟩
  | cons head runIds ih =>
    obtain ⟨resumed, s₁, hturn, answered, turn⟩ := resumeRun_turn hashes machine circumstances o actor s head
    obtain ⟨others, s', hrest, loop⟩ := ih s₁
    refine ⟨_, s', ?_, loop.cons answered turn⟩
    rw [resumeEach, served_bind, hturn]
    dsimp only
    rw [served_bind, hrest]
    rfl

private theorem Wakes.keeps {s₁ : WaitingState} {head : Identifier} (wakes : Wakes hashes circumstances o actor head s s₁)
    (other : r ≠ head) (command : resumeCommandId hashes o r ≠ resumeCommandId hashes o head)
    (resumable : Resumable hashes circumstances o actor s r) : Resumable hashes circumstances o actor s₁ r := by
  obtain ⟨step, hsteps⟩ := wakes.steps
  obtain ⟨event, houtbox⟩ := wakes.outbox
  obtain ⟨run, found, paused, horganisation, hlock, hlease⟩ := resumable.ready
  refine ⟨⟨?_, ?_, ⟨run, ?_, paused, horganisation, ?_, hlease⟩, resumable.timely⟩, resumable.read, resumable.answered⟩
  · rw [hsteps, Collection.set_of_ne fun h => other (Prod.mk.inj (Prod.mk.inj h).2).1]
    exact resumable.new
  · rw [houtbox, Collection.set_of_ne fun h => command (Prod.mk.inj h).2]
    exact resumable.unused
  · rw [wakes.changed.2.1 o r fun h => other (Prod.mk.inj h).2]
    exact found
  · rw [HoldsLock, wakes.locks]
    exact hlock

private theorem Resumable.not_running (resumable : Resumable hashes circumstances o actor s r) : ¬ s.Running o r := by
  rintro ⟨run, found, running⟩
  obtain ⟨run', found', paused, -⟩ := resumable.ready
  obtain rfl := Option.some.inj (found.symm.trans found')
  rw [running] at paused
  cases paused

private theorem resumeEach_resumes (runIds : List Identifier) (s s' : WaitingState)
    (each : ∀ r ∈ runIds, Resumable hashes circumstances o actor s r ∨ s.Running o r)
    (distinct : ∀ r ∈ runIds, ∀ r' ∈ runIds, resumeCommandId hashes o r = resumeCommandId hashes o r' → r = r')
    {resumed : List Identifier}
    (h : (resumeEach hashes o actor (resumeExpiry circumstances.now) runIds).served
      (handleWaiter hashes machine circumstances) s = (.ok resumed, s')) :
    ∀ r ∈ runIds, (Resumable hashes circumstances o actor s r → r ∈ resumed) ∧ s'.Running o r := by
  induction runIds generalizing s resumed with
  | nil => exact fun _ mem => absurd mem List.not_mem_nil
  | cons head runIds ih =>
    have step : ∀ {first : Bool} {s₁ : WaitingState},
        (resumeRun hashes o actor (resumeExpiry circumstances.now) head).served
          (handleWaiter hashes machine circumstances) s = (.ok first, s₁) →
        ∃ others, (resumeEach hashes o actor (resumeExpiry circumstances.now) runIds).served
            (handleWaiter hashes machine circumstances) s₁ = (.ok others, s') ∧
          resumed = (if first then head :: others else others) := by
      intro first s₁ hturn
      obtain ⟨others, s₂, hrest, -⟩ := resumeEach_loop hashes machine circumstances o actor runIds s₁
      rw [resumeEach, served_bind, hturn] at h
      dsimp only at h
      rw [served_bind, hrest] at h
      obtain ⟨hvalue, hstate⟩ := Prod.mk.inj h
      exact ⟨others, hrest.trans (congrArg _ hstate), (Except.ok.inj hvalue).symm⟩
    have distinct' : ∀ r ∈ runIds, ∀ r' ∈ runIds,
        resumeCommandId hashes o r = resumeCommandId hashes o r' → r = r' := fun r mem r' mem' =>
      distinct r (List.mem_cons_of_mem _ mem) r' (List.mem_cons_of_mem _ mem')
    rcases each head List.mem_cons_self with resumable | running
    · obtain ⟨s₁, hturn, wakes⟩ := resumeRun_resumes machine resumable
      obtain ⟨others, hrest, hresumed⟩ := step hturn
      rw [if_pos rfl] at hresumed
      have keeps : ∀ r ∈ runIds, r ≠ head → Resumable hashes circumstances o actor s r →
          Resumable hashes circumstances o actor s₁ r := fun r mem other =>
        wakes.keeps other fun same => other (distinct r (List.mem_cons_of_mem _ mem) head List.mem_cons_self same)
      have each' : ∀ r ∈ runIds, Resumable hashes circumstances o actor s₁ r ∨ s₁.Running o r := by
        intro r mem
        by_cases same : r = head
        · exact .inr (same ▸ wakes.changed.1)
        rcases each r (List.mem_cons_of_mem _ mem) with resumable | ⟨run, found, hstatus⟩
        · exact .inl (keeps r mem same resumable)
        · exact .inr ⟨run, (wakes.changed.2.1 o r fun h => same (Prod.mk.inj h).2).trans found, hstatus⟩
      obtain ⟨others', s₂, hrest', loop⟩ := resumeEach_loop hashes machine circumstances o actor runIds s₁
      obtain ⟨-, rfl⟩ := Prod.mk.inj (hrest'.symm.trans hrest)
      intro r mem
      rw [hresumed]
      by_cases same : r = head
      · exact ⟨fun _ => same ▸ List.mem_cons_self, same ▸ loop.running wakes.changed.1⟩
      · have mem : r ∈ runIds := (List.mem_cons.mp mem).resolve_left same
        obtain ⟨hin, hruns⟩ := ih s₁ each' distinct' hrest r mem
        exact ⟨fun resumable => List.mem_cons_of_mem _ (hin (keeps r mem same resumable)), hruns⟩
    · obtain ⟨others, hrest, hresumed⟩ := step (resumeRun_running hashes machine circumstances actor running)
      obtain ⟨others', s₂, hrest', loop⟩ := resumeEach_loop hashes machine circumstances o actor runIds s
      obtain ⟨-, rfl⟩ := Prod.mk.inj (hrest'.symm.trans hrest)
      intro r mem
      rw [hresumed, if_neg Bool.false_ne_true]
      rcases List.mem_cons.mp mem with rfl | mem
      · exact ⟨fun resumable => absurd running resumable.not_running, loop.running running⟩
      · exact ih s (fun r mem => each r (List.mem_cons_of_mem _ mem)) distinct' hrest r mem

/-- A completion that succeeds: the runs that the waiter listed were resumed one after another, and the waiter keeps the
others. -/
structure Completed (hashes : Hashes) (machine : RotationMachine) (circumstances : Circumstances) (o k actor : Identifier)
    (s : WaitingState) (runIds resumed : List Identifier) (s₁ s' : WaitingState) : Prop where
  resume : (resumeEach hashes o actor (resumeExpiry circumstances.now) runIds).served
    (handleWaiter hashes machine circumstances) s = (.ok resumed, s₁)
  store : s'.store = s₁.store
  waitsFor : s'.waitsFor = s₁.waitsFor
  listed : ∀ r, s.Lists o k r ↔ r ∈ runIds
  remaining : ∀ r, s'.Lists o k r ↔ r ∈ runIds ∧ r ∉ resumed

private theorem found_waiter (s : WaitingState) :
    (waiterCall (.waiter o k)).found.served (handleWaiter hashes machine circumstances) s =
      if circumstances.readsWaiter then (.ok (s.waiters (o, k)), s) else (.error (.runtime "unavailable"), s) := by
  unfold WaiterM.found
  rw [served_tryCatch, served_bind, served_perform]
  simp only [handleWaiter, readWaiter]
  cases circumstances.readsWaiter with
  | false => rfl
  | true => cases s.waiters (o, k) <;> rfl

private theorem resumed_waiter (runIds : List Identifier) (s : WaitingState)
    (next : List Identifier → WaiterM (List Identifier)) :
    (if runIds = [] then pure [] >>= next else resumeRuns hashes o runIds actor >>= next).served
        (handleWaiter hashes machine circumstances) s =
      (resumeEach hashes o actor (resumeExpiry circumstances.now) runIds >>= next).served
        (handleWaiter hashes machine circumstances) s := by
  split
  · next none =>
    rw [none]
    rfl
  · rw [resumeRuns, served_bind, served_bind, served_perform, served_bind]
    rfl

private theorem written_waiter {waiter : ConnectionWaiter} {remaining : List Identifier}
    (found : s.waiters (o, k) = some waiter) :
    writeWaiter s o k waiter.revision (ConnectionWaiter.keep remaining) =
      .ok (waiter.keep remaining, { s with waiters := s.waiters.set (o, k) (waiter.keep remaining) }) := by
  simp [writeWaiter, readWaiter, found, required, raiseIf, ConnectionWaiter.keep, ok_bind]

private theorem replaced_waiter {waiter : ConnectionWaiter} {remaining resumed answer : List Identifier}
    (found : s.waiters (o, k) = some waiter)
    (h : (waiterCall (.replaceWaiter o k waiter.revision (ConnectionWaiter.keep remaining)) >>= fun _ =>
      (pure resumed : WaiterM _)).served (handleWaiter hashes machine circumstances) s = (.ok answer, s')) :
    answer = resumed ∧ s' = { s with waiters := s.waiters.set (o, k) (waiter.keep remaining) } := by
  rw [served_bind, served_perform] at h
  simp only [handleWaiter, written_waiter found] at h
  cases hfate : circumstances.writesWaiter with
  | answered =>
    rw [hfate] at h
    obtain ⟨hvalue, hstate⟩ := Prod.mk.inj h
    exact ⟨(Except.ok.inj hvalue).symm, hstate.symm⟩
  | refused =>
    rw [hfate] at h
    cases (Prod.mk.inj h).1
  | lost =>
    rw [hfate] at h
    cases (Prod.mk.inj h).1

private theorem complete_ok {resumed : List Identifier}
    (h : s.complete hashes machine circumstances o k actor = (.ok resumed, s')) :
    ∃ runIds s₁, Completed hashes machine circumstances o k actor s runIds resumed s₁ s' := by
  unfold WaitingState.complete resumeWaiting at h
  rw [served_bind, found_waiter] at h
  cases hreads : circumstances.readsWaiter with
  | false =>
    rw [hreads] at h
    cases (Prod.mk.inj h).1
  | true =>
    rw [hreads, if_pos rfl] at h
    cases hwaiter : s.waiters (o, k) with
    | none =>
      rw [hwaiter] at h
      obtain ⟨hvalue, rfl⟩ := Prod.mk.inj h
      obtain rfl := Except.ok.inj hvalue
      refine ⟨[], s, rfl, rfl, rfl, fun r => ⟨?_, nofun⟩, fun r => ⟨?_, fun h => absurd h.1 List.not_mem_nil⟩⟩
      · rintro ⟨waiter, found, -⟩
        cases hwaiter.symm.trans found
      · rintro ⟨waiter, found, -⟩
        cases hwaiter.symm.trans found
    | some waiter =>
      rw [hwaiter] at h
      dsimp only at h
      obtain ⟨resumed', s₁, hresume, loop⟩ := resumeEach_loop hashes machine circumstances o actor waiter.runIds s
      rw [resumed_waiter, served_bind, hresume] at h
      dsimp only at h
      have hwaiter₁ : s₁.waiters (o, k) = some waiter := by rw [loop.waiters, hwaiter]
      have listed : ∀ r, s.Lists o k r ↔ r ∈ waiter.runIds := fun r =>
        ⟨fun ⟨other, found, mem⟩ => Option.some.inj (hwaiter.symm.trans found) ▸ mem, fun mem => ⟨waiter, hwaiter, mem⟩⟩
      by_cases changed : waiter.runIds.filter (· ∉ resumed') ≠ waiter.runIds
      · rw [if_pos changed] at h
        obtain ⟨rfl, rfl⟩ := replaced_waiter hwaiter₁ h
        refine ⟨waiter.runIds, s₁, hresume, rfl, rfl, listed, fun r => ?_⟩
        unfold WaitingState.Lists
        simp [Collection.set_same, ConnectionWaiter.keep]
      · rw [if_neg changed] at h
        obtain ⟨hvalue, rfl⟩ := Prod.mk.inj h
        obtain rfl := Except.ok.inj hvalue
        have absent : ∀ r ∈ waiter.runIds, r ∉ resumed' := by
          simpa using not_not.mp changed
        refine ⟨waiter.runIds, s₁, hresume, rfl, rfl, listed, fun r => ?_⟩
        constructor
        · rintro ⟨other, found, mem⟩
          obtain rfl := Option.some.inj (hwaiter₁.symm.trans found)
          exact ⟨mem, absent r mem⟩
        · exact fun h => ⟨waiter, hwaiter₁, h.1⟩

section
variable (reads : circumstances.readsWaiter = true) (writes : circumstances.writesWaiter = .answered)
include reads writes

private theorem complete_of_resumed {waiter : ConnectionWaiter} {resumed : List Identifier} {s₁ : WaitingState}
    (found : s.waiters (o, k) = some waiter)
    (resume : (resumeEach hashes o actor (resumeExpiry circumstances.now) waiter.runIds).served
      (handleWaiter hashes machine circumstances) s = (.ok resumed, s₁))
    (kept : s₁.waiters (o, k) = some waiter) (changed : waiter.runIds.filter (· ∉ resumed) ≠ waiter.runIds) :
    s.complete hashes machine circumstances o k actor =
      (.ok resumed, { s₁ with
        waiters := s₁.waiters.set (o, k) (waiter.keep (waiter.runIds.filter (· ∉ resumed))) }) := by
  unfold WaitingState.complete resumeWaiting
  rw [served_bind, found_waiter, if_pos reads, found]
  dsimp only
  rw [resumed_waiter, served_bind, resume]
  dsimp only
  rw [if_pos changed, served_bind, served_perform]
  simp only [handleWaiter, writes, written_waiter kept]
  rfl

private theorem complete_succeeds : ∃ resumed s', s.complete hashes machine circumstances o k actor = (.ok resumed, s') := by
  cases hwaiter : s.waiters (o, k) with
  | none =>
    unfold WaitingState.complete resumeWaiting
    rw [served_bind, found_waiter, if_pos reads, hwaiter]
    exact ⟨[], s, rfl⟩
  | some waiter =>
    obtain ⟨resumed, s₁, hresume, loop⟩ := resumeEach_loop hashes machine circumstances o actor waiter.runIds s
    have kept : s₁.waiters (o, k) = some waiter := by rw [loop.waiters, hwaiter]
    by_cases changed : waiter.runIds.filter (· ∉ resumed) ≠ waiter.runIds
    · exact ⟨_, _, complete_of_resumed reads writes hwaiter hresume kept changed⟩
    · unfold WaitingState.complete resumeWaiting
      rw [served_bind, found_waiter, if_pos reads, hwaiter]
      dsimp only
      rw [resumed_waiter, served_bind, hresume]
      dsimp only
      rw [if_neg changed]
      exact ⟨_, _, rfl⟩

end

private theorem not_waits_of_running (running : s.Running o r) : ¬ s.Waits o k r := by
  rintro ⟨⟨run, found, paused⟩, -⟩
  obtain ⟨run', found', hstatus⟩ := running
  obtain rfl := Option.some.inj (found.symm.trans found')
  rw [paused] at hstatus
  cases hstatus

private theorem none_waits (woken : ∀ r, s.Waits o k r → s'.Running o r)
    (others : ∀ r, ¬ s.Waits o k r → s'.store.runs (o, r) = s.store.runs (o, r)) (waitsFor : s'.waitsFor = s.waitsFor)
    (r : Identifier) : ¬ s'.Waits o k r := by
  intro waits
  by_cases waited : s.Waits o k r
  · exact not_waits_of_running (woken r waited) waits
  · refine waited ⟨?_, waitsFor ▸ waits.2⟩
    rw [← others r waited]
    exact waits.1

/-- A successful completion resumes the runs that wait exactly when the waiter is ready for it. -/
theorem complete_resumes_iff {resumed : List Identifier}
    (h : s.complete hashes machine circumstances o k actor = (.ok resumed, s')) :
    ResumesWaiting o k s resumed s' ↔ WaitersReady hashes circumstances o k actor s := by
  obtain ⟨runIds, s₁, completed⟩ := complete_ok h
  obtain ⟨resumed', s₂, hresume, loop⟩ := resumeEach_loop hashes machine circumstances o actor runIds s
  obtain ⟨hvalue, hstate⟩ := Prod.mk.inj (completed.resume.symm.trans hresume)
  obtain rfl := Except.ok.inj hvalue
  subst hstate
  have running : ∀ r, s'.Running o r ↔ s₁.Running o r := fun r => by
    unfold WaitingState.Running
    rw [completed.store]
  have waitsFor : s'.waitsFor = s.waitsFor := completed.waitsFor.trans loop.waitsFor
  constructor
  · intro resumes
    have changed : ∀ r, s.Waits o k r → s₁.store.runs (o, r) ≠ s.store.runs (o, r) := by
      intro r waits same
      obtain ⟨run, found, hstatus⟩ := (running r).mp (resumes.all r waits).2
      exact not_waits_of_running ⟨run, same.symm.trans found, hstatus⟩ waits
    have idle := none_waits (fun r waits => (resumes.all r waits).2)
      (fun r waits => resumes.others o r fun h => waits h.2) waitsFor
    refine ⟨fun r => ?_, fun r waits => ?_, fun r r' waits waits' => loop.distinct r r' (changed r waits)
      (changed r' waits')⟩
    · rw [completed.listed r]
      constructor
      · intro mem
        by_contra waits
        have kept : s'.Lists o k r := (completed.remaining r).mpr ⟨mem, fun h => waits (resumes.only r h)⟩
        exact idle r ((resumes.lists r).mp kept)
      · exact fun waits => (loop.resumed r (resumes.all r waits).1).1
    · obtain ⟨-, hread, hanswered⟩ := loop.resumed r (resumes.all r waits).1
      rcases loop.runs o r with same | ⟨-, -, free, -⟩
      · exact absurd same (changed r waits)
      · exact ⟨free, hread, hanswered⟩
  · intro ready
    have waits_of_mem : ∀ r ∈ runIds, s.Waits o k r := fun r mem => (ready.lists r).mp ((completed.listed r).mpr mem)
    have mem_of_waits : ∀ r, s.Waits o k r → r ∈ runIds := fun r waits =>
      (completed.listed r).mp ((ready.lists r).mpr waits)
    have resumes := resumeEach_resumes runIds s s₁ (fun r mem => .inl (ready.resumable r (waits_of_mem r mem)))
      (fun r mem r' mem' => ready.distinct r r' (waits_of_mem r mem) (waits_of_mem r' mem')) completed.resume
    have woken : ∀ r, s.Waits o k r → r ∈ resumed ∧ s'.Running o r := fun r waits =>
      ⟨(resumes r (mem_of_waits r waits)).1 (ready.resumable r waits),
        (running r).mpr (resumes r (mem_of_waits r waits)).2⟩
    have others : ∀ o' r, ¬ (o' = o ∧ s.Waits o k r) → s'.store.runs (o', r) = s.store.runs (o', r) := by
      intro o' r other
      rw [completed.store]
      rcases loop.runs o' r with same | ⟨ho, mem, -⟩
      · exact same
      · exact absurd ⟨ho, waits_of_mem r mem⟩ other
    refine ⟨woken, fun r mem => waits_of_mem r (loop.resumed r mem).1, others, fun r => ?_⟩
    have idle := none_waits (fun r waits => (woken r waits).2) (fun r waits => others o r fun h => waits h.2) waitsFor r
    rw [completed.remaining r]
    exact ⟨fun kept => absurd (woken r (waits_of_mem r kept.1)).1 kept.2, fun waits => absurd waits idle⟩

end

section
variable (hashes : Hashes) (machine : RotationMachine)

/-- In a run, every successful completion resumes the runs that wait. -/
def AlwaysResumes (s : WaitingState) (events : List WaitingEvent) : Prop :=
  ∀ circumstances o k actor t resumed t',
    (t, WaitingEvent.completed circumstances o k actor) ∈ s.history hashes machine events →
    t.complete hashes machine circumstances o k actor = (.ok resumed, t') → ResumesWaiting o k t resumed t'

/-- In every run, each successful completion resumes the runs that wait exactly when before each of them the waiter is
ready for it. -/
theorem waiting_resumed_iff (s : WaitingState) (events : List WaitingEvent) :
    AlwaysResumes hashes machine s events ↔
    ∀ circumstances o k actor t resumed t', (t, WaitingEvent.completed circumstances o k actor) ∈
        s.history hashes machine events → t.complete hashes machine circumstances o k actor = (.ok resumed, t') →
      WaitersReady hashes circumstances o k actor t := by
  constructor
  · exact fun resumes circumstances o k actor t resumed t' mem success =>
      (complete_resumes_iff success).mp (resumes circumstances o k actor t resumed t' mem success)
  · exact fun ready circumstances o k actor t resumed t' mem success =>
      (complete_resumes_iff success).mpr (ready circumstances o k actor t resumed t' mem success)

variable {hashes machine}

def Spent (hashes : Hashes) (o r : Identifier) (s : WaitingState) : Prop :=
  s.store.outbox (o, resumeCommandId hashes o r) ≠ none

variable {o r : Identifier} {s : WaitingState}

private theorem spent_of_perform {call : Call} {result : MutationResult} {store : Store} (spent : Spent hashes o r s)
    (h : (repository hashes.toHashing).perform s.store call = .ok (result, store)) :
    store.outbox (o, resumeCommandId hashes o r) ≠ none := by
  cases perform_effect h with
  | created command newId now _ effect =>
    rw [effect.outbox]
    exact fun h => spent (set_none h)
  | mutated machine now command run updated _ effect =>
    rw [effect.outbox]
    exact fun h => spent (set_none h)
  | replayed _ unchanged => exact unchanged ▸ spent

private theorem Fate.keeps {α : Type} {fate : Fate} {outcome : Except Error (α × WaitingState)} (spent : Spent hashes o r s)
    (keeps : ∀ answer s', outcome = .ok (answer, s') → Spent hashes o r s') :
    Spent hashes o r (fate.apply s outcome).2 := by
  cases outcome with
  | error e => cases fate <;> exact spent
  | ok value =>
    obtain ⟨answer, s'⟩ := value
    cases fate with
    | answered => exact keeps answer s' rfl
    | refused => exact spent
    | lost => exact keeps answer s' rfl

private theorem handleWaiter_keeps {circumstances : Circumstances} (s : WaitingState) (op : WaiterCall)
    (spent : Spent hashes o r s) : Spent hashes o r (handleWaiter hashes machine circumstances s op).2 := by
  cases op with
  | clock => exact spent
  | waiter o' k =>
    simp only [handleWaiter]
    split <;> exact spent
  | run o' r' =>
    simp only [handleWaiter]
    split <;> exact spent
  | createWaiter waiter =>
    refine Fate.keeps spent fun answer s' h => ?_
    simp only [unit_bind_ok, pure_ok, Prod.mk.injEq] at h
    obtain ⟨-, -, rfl⟩ := h
    exact spent
  | replaceWaiter o' k revision update =>
    refine Fate.keeps spent fun answer s' h => ?_
    simp only [writeWaiter, bind_ok, pure_ok, Prod.mk.injEq] at h
    obtain ⟨-, -, -, -, -, -, -, rfl⟩ := h
    exact spent
  | resume command =>
    refine Fate.keeps spent fun answer s' h => ?_
    obtain ⟨⟨result, store⟩, hmutate, hpure⟩ := (bind_ok _ _ _).mp h
    obtain ⟨-, rfl⟩ := Prod.mk.inj (Except.ok.inj hpure)
    have hp : (repository hashes.toHashing).perform s.store
        (.mutate machine (circumstances.workflowNow command.runId) (.resume command)) = .ok (result, store) := hmutate
    exact spent_of_perform spent hp

private theorem Spent.next (spent : Spent hashes o r s) (event : WaitingEvent) :
    Spent hashes o r (s.next hashes machine event) := by
  cases event with
  | created command newId now =>
    simp only [WaitingState.next]
    cases h : createRun hashes.toHashing s.store command newId now with
    | error e => exact spent
    | ok value =>
      have hp : (repository hashes.toHashing).perform s.store (.create command newId now) = .ok value := h
      exact spent_of_perform spent hp
  | commanded now command reason =>
    simp only [WaitingState.next]
    cases h : mutateRun hashes.toHashing s.store machine now command with
    | error e => exact spent
    | ok value =>
      have hp : (repository hashes.toHashing).perform s.store (.mutate machine now command) = .ok value := h
      exact spent_of_perform spent hp
  | remembered circumstances o' k r' => exact served_keeps _ (fun s op => handleWaiter_keeps s op) _ spent
  | completed circumstances o' k actor => exact served_keeps _ (fun s op => handleWaiter_keeps s op) _ spent

private theorem Spent.history (spent : Spent hashes o r s) {events : List WaitingEvent} {t : WaitingState}
    {event : WaitingEvent} (h : (t, event) ∈ s.history hashes machine events) : Spent hashes o r t := by
  induction events generalizing s with
  | nil => cases h
  | cons first events ih =>
    rcases List.mem_cons.mp h with he | h
    · exact (Prod.mk.inj he).1 ▸ spent
    · exact ih (spent.next first) h

/-- A run whose resuming command was taken is not changed by any later completion, however often it is paused. -/
theorem spent_unchanged (spent : Spent hashes o r s) {events : List WaitingEvent} {t t' : WaitingState}
    {circumstances : Circumstances} {k actor : Identifier} {resumed : List Identifier}
    (h : (t, WaitingEvent.completed circumstances o k actor) ∈ s.history hashes machine events)
    (success : t.complete hashes machine circumstances o k actor = (.ok resumed, t')) :
    t'.store.runs (o, r) = t.store.runs (o, r) := by
  obtain ⟨runIds, t₁, completed⟩ := complete_ok success
  obtain ⟨resumed', t₂, hresume, loop⟩ := resumeEach_loop hashes machine circumstances o actor runIds t
  obtain ⟨-, hstate⟩ := Prod.mk.inj (completed.resume.symm.trans hresume)
  rw [completed.store, hstate]
  rcases loop.runs o r with same | ⟨-, -, free, -⟩
  · exact same
  · exact absurd free.unused (spent.history h)

end

def samplePaused : RotationRun where
  toRunFields := { sampleRunning.toRunFields with status := .paused, updatedAt := ⟨2, 0⟩, revision := 2 }
  accepted := by decide

def samplePause : RunCommand := .pause { sampleBase commandThree 1 with fencingToken := 1 }

private def sampleWaiting : Store := sampleMutated sampleStarted sampleRunning samplePaused samplePause

private def sampleOperator : Identifier := operatorOne

private def sampleConnection : Identifier := connectionOne

def Circumstances.sample : Circumstances where
  now := ⟨200, 0⟩
  workflowNow _ := ⟨200, 0⟩
  reads _ := true
  resumes _ := .answered
  readsWaiter := true
  writesWaiter := .answered

private def sampleResume : RunCommand := .resume (resumeCommand Hashes.sample samplePaused.organisationId
  samplePaused.id sampleOperator (resumeExpiry ⟨200, 0⟩) samplePaused)

private def sampleResumed : RotationRun where
  toRunFields :=
    { samplePaused.toRunFields with
      status := .running
      lease := some (RotationMachine.nextLease samplePaused sampleOperator (resumeExpiry ⟨200, 0⟩))
      fencingToken := 2
      updatedAt := ⟨200, 0⟩
      revision := 3 }
  accepted := by decide

private def sampleWoken : Store := sampleMutated sampleWaiting samplePaused sampleResumed sampleResume

private def samplePausedAgain : RotationRun where
  toRunFields := { sampleResumed.toRunFields with status := .paused, updatedAt := ⟨201, 0⟩, revision := 4 }
  accepted := by decide

private def samplePauseAgain : RunCommand := .pause { sampleBase commandFour 3 with fencingToken := 2 }

private def sampleWaitingAgain : Store := sampleMutated sampleWoken sampleResumed samplePausedAgain samplePauseAgain

private theorem sampleWaiting_mutates : Mutates Hashing.sample sampleStarted {} ⟨2, 0⟩ samplePause sampleRunning
    samplePaused
    { run := samplePaused, step := mutateStep Hashing.sample sampleRunning samplePaused samplePause none,
      applied := true } sampleWaiting where
  new := by decide
  unused := by decide
  found := rfl
  organisationId := rfl
  revision := rfl
  lock := .inl ⟨_, rfl, rfl⟩
  gate := nofun
  transition_ok := RotationMachine.pause_ok.mpr ⟨⟨rfl, _, rfl, rfl, by decide⟩, by decide, rfl⟩
  same_organisation := rfl
  same_run := rfl
  bumped := rfl
  result_eq := rfl
  store_eq := rfl

private theorem sampleWoken_mutates : Mutates Hashing.sample sampleWaiting {} ⟨200, 0⟩ sampleResume samplePaused
    sampleResumed
    { run := sampleResumed, step := mutateStep Hashing.sample samplePaused sampleResumed sampleResume none,
      applied := true } sampleWoken where
  new := by decide +kernel
  unused := by decide +kernel
  found := rfl
  organisationId := rfl
  revision := rfl
  lock := .inl ⟨_, rfl, rfl⟩
  gate := nofun
  transition_ok := RotationMachine.resume_ok.mpr ⟨rfl, rfl, by decide, by decide, rfl⟩
  same_organisation := rfl
  same_run := rfl
  bumped := rfl
  result_eq := rfl
  store_eq := rfl

private theorem sampleWaitingAgain_mutates : Mutates Hashing.sample sampleWoken {} ⟨201, 0⟩ samplePauseAgain sampleResumed
    samplePausedAgain
    { run := samplePausedAgain, step := mutateStep Hashing.sample sampleResumed samplePausedAgain samplePauseAgain none,
      applied := true } sampleWaitingAgain where
  new := by decide +kernel
  unused := by decide +kernel
  found := rfl
  organisationId := rfl
  revision := rfl
  lock := .inl ⟨_, rfl, rfl⟩
  gate := nofun
  transition_ok := RotationMachine.pause_ok.mpr ⟨⟨rfl, _, rfl, rfl, by decide⟩, by decide, rfl⟩
  same_organisation := rfl
  same_run := rfl
  bumped := rfl
  result_eq := rfl
  store_eq := rfl

section
open Collection (empty)

private def sampleWaiter : ConnectionWaiter where
  organisationId := samplePaused.organisationId
  connectionId := sampleConnection
  runIds := [samplePaused.id]

private def sampleRemembered : WaitingEvent :=
  .remembered .sample samplePaused.organisationId sampleConnection samplePaused.id

private def sampleCompletion : WaitingEvent :=
  .completed .sample samplePaused.organisationId sampleConnection sampleOperator

private def sampleUnlisted : WaitingState where
  store := sampleWaiting
  waiters := empty
  waitsFor := empty.set (samplePaused.organisationId, samplePaused.id) sampleConnection

private def sampleListed : WaitingState :=
  { sampleUnlisted with waiters := empty.set (samplePaused.organisationId, sampleConnection) sampleWaiter }

private def sampleForgotten : WaitingState where
  store := sampleWoken
  waiters := sampleListed.waiters.set (samplePaused.organisationId, sampleConnection) (sampleWaiter.keep [])
  waitsFor := sampleListed.waitsFor

private def sampleUnlistedAgain : WaitingState where
  store := sampleWaitingAgain
  waiters := sampleForgotten.waiters
  waitsFor := sampleForgotten.waitsFor.set (samplePaused.organisationId, samplePaused.id) sampleConnection

private def sampleListedAgain : WaitingState := sampleUnlistedAgain.next Hashes.sample {} sampleRemembered

private theorem sampleUnlisted_next : (WaitingState.mk sampleStarted empty empty).next Hashes.sample {}
    (.commanded ⟨2, 0⟩ samplePause (some sampleConnection)) = sampleUnlisted := by
  have h : mutateRun Hashing.sample sampleStarted {} ⟨2, 0⟩ samplePause = .ok (_, sampleWaiting) :=
    mutate_ok.mpr (.inl ⟨sampleRunning, samplePaused, sampleWaiting_mutates⟩)
  simp only [WaitingState.next, Hashes.sample, h]
  rfl

private theorem sampleListed_next : sampleUnlisted.next Hashes.sample {} sampleRemembered = sampleListed := rfl

private theorem sampleForgotten_next : sampleListed.next Hashes.sample {} sampleCompletion = sampleForgotten := by
  have h : mutateRun Hashing.sample sampleWaiting {} ⟨200, 0⟩ sampleResume = .ok (_, sampleWoken) :=
    mutate_ok.mpr (.inl ⟨samplePaused, sampleResumed, sampleWoken_mutates⟩)
  have hturn : (resumeRun Hashes.sample samplePaused.organisationId sampleOperator
        (resumeExpiry Circumstances.sample.now) samplePaused.id).served (handleWaiter Hashes.sample {} .sample)
          sampleListed = (.ok true, { sampleListed with store := sampleWoken }) :=
    resumeRun_of_mutate rfl rfl rfl rfl h
  have hresume : (resumeEach Hashes.sample samplePaused.organisationId sampleOperator
        (resumeExpiry Circumstances.sample.now) [samplePaused.id]).served (handleWaiter Hashes.sample {} .sample)
          sampleListed = (.ok [samplePaused.id], { sampleListed with store := sampleWoken }) := by
    rw [resumeEach, served_bind, hturn]
    rfl
  have found : sampleListed.waiters (samplePaused.organisationId, sampleConnection) = some sampleWaiter := rfl
  exact congrArg Prod.snd (complete_of_resumed rfl rfl found hresume rfl (by decide))

private theorem sampleUnlistedAgain_next : sampleForgotten.next Hashes.sample {}
    (.commanded ⟨201, 0⟩ samplePauseAgain (some sampleConnection)) = sampleUnlistedAgain := by
  have h : mutateRun Hashing.sample sampleWoken {} ⟨201, 0⟩ samplePauseAgain = .ok (_, sampleWaitingAgain) :=
    mutate_ok.mpr (.inl ⟨sampleResumed, samplePausedAgain, sampleWaitingAgain_mutates⟩)
  simp only [WaitingState.next, sampleForgotten, Hashes.sample, h]
  rfl

/-- A run that is paused for the same connection again is not resumed again: the command that resumes it was taken. -/
theorem second_pause_not_resumed : ¬ ∀ hashes machine store events,
    (repository hashes.toHashing).Reachable Initial store →
      AlwaysResumes hashes machine ⟨store, empty, empty⟩ events := by
  intro resumes
  have succeeds : ∃ resumed t', sampleListedAgain.complete Hashes.sample {} .sample samplePaused.organisationId
      sampleConnection sampleOperator = (.ok resumed, t') := complete_succeeds rfl rfl
  obtain ⟨resumed, t', success⟩ := succeeds
  have mem : (sampleListedAgain, sampleCompletion) ∈ (WaitingState.mk sampleStarted empty empty).history Hashes.sample {}
      [.commanded ⟨2, 0⟩ samplePause (some sampleConnection), sampleRemembered, sampleCompletion,
        .commanded ⟨201, 0⟩ samplePauseAgain (some sampleConnection), sampleRemembered, sampleCompletion] := by
    simp only [WaitingState.history, sampleUnlisted_next, sampleListed_next, sampleForgotten_next,
      sampleUnlistedAgain_next]
    iterate 5 apply List.mem_cons_of_mem
    exact List.mem_cons_self
  have ready := (complete_resumes_iff success).mp
    (resumes _ _ _ _ sampleStarted_reachable _ _ _ _ _ _ _ mem success)
  have waits : sampleListedAgain.Waits samplePaused.organisationId sampleConnection samplePaused.id :=
    ⟨⟨samplePausedAgain, rfl, rfl⟩, rfl⟩
  have taken : sampleListedAgain.store.outbox (samplePaused.organisationId,
      resumeCommandId Hashes.sample samplePaused.organisationId samplePaused.id) ≠ none := by decide +kernel
  exact taken (ready.resumable samplePaused.id waits).unused

end

end Uumi.Browser
