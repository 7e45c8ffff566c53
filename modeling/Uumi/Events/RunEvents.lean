import Uumi.Events.Delivery

/-! The outbox of the run events: the run repository fills it in the order of the revisions, and its publishers
deliver in that order. -/
namespace Uumi.Events
open Uumi.Contracts Uumi.Core Uumi.Foundations Uumi.Policy Uumi.State Uumi.Storage
open Uumi.Workflow (repository Placed Logged eventStream reachable_logged)

variable {hashing : Hashing} {s s' : Store} {p : Publishing RunEvent (Identifier × Identifier)}

def undelivered (store : Store) : Publishing RunEvent (Identifier × Identifier) where
  store := {
    records := fun path => (store.outbox path).map fun e => .fresh e.event e.availableAt
    cursors := Collection.empty }
  claims := []

/-- The outbox holds the events of the repository, however far they are delivered. -/
def SameEvents (p : Publishing RunEvent (Identifier × Identifier)) (s : Store) : Prop :=
  ∀ path, (p.store.records path).map OutboxFields.event = (s.outbox path).map OutboxEvent.event

/-- The publishers find an event exactly when the repository has stored it. -/
theorem SameEvents.found (h : SameEvents p s) {path : Identifier × Identifier} {event : RunEvent} :
    (∃ record, p.store.records path = some record ∧ record.event = event) ↔
      ∃ e, s.outbox path = some e ∧ e.event = event := by
  rw [← Option.map_eq_some_iff, ← Option.map_eq_some_iff, h path]

private theorem event_placed (hs : (repository hashing).Reachable Workflow.Initial s) {o c : Identifier}
    {e : OutboxEvent} (he : s.outbox (o, c) = some e) :
    runOutbox.path e.event = (o, c) ∧ ∃ run, s.runs (o, e.event.runId) = some run ∧ e.event.revision ≤ run.revision := by
  obtain ⟨hp, hl⟩ := reachable_logged hs
  obtain ⟨i, t, ht, ha⟩ := hl.announced he
  obtain ⟨ho, hi, hc⟩ := hp.step ht
  obtain ⟨run, hr⟩ := hp.owner ht
  have hrun : e.event.runId = i := ha.runId.trans hi
  refine ⟨Prod.ext (ha.organisationId.trans ho) (ha.id.trans hc), run, hrun ▸ hr, ?_⟩
  exact ((eventStream hp hl hr).announces c e he hrun).1

private theorem events_numbered (hs : (repository hashing).Reachable Workflow.Initial s) {o c : Identifier}
    {e : OutboxEvent} (he : s.outbox (o, c) = some e) {n : Nat} (hn : n ≤ e.event.revision) :
    ∃! d, ∃ f, s.outbox (o, d) = some f ∧ f.event.runId = e.event.runId ∧ f.event.revision = n := by
  obtain ⟨hp, hl⟩ := reachable_logged hs
  obtain ⟨-, run, hr, hle⟩ := event_placed hs he
  exact (eventStream hp hl hr).one_each n (hn.trans hle)

private theorem events_unique (hs : (repository hashing).Reachable Workflow.Initial s)
    {path path' : Identifier × Identifier} {e e' : OutboxEvent} (he : s.outbox path = some e)
    (he' : s.outbox path' = some e') (stream : runOutbox.stream e.event = runOutbox.stream e'.event)
    (position : runOutbox.position e.event = runOutbox.position e'.event) : path = path' := by
  obtain ⟨o, c⟩ := path
  obtain ⟨o', c'⟩ := path'
  obtain ⟨horg, hrun⟩ := Prod.mk.inj stream
  have ho : e.event.organisationId = o := congrArg Prod.fst (event_placed hs he).1
  have ho' : e'.event.organisationId = o' := congrArg Prod.fst (event_placed hs he').1
  obtain rfl : o = o' := ho.symm.trans (horg.trans ho')
  obtain ⟨d, -, hd⟩ := events_numbered hs he (Nat.le_refl _)
  rw [hd c ⟨e, he, rfl, rfl⟩, hd c' ⟨e', he', hrun.symm, position.symm⟩]

private theorem events_full (hs : (repository hashing).Reachable Workflow.Initial s)
    {path : Identifier × Identifier} {e : OutboxEvent} (he : s.outbox path = some e) {n : Nat}
    (hn : n < runOutbox.position e.event) : ∃ path' e', s.outbox path' = some e' ∧
      runOutbox.stream e'.event = runOutbox.stream e.event ∧ runOutbox.position e'.event = n := by
  obtain ⟨o, c⟩ := path
  obtain ⟨d, ⟨f, hf, hrun, hrev⟩, -⟩ := events_numbered hs he (Nat.le_of_lt hn)
  have ho : e.event.organisationId = o := congrArg Prod.fst (event_placed hs he).1
  have ho' : f.event.organisationId = o := congrArg Prod.fst (event_placed hs hf).1
  exact ⟨(o, d), f, hf, Prod.ext (ho'.trans ho.symm) hrun, hrev⟩

/-- What the run repository writes is an outbox that nobody has delivered from. -/
theorem undelivered_initial (hs : (repository hashing).Reachable Workflow.Initial s) :
    Initial runOutbox (undelivered s) := by
  have written {path : Identifier × Identifier} {record : OutboxFields RunEvent}
      (hr : (undelivered s).store.records path = some record) :
      ∃ e, s.outbox path = some e ∧ record = .fresh e.event e.availableAt := by
    obtain ⟨e, he, rfl⟩ := Option.map_eq_some_iff.mp hr
    exact ⟨e, he, rfl⟩
  refine ⟨rfl, rfl, ?_, ?_, ?_⟩
  · intro path record hr
    obtain ⟨e, -, rfl⟩ := written hr
    rfl
  · intro path path' record record' hr hr' stream position
    obtain ⟨e, he, rfl⟩ := written hr
    obtain ⟨e', he', rfl⟩ := written hr'
    exact events_unique hs he he' stream position
  · intro path record hr n hn
    obtain ⟨e, he, rfl⟩ := written hr
    obtain ⟨path', e', he', stream, position⟩ := events_full hs he hn
    exact ⟨path', .fresh e'.event e'.availableAt, Option.map_eq_some_iff.mpr ⟨e', he', rfl⟩, stream, position⟩

/-- A call of the run repository lets one event join its stream, or none, while the publishers are at work. -/
theorem perform_joins (hs : (repository hashing).Reachable Workflow.Initial s) {call : Workflow.Call}
    {result : MutationResult} (h : (repository hashing).perform s call = .ok (result, s')) (hp : SameEvents p s) :
    ∃ p', Run runOutbox p p' ∧ SameEvents p' s' ∧ p'.claims = p.claims := by
  have hs' : (repository hashing).Reachable Workflow.Initial s' := (repository hashing).exec_of_ok h ▸ hs.exec call
  have joins {key : Identifier × Identifier} {e : OutboxEvent} (free : s.outbox key = none)
      (added : s'.outbox = s.outbox.set key e) : ∃ p', Run runOutbox p p' ∧ SameEvents p' s' ∧ p'.claims = p.claims := by
    have he : s'.outbox key = some e := by rw [added, Collection.set_same]
    have hkey : runOutbox.path e.event = key := (event_placed hs' he).1
    have hfree : p.store.records key = none := by
      have := hp key
      rwa [free, Option.map_none, Option.map_eq_none_iff] at this
    have old {path : Identifier × Identifier} {event : RunEvent} (hne : path ≠ key) :
        (∃ record, p.store.records path = some record ∧ record.event = event) ↔
          ∃ f, s'.outbox path = some f ∧ f.event = event := by
      rw [hp.found, added, Collection.set_of_ne hne]
    have taken {path : Identifier × Identifier} {record : OutboxFields RunEvent}
        (hr : p.store.records path = some record) : path ≠ key := by
      rintro rfl
      rw [hfree] at hr
      cases hr
    refine ⟨_, .single (.join e.event e.availableAt (hkey ▸ hfree) ?_ ?_), ?_, rfl⟩
    · intro path record hr stream position
      obtain ⟨f, hf, hfe⟩ := (old (taken hr)).mp ⟨record, hr, rfl⟩
      rw [← hfe] at stream position
      exact taken hr (events_unique hs' hf he stream position)
    · intro n hn
      obtain ⟨path, f, hf, stream, position⟩ := events_full hs' he hn
      have hne : path ≠ key := by
        rintro rfl
        rw [he] at hf
        cases hf
        omega
      obtain ⟨record, hr, hre⟩ := (old hne).mpr ⟨f, hf, rfl⟩
      exact ⟨path, record, hr, hre ▸ stream, hre ▸ position⟩
    · intro path
      simp only [hkey, added]
      by_cases hne : path = key
      · subst hne
        rw [Collection.set_same, Collection.set_same]
        rfl
      · rw [Collection.set_of_ne hne, Collection.set_of_ne hne]
        exact hp path
  cases Workflow.perform_effect h with
  | created _ _ _ _ effect => exact joins effect.unused (Workflow.Creates.outbox effect)
  | mutated _ _ _ _ _ _ effect => exact joins effect.unused (Workflow.Mutates.outbox effect)
  | replayed _ unchanged => exact ⟨p, .refl, unchanged ▸ hp, rfl⟩

/-- In every state that the publishers of the run events reach, delivery is ordered and recorded once. -/
theorem run_events_delivered (h : Reachable runOutbox p) : OrderedDelivery runOutbox p :=
  (reachable_kept h).delivery

/-- A publisher that delivers an event it has claimed takes a step of the publishers, or its mark raises. -/
theorem deliver_steps (publisher : EventPublisher) {claim : OutboxClaim RunEvent} (answer : Except String String)
    (now : AwareDatetime) (held : (publisher.ownerId, claim) ∈ p.claims) :
    Run runOutbox p { p with
      store := Outboxes.marked runOutbox p.store claim publisher.ownerId (publisher.deliver claim answer now) } := by
  cases h : Outboxes.mark runOutbox p.store claim publisher.ownerId (publisher.deliver claim answer now) with
  | ok store =>
    rw [Outboxes.marked_of_ok h]
    exact .single (.mark held h)
  | error e =>
    rw [Outboxes.marked, h]

def samplePublisher : Identifier := ⟨"publisher-1", by decide⟩

def samplePath : Identifier × Identifier := (RotationRun.sample.organisationId, Workflow.sampleCommand.id)

def sampleRecord : OutboxFields RunEvent :=
  let written := Storage.createEvent RotationRun.sample Workflow.sampleCommand
  .fresh written.event written.availableAt

def sampleLeased (record : OutboxFields RunEvent) : OutboxFields RunEvent :=
  Outboxes.claimed record samplePublisher ⟨20, 0⟩ 60

def sampleFailure : Outboxes.Mark := .failed "down" ⟨20, 0⟩

def sampleGivenBack : OutboxFields RunEvent := sampleFailure.record (sampleLeased sampleRecord)

def sampleClaim : OutboxClaim RunEvent := ⟨samplePath, sampleLeased sampleRecord⟩

def rewritten (store : OutboxStore RunEvent (Identifier × Identifier)) (record : OutboxFields RunEvent) :
    OutboxStore RunEvent (Identifier × Identifier) :=
  { store with records := store.records.set samplePath record }

def sampleHeld : OutboxStore RunEvent (Identifier × Identifier) :=
  rewritten (undelivered Workflow.sampleCreated).store (sampleLeased sampleRecord)

def sampleReturned : OutboxStore RunEvent (Identifier × Identifier) := rewritten sampleHeld sampleGivenBack

def sampleReclaimed : OutboxStore RunEvent (Identifier × Identifier) :=
  rewritten sampleReturned (sampleLeased sampleGivenBack)

private theorem sample_claimed : Outboxes.claimOne runOutbox (undelivered Workflow.sampleCreated).store samplePath
    samplePublisher ⟨20, 0⟩ 60 = .ok (some sampleClaim, sampleHeld) := rfl

private theorem sample_failed : Outboxes.mark runOutbox sampleHeld sampleClaim samplePublisher sampleFailure =
    .ok sampleReturned := rfl

private theorem sample_reclaimed : Outboxes.claimOne runOutbox sampleReturned samplePath samplePublisher ⟨20, 0⟩ 60 =
    .ok (some ⟨samplePath, sampleLeased sampleGivenBack⟩, sampleReclaimed) := rfl

def sampleWorking : Publishing RunEvent (Identifier × Identifier) :=
  ⟨sampleHeld, [(samplePublisher, sampleClaim)]⟩

def sampleAgain : Publishing RunEvent (Identifier × Identifier) :=
  ⟨sampleReclaimed, [(samplePublisher, ⟨samplePath, sampleLeased sampleGivenBack⟩), (samplePublisher, sampleClaim)]⟩

private theorem sampleWorking_reachable : Reachable runOutbox sampleWorking :=
  ⟨_, undelivered_initial Workflow.sampleCreated_reachable, .single (.claim sample_claimed)⟩

private theorem sample_returns : Step runOutbox sampleWorking { sampleWorking with store := sampleReturned } :=
  .mark List.mem_cons_self sample_failed

private theorem sample_claims_again : Run runOutbox { sampleWorking with store := sampleReturned } sampleAgain :=
  .single (.claim sample_reclaimed)

private theorem sampleAgain_reachable : Reachable runOutbox sampleAgain := by
  obtain ⟨s₀, h₀, hrun⟩ := sampleWorking_reachable
  exact ⟨s₀, h₀, (hrun.tail sample_returns).trans sample_claims_again⟩

private theorem sample_failed_again : ∃ store, Outboxes.mark runOutbox sampleReclaimed sampleClaim samplePublisher
    sampleFailure = .ok store ∧ store ≠ sampleReclaimed := by
  refine ⟨_, rfl, fun heq => ?_⟩
  have hrec := congrArg (fun store => store.records samplePath) heq
  simp only [sampleReclaimed, rewritten, Collection.set_same] at hrec
  have howner := congrArg OutboxFields.leaseOwner (Option.some.inj hrec)
  cases howner

/-- The guarantees hold where the event of the sample run is claimed for the second time. -/
theorem run_events_delivered_sample : OrderedDelivery runOutbox sampleAgain :=
  run_events_delivered sampleAgain_reachable

/-- A failure that its publisher reports again after it has claimed the event anew takes the new lease away. -/
theorem repeated_failure_changes : ¬ ∀ (p : Publishing RunEvent (Identifier × Identifier)) claimant owner claim m store,
    Reachable runOutbox p → (claimant, claim) ∈ p.claims → Outboxes.mark runOutbox p.store claim owner m = .ok store →
    ∀ p', Run runOutbox { p with store } p' → Outboxes.marked runOutbox p'.store claim owner m = p'.store := by
  intro h
  have hsame := h sampleWorking samplePublisher samplePublisher sampleClaim sampleFailure sampleReturned
    sampleWorking_reachable List.mem_cons_self sample_failed sampleAgain sample_claims_again
  obtain ⟨store, hmark, hne⟩ := sample_failed_again
  exact hne ((Outboxes.marked_of_ok hmark).symm.trans hsame)

end Uumi.Events
