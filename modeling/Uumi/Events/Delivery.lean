import Uumi.Foundations.OrderedDelivery
import Uumi.Storage.Outbox
import Uumi.Workflow.Idempotency

/-! Delivery of the events of an outbox by any number of publishers: events join their streams, publishers claim
them and mark what they have claimed, at any time and in any order. -/
namespace Uumi.Events
open Uumi.Contracts Uumi.Core Uumi.Foundations Uumi.Storage

/-- The outbox of the run events. A stream is a run of an organisation, and its events are placed by revision. -/
def runOutbox : Outbox RunEvent (Identifier × Identifier) where
  path event := (event.organisationId, event.id)
  stream event := (event.organisationId, event.runId)
  group event := event.runId
  position event := event.revision
  receiptLength := 256
  noData id := .storageIntegrity s!"document {id.text} has no data"
  deadLettered event := .outboxLease s!"event {event.id.text} is dead-lettered"
  otherReceipt event := .outboxLease s!"event {event.id.text} is already published"
  delivered event := .outboxLease s!"event {event.id.text} is already published"
  notOwned event owner := .outboxLease s!"event {event.id.text} is not leased by {owner.text}"
  notNext event := .outboxLease s!"event {event.id.text} is not next for its run"
  partialLease := "outbox lease owner and expiry must be set together"
  leasedDelivery := "a published event cannot remain leased"
  partialDelivery := "published time and publisher message ID must be set together"
  twoOutcomes := "an outbox event cannot be published and dead-lettered"
  leasedDeadLetter := "a dead-lettered event cannot remain leased"

/-- `EventPublisher`, with its times in microseconds. -/
structure EventPublisher where
  ownerId : Identifier
  leaseDuration : Int := 60000000
  retryBase : Int := 5000000
  retryMax : Int := 900000000
  maximumAttempts : Nat := 10
  lease_pos : 0 < leaseDuration := by decide
  retry_valid : 0 < retryBase ∧ retryBase ≤ retryMax := by decide
  attempts_pos : 1 ≤ maximumAttempts := by decide

namespace EventPublisher

def backoff (publisher : EventPublisher) (attempts : Nat) : Int :=
  min (publisher.retryBase * 2 ^ min (attempts - 1) 16) publisher.retryMax

/-- `_deliver`: how a publisher marks a claim after the transport has answered. -/
def deliver (publisher : EventPublisher) (claim : OutboxClaim RunEvent) (answer : Except String String)
    (now : AwareDatetime) : Outboxes.Mark :=
  match answer with
  | .error error =>
    if publisher.maximumAttempts ≤ claim.outbox.attempts then .deadLetter error now
    else .failed error { now with instant := now.instant + publisher.backoff claim.outbox.attempts }
  | .ok messageId => .delivered messageId now

end EventPublisher

/-- An outbox and its publishers. -/
structure Publishing (Event Stream : Type) where
  store : OutboxStore Event Stream
  /-- Which publisher has claimed what, the latest claim first. -/
  claims : List (Identifier × OutboxClaim Event)

variable {Event Stream : Type} [DecidableEq Stream]

def deliveryOf (outbox : Outbox Event Stream) (store : OutboxStore Event Stream) :
    Delivery (Identifier × Identifier) Stream where
  place path := (store.records path).map fun record => (outbox.stream record.event, outbox.position record.event)
  settled path := ∃ record, store.records path = some record ∧ record.Settled
  count stream := (store.reached stream + 1).toNat

/-- An event joins its stream, a publisher claims an event, or a publisher marks what somebody has claimed. The owner
of a mark, its values and its time are arbitrary, and so is the time of a claim. -/
inductive Step (outbox : Outbox Event Stream) (s : Publishing Event Stream) : Publishing Event Stream → Prop
  | join (event : Event) (availableAt : AwareDatetime) (free : s.store.records (outbox.path event) = none)
      (last : ∀ path record, s.store.records path = some record → outbox.stream record.event = outbox.stream event →
        outbox.position record.event ≠ outbox.position event)
      (full : ∀ n < outbox.position event, ∃ path record, s.store.records path = some record ∧
        outbox.stream record.event = outbox.stream event ∧ outbox.position record.event = n) :
      Step outbox s { s with store := { s.store with
        records := s.store.records.set (outbox.path event) (.fresh event availableAt) } }
  | claim {path : Identifier × Identifier} {owner : Identifier} {now : AwareDatetime} {lease : Int}
      {claim : OutboxClaim Event} {store : OutboxStore Event Stream}
      (leased : Outboxes.claimOne outbox s.store path owner now lease = .ok (some claim, store)) :
      Step outbox s ⟨store, (owner, claim) :: s.claims⟩
  | mark {claimant owner : Identifier} {claim : OutboxClaim Event} {m : Outboxes.Mark}
      {store : OutboxStore Event Stream} (held : (claimant, claim) ∈ s.claims)
      (marked : Outboxes.mark outbox s.store claim owner m = .ok store) : Step outbox s { s with store }

/-- Any number of steps. -/
abbrev Run (outbox : Outbox Event Stream) : Publishing Event Stream → Publishing Event Stream → Prop :=
  Relation.ReflTransGen (Step outbox)

/-- Nothing is claimed or delivered yet. The events of every stream are numbered from 0 on. -/
structure Initial (outbox : Outbox Event Stream) (s : Publishing Event Stream) : Prop where
  claims : s.claims = []
  cursors : s.store.cursors = Collection.empty
  fresh : ∀ path record, s.store.records path = some record →
    record = .fresh record.event record.availableAt
  unique : ∀ path path' record record', s.store.records path = some record → s.store.records path' = some record' →
    outbox.stream record.event = outbox.stream record'.event →
    outbox.position record.event = outbox.position record'.event → path = path'
  full : ∀ path record, s.store.records path = some record → ∀ n < outbox.position record.event,
    ∃ path' record', s.store.records path' = some record' ∧
      outbox.stream record'.event = outbox.stream record.event ∧ outbox.position record'.event = n

def Reachable (outbox : Outbox Event Stream) (s : Publishing Event Stream) : Prop :=
  ∃ s₀, Initial outbox s₀ ∧ Run outbox s₀ s

variable {outbox : Outbox Event Stream} {s s' : Publishing Event Stream}

omit [DecidableEq Stream] in
private theorem place_eq_some {store : OutboxStore Event Stream} {path : Identifier × Identifier} {stream : Stream} {n : Nat} :
    (deliveryOf outbox store).place path = some (stream, n) ↔ ∃ record, store.records path = some record ∧
      outbox.stream record.event = stream ∧ outbox.position record.event = n := by
  simp only [deliveryOf, Option.map_eq_some_iff, Prod.mk.injEq]

variable (outbox) in
omit [DecidableEq Stream] in
private theorem reached_eq (store : OutboxStore Event Stream) (stream : Stream) :
    store.reached stream = ((deliveryOf outbox store).count stream : Int) - 1 := by
  have h : -1 ≤ store.reached stream := by
    unfold OutboxStore.reached
    split <;> omega
  simp only [deliveryOf]
  omega

/-- What holds in every state: the first events of each stream are the settled ones, no event has two outcomes, and
a claim names an event of the outbox. -/
structure Kept (outbox : Outbox Event Stream) (s : Publishing Event Stream) : Prop where
  ordered : (deliveryOf outbox s.store).Ordered
  outcome : ∀ path record, s.store.records path = some record →
    ¬ (record.deliveredAt ≠ none ∧ record.deadLetteredAt ≠ none)
  held : ∀ owner claim, (owner, claim) ∈ s.claims →
    ∃ record, s.store.records claim.path = some record ∧ record.event = claim.outbox.event

omit [DecidableEq Stream] in
private theorem initial_kept (h : Initial outbox s) : Kept outbox s := by
  have hcount : ∀ stream, (deliveryOf outbox s.store).count stream = 0 := by
    intro stream
    simp only [deliveryOf, OutboxStore.reached, h.cursors, Collection.empty]
    rfl
  refine ⟨⟨?_, ?_, ?_, ?_⟩, ?_, ?_⟩
  · intro i j stream n hi hj
    obtain ⟨record, hr, rfl, rfl⟩ := place_eq_some.mp hi
    obtain ⟨record', hr', hs, hp⟩ := place_eq_some.mp hj
    exact h.unique i j record record' hr hr' hs.symm hp.symm
  · intro i stream n hi m hm
    obtain ⟨record, hr, rfl, rfl⟩ := place_eq_some.mp hi
    obtain ⟨path, record', hr', hs, hp⟩ := h.full i record hr m hm
    exact ⟨path, place_eq_some.mpr ⟨record', hr', hs, hp⟩⟩
  · intro stream m hm
    rw [hcount] at hm
    exact absurd hm (Nat.not_lt_zero m)
  · intro i stream n hi
    refine iff_of_false ?_ (by rw [hcount]; exact Nat.not_lt_zero n)
    rintro ⟨record, hr, hset⟩
    rw [h.fresh i record hr] at hset
    exact OutboxFields.not_settled_fresh _ _ hset
  · rintro path record hr ⟨hdel, _⟩
    rw [h.fresh path record hr] at hdel
    exact hdel rfl
  · intro owner claim hc
    rw [h.claims] at hc
    cases hc

section
variable {store store' : OutboxStore Event Stream} {path : Identifier × Identifier} {old new : OutboxFields Event}

omit [DecidableEq Stream] in
private theorem place_rewritten (found : store.records path = some old)
    (records : store'.records = store.records.set path new) (event : new.event = old.event) :
    (deliveryOf outbox store').place = (deliveryOf outbox store).place := by
  funext i
  simp only [deliveryOf, records]
  by_cases hi : i = path
  · subst hi
    rw [Collection.set_same, found, Option.map_some, Option.map_some, event]
  · rw [Collection.set_of_ne hi]

omit [DecidableEq Stream] in
private theorem settled_rewritten (records : store'.records = store.records.set path new) (i : Identifier × Identifier) :
    (deliveryOf outbox store').settled i ↔ (i = path ∧ new.Settled) ∨ (i ≠ path ∧ (deliveryOf outbox store).settled i) := by
  simp only [deliveryOf, records]
  constructor
  · rintro ⟨record, hr, hset⟩
    rcases Collection.set_eq_some.mp hr with ⟨rfl, rfl⟩ | ⟨hi, hr⟩
    · exact .inl ⟨rfl, hset⟩
    · exact .inr ⟨hi, record, hr, hset⟩
  · rintro (⟨rfl, hset⟩ | ⟨hi, record, hr, hset⟩)
    · exact ⟨new, Collection.set_same .., hset⟩
    · exact ⟨record, by rw [Collection.set_of_ne hi, hr], hset⟩

omit [DecidableEq Stream] in
private theorem count_kept (cursors : store'.cursors = store.cursors) :
    (deliveryOf outbox store').count = (deliveryOf outbox store).count := by
  funext stream
  simp only [deliveryOf, OutboxStore.reached, cursors]

private theorem count_advanced {stream : Stream} {cursor : DeliveryCursor}
    (cursors : store'.cursors = store.cursors.set stream cursor) :
    (deliveryOf outbox store').count =
      Function.update (deliveryOf outbox store).count stream (cursor.position + 1) := by
  funext k
  simp only [deliveryOf, OutboxStore.reached, cursors]
  by_cases hk : k = stream
  · subst hk
    rw [Collection.set_same, Function.update_self]
    exact Int.toNat_natCast _
  · rw [Collection.set_of_ne hk, Function.update_of_ne hk]

omit [DecidableEq Stream] in
private theorem rewritten_stay [DecidableEq Stream] (records : store'.records = store.records.set path new)
    (found : store.records path = some old) (event : new.event = old.event) (hold : ¬ old.Settled)
    (hnew : ¬ new.Settled) (cursors : store'.cursors = store.cursors) :
    Delivery.Step (deliveryOf outbox store) (deliveryOf outbox store') := by
  refine .stay (place_rewritten found records event) (fun i => ?_) (count_kept cursors)
  rw [settled_rewritten records]
  constructor
  · rintro (⟨_, h⟩ | ⟨_, h⟩)
    · exact absurd h hnew
    · exact h
  · intro h
    refine .inr ⟨?_, h⟩
    rintro rfl
    obtain ⟨record, hr, hset⟩ := h
    rw [found] at hr
    cases hr
    exact hold hset

end

/-- Every step of the publishers is a step of ordered delivery. -/
theorem Step.delivery (h : Step outbox s s') (hk : Kept outbox s) :
    Delivery.Step (deliveryOf outbox s.store) (deliveryOf outbox s'.store) := by
  cases h with
  | join event availableAt free last full =>
    refine .add (outbox.path event) (outbox.stream event) (outbox.position event) ?_ ?_ ?_ ?_ ?_ ?_ rfl
    · simp only [deliveryOf, free, Option.map_none]
    · rintro ⟨record, hr, _⟩
      rw [free] at hr
      cases hr
    · intro j hj
      obtain ⟨record, hr, hs, hp⟩ := place_eq_some.mp hj
      exact last j record hr hs hp
    · intro m hm
      obtain ⟨path, record, hr, hs, hp⟩ := full m hm
      exact ⟨path, place_eq_some.mpr ⟨record, hr, hs, hp⟩⟩
    · funext i
      simp only [deliveryOf]
      by_cases hi : i = outbox.path event
      · subst hi
        rw [Collection.set_same, Function.update_self]
        rfl
      · rw [Collection.set_of_ne hi, Function.update_of_ne hi]
    · intro i
      rw [settled_rewritten rfl]
      constructor
      · rintro (⟨_, hset⟩ | ⟨_, hset⟩)
        · exact absurd hset (OutboxFields.not_settled_fresh _ _)
        · exact hset
      · rintro ⟨record, hr, hset⟩
        refine .inr ⟨?_, record, hr, hset⟩
        rintro rfl
        rw [free] at hr
        cases hr
  | @claim path owner now lease claim store leased =>
    obtain ⟨record, found, readable, _⟩ := Outboxes.document_read leased
    rcases Outboxes.claimOne_eq found readable with ⟨hc, heq⟩ | ⟨_, heq⟩
    · rw [heq] at leased
      cases leased
      exact rewritten_stay rfl found rfl hc.unsettled hc.unsettled rfl
    · rw [heq] at leased
      cases leased
  | @mark claimant owner claim m store held marked =>
    obtain ⟨record, found, hcase⟩ := Outboxes.mark_ok marked
    obtain ⟨record', found', hevent⟩ := hk.held claimant claim held
    obtain rfl : record = record' := Option.some.inj (found.symm.trans found')
    rcases hcase with ⟨_, rfl⟩ | ⟨hopen, _, records, hm⟩
    · exact .stay rfl (fun _ => Iff.rfl) rfl
    · have hset : (m.record record.stripped).Settled ↔ m.Settles := m.record_settled hopen
      rcases hm with ⟨hm, cursors⟩ | ⟨hm, hnext, cursor, hpos, cursors⟩
      · exact rewritten_stay records found (m.record_event _) hopen (fun h => hm (hset.mp h)) cursors
      · rw [← hevent] at hnext cursors
        have hcount : (deliveryOf outbox s.store).count (outbox.stream record.event) = outbox.position record.event := by
          rw [reached_eq outbox] at hnext
          omega
        refine .settle claim.path (outbox.stream record.event) ?_ (place_rewritten found records (m.record_event _))
          (fun i => ?_) ?_
        · rw [hcount]
          exact place_eq_some.mpr ⟨record, found, rfl, rfl⟩
        · have hnew := hset.mpr hm
          rw [settled_rewritten records]
          tauto
        · rw [count_advanced cursors, hcount, hpos]

/-- The event of a record never changes. -/
theorem Step.keeps_event (h : Step outbox s s') {path : Identifier × Identifier} {record : OutboxFields Event}
    (found : s.store.records path = some record) :
    ∃ record', s'.store.records path = some record' ∧ record'.event = record.event := by
  have rewritten {p : Identifier × Identifier} {old new : OutboxFields Event} (hold : s.store.records p = some old)
      (event : new.event = old.event) : ∃ record', s.store.records.set p new path = some record' ∧
        record'.event = record.event := by
    by_cases hp : path = p
    · subst hp
      rw [found] at hold
      cases hold
      exact ⟨new, Collection.set_same .., event⟩
    · exact ⟨record, by rw [Collection.set_of_ne hp, found], rfl⟩
  cases h with
  | join event availableAt free last full =>
    have hp : path ≠ outbox.path event := by
      rintro rfl
      rw [free] at found
      cases found
    exact ⟨record, (Collection.set_of_ne hp).trans found, rfl⟩
  | claim leased =>
    obtain ⟨old, hold, readable, _⟩ := Outboxes.document_read leased
    rcases Outboxes.claimOne_eq hold readable with ⟨_, heq⟩ | ⟨_, heq⟩
    · rw [heq] at leased
      cases leased
      exact rewritten hold rfl
    · rw [heq] at leased
      cases leased
  | @mark _ _ _ m _ _ marked =>
    obtain ⟨old, hold, hcase⟩ := Outboxes.mark_ok marked
    rcases hcase with ⟨_, rfl⟩ | ⟨_, _, records, _⟩
    · exact ⟨record, found, rfl⟩
    · simp only [records]
      exact rewritten hold (m.record_event _)

/-- A step of the publishers keeps the outbox in order. -/
theorem Kept.step (hk : Kept outbox s) (h : Step outbox s s') : Kept outbox s' := by
  have kept {owner : Identifier} {claim : OutboxClaim Event} (hc : (owner, claim) ∈ s.claims) :
      ∃ record, s'.store.records claim.path = some record ∧ record.event = claim.outbox.event := by
    obtain ⟨record, hr, he⟩ := hk.held owner claim hc
    obtain ⟨record', hr', he'⟩ := h.keeps_event hr
    exact ⟨record', hr', he'.trans he⟩
  refine ⟨hk.ordered.step (h.delivery hk), ?_, ?_⟩
  · intro path record hr
    cases h with
    | join event availableAt =>
      rcases Collection.set_eq_some.mp hr with ⟨rfl, rfl⟩ | ⟨_, hr⟩
      · exact fun h => h.1 rfl
      · exact hk.outcome path record hr
    | claim leased =>
      obtain ⟨old, hold, readable, _⟩ := Outboxes.document_read leased
      rcases Outboxes.claimOne_eq hold readable with ⟨_, heq⟩ | ⟨_, heq⟩
      · rw [heq] at leased
        cases leased
        rcases Collection.set_eq_some.mp hr with ⟨rfl, rfl⟩ | ⟨_, hr⟩
        · exact hk.outcome _ old hold
        · exact hk.outcome path record hr
      · rw [heq] at leased
        cases leased
    | @mark _ _ _ m _ _ marked =>
      obtain ⟨old, hold, hcase⟩ := Outboxes.mark_ok marked
      rcases hcase with ⟨_, rfl⟩ | ⟨hopen, _, records, _⟩
      · exact hk.outcome path record hr
      · simp only [records] at hr
        rcases Collection.set_eq_some.mp hr with ⟨rfl, rfl⟩ | ⟨_, hr⟩
        · exact m.record_outcome hopen
        · exact hk.outcome path record hr
  · intro owner claim hc
    cases h with
    | join => exact kept hc
    | claim leased =>
      rcases List.mem_cons.mp hc with heq | hc
      · obtain ⟨rfl, rfl⟩ := Prod.mk.inj heq
        obtain ⟨old, hold, readable, _⟩ := Outboxes.document_read leased
        rcases Outboxes.claimOne_eq hold readable with ⟨_, heq⟩ | ⟨_, heq⟩
        · rw [heq] at leased
          cases leased
          exact ⟨_, Collection.set_same .., rfl⟩
        · rw [heq] at leased
          cases leased
      · exact kept hc
    | mark => exact kept hc

/-- A run of the publishers keeps the outbox in order. -/
theorem Kept.run (hk : Kept outbox s) (h : Run outbox s s') : Kept outbox s' := by
  induction h with
  | refl => exact hk
  | tail _ hs ih => exact ih.step hs

/-- Every reachable outbox is in order. -/
theorem reachable_kept (h : Reachable outbox s) : Kept outbox s := by
  obtain ⟨s₀, h₀, hrun⟩ := h
  exact (initial_kept h₀).run hrun

def Idle (store : OutboxStore Event Stream) (owner : Identifier) (path : Identifier × Identifier) : Prop :=
  ∃ record, store.records path = some record ∧ (record.Settled ∨ record.leaseOwner ≠ some owner)

/-- Between two states a publisher has claimed an event. -/
def Reclaimed (s s' : Publishing Event Stream) (owner : Identifier) (path : Identifier × Identifier) : Prop :=
  ∃ new, s'.claims = new ++ s.claims ∧ ∃ claim, (owner, claim) ∈ new ∧ claim.path = path

/-- A step adds one claim at most. -/
theorem Step.claims (h : Step outbox s s') : ∃ new, s'.claims = new ++ s.claims := by
  cases h with
  | join => exact ⟨[], rfl⟩
  | claim => exact ⟨[_], rfl⟩
  | mark => exact ⟨[], rfl⟩

private theorem run_claims (h : Run outbox s s') : ∃ new, s'.claims = new ++ s.claims := by
  induction h with
  | refl => exact ⟨[], rfl⟩
  | tail _ hs ih =>
    obtain ⟨new, hn⟩ := ih
    obtain ⟨last, hl⟩ := hs.claims
    exact ⟨last ++ new, by rw [hl, hn, List.append_assoc]⟩

/-- Only a claim of its own gives a publisher a lease. -/
theorem Idle.step {owner : Identifier} {path : Identifier × Identifier} (hi : Idle s.store owner path)
    (h : Step outbox s s') (quiet : ¬ Reclaimed s s' owner path) : Idle s'.store owner path := by
  obtain ⟨record, found, hidle⟩ := hi
  cases h with
  | join event availableAt free =>
    have hp : path ≠ outbox.path event := by
      rintro rfl
      rw [free] at found
      cases found
    exact ⟨record, (Collection.set_of_ne hp).trans found, hidle⟩
  | @claim p publisher now lease claim store leased =>
    obtain ⟨old, hold, readable, _⟩ := Outboxes.document_read leased
    rcases Outboxes.claimOne_eq hold readable with ⟨_, heq⟩ | ⟨_, heq⟩
    · rw [heq] at leased
      cases leased
      by_cases hp : path = p
      · subst hp
        refine ⟨_, Collection.set_same .., .inr fun ho => ?_⟩
        obtain rfl : publisher = owner := Option.some.inj ho
        exact quiet ⟨[_], rfl, _, List.mem_singleton.mpr rfl, rfl⟩
      · exact ⟨record, (Collection.set_of_ne hp).trans found, hidle⟩
    · rw [heq] at leased
      cases leased
  | @mark _ _ claim m _ _ marked =>
    obtain ⟨old, hold, hcase⟩ := Outboxes.mark_ok marked
    rcases hcase with ⟨_, rfl⟩ | ⟨_, _, records, _⟩
    · exact ⟨record, found, hidle⟩
    · by_cases hp : path = claim.path
      · subst hp
        refine ⟨m.record old.stripped, by rw [records, Collection.set_same], .inr ?_⟩
        rw [Outboxes.Mark.record_leaseOwner]
        nofun
      · exact ⟨record, by rw [records, Collection.set_of_ne hp, found], hidle⟩

/-- A publisher that holds no claim on a record gets none in a run that does not reclaim it. -/
theorem Idle.run {owner : Identifier} {path : Identifier × Identifier} (hi : Idle s.store owner path)
    (h : Run outbox s s') (quiet : ¬ Reclaimed s s' owner path) : Idle s'.store owner path := by
  induction h with
  | refl => exact hi
  | @tail t u hrun hs ih =>
    obtain ⟨new, hn⟩ := run_claims hrun
    obtain ⟨last, hl⟩ := hs.claims
    refine Idle.step (ih ?_) hs ?_
    · rintro ⟨new', hn', claim, hc, hp⟩
      refine quiet ⟨last ++ new, by rw [hl, hn, List.append_assoc], claim, ?_, hp⟩
      rw [hn] at hn'
      rw [List.append_cancel_right hn']
      exact List.mem_append_right _ hc
    · rintro ⟨last', hl', claim, hc, hp⟩
      refine quiet ⟨last ++ new, by rw [hl, hn, List.append_assoc], claim, ?_, hp⟩
      rw [hl] at hl'
      rw [List.append_cancel_right hl']
      exact List.mem_append_left _ hc

/-- After a mark its publisher has no lease on the event. -/
theorem idle_marked {store store' : OutboxStore Event Stream} {claim : OutboxClaim Event} {owner : Identifier}
    {m : Outboxes.Mark} (h : Outboxes.mark outbox store claim owner m = .ok store') : Idle store' owner claim.path := by
  obtain ⟨record, found, hcase⟩ := Outboxes.mark_ok h
  rcases hcase with ⟨hset, rfl⟩ | ⟨_, _, records, _⟩
  · exact ⟨record, found, .inl hset⟩
  · refine ⟨m.record record.stripped, by rw [records, Collection.set_same], .inr ?_⟩
    rw [Outboxes.Mark.record_leaseOwner]
    nofun

/-- A mark that settles leaves the event settled. -/
theorem settled_marked {store store' : OutboxStore Event Stream} {claim : OutboxClaim Event} {owner : Identifier}
    {m : Outboxes.Mark} (h : Outboxes.mark outbox store claim owner m = .ok store') (hm : m.Settles) :
    (deliveryOf outbox store').settled claim.path := by
  obtain ⟨record, found, hcase⟩ := Outboxes.mark_ok h
  rcases hcase with ⟨hset, rfl⟩ | ⟨hopen, _, records, _⟩
  · exact ⟨record, found, hset⟩
  · have hset : (m.record record.stripped).Settled ↔ m.Settles := m.record_settled hopen
    exact ⟨m.record record.stripped, by rw [records, Collection.set_same], hset.mpr hm⟩

/-- A settled record stays settled. -/
theorem run_settled (hk : Kept outbox s) (h : Run outbox s s') {path : Identifier × Identifier}
    (hset : (deliveryOf outbox s.store).settled path) : (deliveryOf outbox s'.store).settled path := by
  induction h with
  | refl => exact hset
  | tail hrun hs ih => exact (hs.delivery (hk.run hrun)).settled ih

/-- The guarantees of an outbox in one state of its publishers. -/
structure OrderedDelivery (outbox : Outbox Event Stream) (s : Publishing Event Stream) : Prop where
  /-- The settled events are those up to the cursor of their stream. -/
  settled : ∀ path record, s.store.records path = some record →
    (record.Settled ↔ (outbox.position record.event : Int) ≤ s.store.reached (outbox.stream record.event))
  /-- Up to the cursor there is an event at every place. -/
  passed : ∀ stream (n : Nat), (n : Int) ≤ s.store.reached stream → ∃ path record,
    s.store.records path = some record ∧ outbox.stream record.event = stream ∧ outbox.position record.event = n
  outcome : ∀ path record, s.store.records path = some record →
    ¬ (record.deliveredAt ≠ none ∧ record.deadLetteredAt ≠ none)
  /-- Whoever claims an event finds all earlier ones of its stream settled. -/
  claimable : ∀ path owner now lease claim store,
    Outboxes.claimOne outbox s.store path owner now lease = .ok (some claim, store) →
    ∀ n < outbox.position claim.outbox.event, ∃ path record, s.store.records path = some record ∧
      outbox.stream record.event = outbox.stream claim.outbox.event ∧ outbox.position record.event = n ∧ record.Settled
  forward : ∀ s', Step outbox s s' → ∀ stream,
    s'.store.reached stream = s.store.reached stream ∨ s'.store.reached stream = s.store.reached stream + 1
  /-- A mark that was applied changes nothing when its publisher repeats it, at any later time if it settled the event,
  and until the publisher claims the event again if it gave the event back. -/
  repeated : ∀ claimant owner claim m store, (claimant, claim) ∈ s.claims →
    Outboxes.mark outbox s.store claim owner m = .ok store →
    ∀ s', Run outbox { s with store } s' → m.Settles ∨ ¬ Reclaimed s s' owner claim.path →
      Outboxes.marked outbox s'.store claim owner m = s'.store

/-- An outbox in order is delivered in order. -/
theorem Kept.delivery (hk : Kept outbox s) : OrderedDelivery outbox s where
  settled path record found := by
    have h := hk.ordered.settled path _ _ (place_eq_some.mpr ⟨record, found, rfl, rfl⟩)
    rw [reached_eq outbox]
    constructor
    · intro hset
      have := h.mp ⟨record, found, hset⟩
      omega
    · intro hle
      obtain ⟨record', found', hset⟩ := h.mpr (by omega)
      rw [found] at found'
      cases found'
      exact hset
  passed stream n hn := by
    rw [reached_eq outbox] at hn
    obtain ⟨path, hp⟩ := hk.ordered.counted stream n (by omega)
    exact ⟨path, place_eq_some.mp hp⟩
  outcome := hk.outcome
  claimable path owner now lease claim store leased n hn := by
    obtain ⟨record, found, readable, _⟩ := Outboxes.document_read leased
    rcases Outboxes.claimOne_eq found readable with ⟨hc, heq⟩ | ⟨_, heq⟩
    · rw [heq] at leased
      cases leased
      have hnext : s.store.reached (outbox.stream record.event) = (outbox.position record.event : Int) - 1 := hc.next
      rw [reached_eq outbox] at hnext
      obtain ⟨j, hj, record', found', hset⟩ := hk.ordered.earlier (place_eq_some.mpr ⟨record, found, rfl, rfl⟩)
        (by omega) hn
      obtain ⟨record'', found'', hs, hp⟩ := place_eq_some.mp hj
      rw [found'] at found''
      cases found''
      exact ⟨j, record', found', hs, hp, hset⟩
    · rw [heq] at leased
      cases leased
  forward s' h stream := by
    rw [reached_eq outbox, reached_eq outbox]
    rcases (h.delivery hk).count stream with h | h <;> omega
  repeated claimant owner claim m store held marked s' hrun hquiet := by
    have hk' : Kept outbox { s with store } := hk.step (.mark held marked)
    rcases hquiet with hm | hquiet
    · obtain ⟨record, found, hset⟩ := run_settled hk' hrun (settled_marked marked hm)
      exact Outboxes.marked_idle found (.inl hset)
    · obtain ⟨record, found, hidle⟩ := Idle.run (s := { s with store }) (idle_marked marked) hrun hquiet
      exact Outboxes.marked_idle found hidle

end Uumi.Events
