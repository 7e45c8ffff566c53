import Mathlib
import Uumi.Audit.Outbox
import Uumi.Events.RunEvents
import Uumi.Storage.OutboxClaims

/-! Progress of the publishers. A batch of claims can miss every claimable event: what a query lists may be settled,
leased or blocked, and the query lists only so much. -/
namespace Uumi.Storage
open Uumi.Contracts Uumi.Core Uumi.Audit Uumi.Events

def FirestoreOutboxRepository.claim (content : OutboxContent runOutbox) (ownerId : Identifier) (now : AwareDatetime)
    (leaseDuration : Int) (limit : Nat) :
    Except Error (List (OutboxClaim RunEvent) × OutboxStore RunEvent (Identifier × Identifier)) :=
  Outboxes.claimBatch (fun _ claim => claim.outbox.event.runId) content ownerId now leaseDuration limit

def FirestoreAuditOutboxRepository.claim (content : OutboxContent auditOutbox) (ownerId : Identifier)
    (now : AwareDatetime) (leaseDuration : Int) (limit : Nat) :
    Except Error (List (OutboxClaim AuditEvent) × OutboxStore AuditEvent Identifier) :=
  Outboxes.claimBatch (fun candidate _ => candidate.event.organisationId) content ownerId now leaseDuration limit

end Uumi.Storage

namespace Uumi.Events
open Uumi.Contracts Uumi.Core Uumi.Foundations Uumi.Audit Uumi.Storage

section
variable {Event Stream : Type} {outbox : Outbox Event Stream}

/-- Some event can be claimed. -/
def HasClaimable (content : OutboxContent outbox) (now : AwareDatetime) : Prop :=
  ∃ path record, content.store.records path = some record ∧ Outboxes.Claimable outbox content.store now record

/-- If an event can be claimed, then some event is. -/
def Progresses (content : OutboxContent outbox) (now : AwareDatetime)
    (result : Except Error (List (OutboxClaim Event) × OutboxStore Event Stream)) : Prop :=
  HasClaimable content now → ∃ claims store, result = .ok (claims, store) ∧ claims ≠ []

/-- If an event can be claimed, then few enough due events come before one of these, claimable or not. -/
def Uncrowded (content : OutboxContent outbox) (now : AwareDatetime) (limit : Nat) : Prop :=
  HasClaimable content now → ∃ path record, content.store.records path = some record ∧
    Outboxes.Claimable outbox content.store now record ∧
    Outboxes.before content now (path, record) < Outboxes.window limit

private theorem progresses_iff (groupOf : OutboxFields Event → OutboxClaim Event → Identifier)
    (content : OutboxContent outbox) (owner : Identifier) (now : AwareDatetime) (lease : Int) (limit : Nat)
    (hlimit : 1 ≤ limit) :
    Progresses content now (Outboxes.claimBatch groupOf content owner now lease limit) ↔ Uncrowded content now limit :=
  imp_congr_right fun _ => Outboxes.claimBatch_nonempty content hlimit

end

/-- Both outboxes make progress exactly when their claimable events are not crowded out of the query. -/
theorem claims_progress_iff (content : OutboxContent runOutbox) (auditContent : OutboxContent auditOutbox)
    (owner : Identifier) (now : AwareDatetime) (lease : Int) (limit : Nat) (hlimit : 1 ≤ limit) :
    (Progresses content now (FirestoreOutboxRepository.claim content owner now lease limit) ↔
      Uncrowded content now limit) ∧
    (Progresses auditContent now (FirestoreAuditOutboxRepository.claim auditContent owner now lease limit) ↔
      Uncrowded auditContent now limit) :=
  ⟨progresses_iff _ content owner now lease limit hlimit, progresses_iff _ auditContent owner now lease limit hlimit⟩

section
variable {Event Stream : Type} {outbox : Outbox Event Stream}

/-- An outbox with these documents. -/
def contentOf (rows : List ((Identifier × Identifier) × OutboxFields Event)) (cursors : Collection Stream DeliveryCursor)
    (nodup : (rows.map Prod.fst).Nodup)
    (valid : ∀ row ∈ rows, outbox.validate row.2 = .ok () ∧ row.2.stripped = row.2) : OutboxContent outbox where
  store := { records := fun path => rows.lookup path, cursors }
  paths := rows.map Prod.fst
  nodup := nodup
  listed path := by
    rw [List.mem_map]
    constructor
    · rintro ⟨row, hrow, rfl⟩
      exact Option.isSome_iff_exists.mp (List.lookup_isSome_iff.mpr ⟨row, hrow, beq_self_eq_true _⟩)
    · rintro ⟨record, h⟩
      obtain ⟨before, after, rfl, -⟩ := List.lookup_eq_some_iff.mp h
      exact ⟨(path, record), by simp, rfl⟩
  valid path record h := by
    obtain ⟨before, after, rfl, -⟩ := List.lookup_eq_some_iff.mp h
    exact valid (path, record) (by simp)

private theorem mem_of_lookup {rows : List ((Identifier × Identifier) × OutboxFields Event)}
    {path : Identifier × Identifier} {record : OutboxFields Event} (h : rows.lookup path = some record) :
    (path, record) ∈ rows := by
  obtain ⟨before, after, rfl, -⟩ := List.lookup_eq_some_iff.mp h
  exact List.mem_append_right _ List.mem_cons_self

end

def alone {Event Stream : Type} (outbox : Outbox Event Stream) (event : Event) : OutboxContent outbox :=
  contentOf [(outbox.path event, .fresh event ⟨0, 0⟩)] Collection.empty (List.nodup_singleton _)
    (by
      intro row hrow
      rw [List.mem_singleton.mp hrow]
      exact ⟨outbox.validate_fresh _ _, rfl⟩)

private theorem alone_found {Event Stream : Type} (outbox : Outbox Event Stream) (event : Event) :
    (alone outbox event).store.records (outbox.path event) = some (.fresh event ⟨0, 0⟩) := by
  simp [alone, contentOf]

private theorem alone_claimable {Event Stream : Type} {outbox : Outbox Event Stream} {event : Event}
    (hfirst : outbox.position event = 0) :
    Outboxes.Claimable outbox (alone outbox event).store ⟨20, 0⟩ (.fresh event ⟨0, 0⟩) where
  unsettled := OutboxFields.not_settled_fresh _ _
  available := Int.natCast_nonneg 20
  unleased := nofun
  next := by
    rw [Outboxes.Next, OutboxFields.fresh, hfirst]
    rfl

private theorem alone_uncrowded {Event Stream : Type} {outbox : Outbox Event Stream} {event : Event}
    (hfirst : outbox.position event = 0) : Uncrowded (alone outbox event) ⟨20, 0⟩ 1 := fun _ =>
  ⟨_, _, alone_found outbox event, alone_claimable hfirst,
    (Outboxes.before_le _ _ _).trans_lt (by decide : 1 < Outboxes.window 1)⟩

/-- Two first events that wait alone in their outboxes are claimed. -/
theorem claims_progress_alone :
    (∃ claims store, FirestoreOutboxRepository.claim (alone runOutbox sampleRecord.event) samplePublisher ⟨20, 0⟩ 60 1 =
      .ok (claims, store) ∧ claims ≠ []) ∧
    (∃ claims store, FirestoreAuditOutboxRepository.claim (alone auditOutbox .sample) samplePublisher ⟨20, 0⟩ 60 1 =
      .ok (claims, store) ∧ claims ≠ []) := by
  have h := claims_progress_iff (alone runOutbox sampleRecord.event) (alone auditOutbox .sample) samplePublisher ⟨20, 0⟩
    60 1 le_rfl
  refine ⟨h.1.mpr (alone_uncrowded rfl) ?_, h.2.mpr (alone_uncrowded rfl) ?_⟩
  · exact ⟨_, _, alone_found _ _, alone_claimable rfl⟩
  · exact ⟨_, _, alone_found _ _, alone_claimable rfl⟩

/-- An identifier of `n + 3` letters. -/
def letters (n : Nat) (h : n ≤ 125) : Identifier where
  text := String.ofList (List.replicate (n + 3) 'a')
  accepted := by
    rw [identifierAccepts, String.toList_ofList, String.length_ofList, List.length_replicate]
    simp only [List.replicate_succ]
    simpa [identifierAccepts.lower] using h

private theorem letters_injective {m n : Nat} {hm : m ≤ 125} {hn : n ≤ 125} (h : letters m hm = letters n hn) : m = n := by
  have hlen := congrArg (fun id => id.text.length) h
  simpa [letters] using hlen

def crowdEvent (id : Identifier) : RunEvent := { sampleRecord.event with id, runId := id }

def crowdPath (id : Identifier) : Identifier × Identifier := runOutbox.path (crowdEvent id)

def deadRow (id : Identifier) : (Identifier × Identifier) × OutboxFields RunEvent :=
  (crowdPath id, Outboxes.deadLetteredRecord { OutboxFields.fresh (crowdEvent id) ⟨0, 0⟩ with attempts := 10 }
    "RuntimeError" ⟨5, 0⟩)

def liveRow (id : Identifier) : (Identifier × Identifier) × OutboxFields RunEvent :=
  (crowdPath id, .fresh (crowdEvent id) ⟨1, 0⟩)

def liveId : Identifier := letters 64 (by decide)

def deadRows : List ((Identifier × Identifier) × OutboxFields RunEvent) :=
  (List.finRange 64).map fun k => deadRow (letters k.val (k.isLt.le.trans (by decide)))

def crowdRows : List ((Identifier × Identifier) × OutboxFields RunEvent) := deadRows ++ [liveRow liveId]

private theorem crowdPath_injective {a b : Identifier} (h : crowdPath a = crowdPath b) : a = b := (Prod.mk.inj h).2

private theorem crowdRows_nodup : (crowdRows.map Prod.fst).Nodup := by
  rw [crowdRows, deadRows, List.map_append, List.map_map, List.nodup_append]
  refine ⟨?_, List.nodup_singleton _, ?_⟩
  · refine List.Nodup.map ?_ (List.nodup_finRange 64)
    intro j k h
    exact Fin.ext (letters_injective (crowdPath_injective h))
  · intro path hpath other hother
    obtain ⟨k, -, rfl⟩ := List.mem_map.mp hpath
    rw [List.mem_singleton.mp hother]
    intro h
    exact absurd (letters_injective (crowdPath_injective h)) k.isLt.ne

private theorem crowdRows_valid : ∀ row ∈ crowdRows, runOutbox.validate row.2 = .ok () ∧ row.2.stripped = row.2 := by
  intro row hrow
  rcases List.mem_append.mp hrow with hdead | hlive
  · obtain ⟨k, -, rfl⟩ := List.mem_map.mp hdead
    exact ⟨rfl, rfl⟩
  · rw [List.mem_singleton.mp hlive]
    exact ⟨rfl, rfl⟩

def crowdCursors : Collection (Identifier × Identifier) DeliveryCursor := fun stream =>
  if ∃ row ∈ deadRows, runOutbox.stream row.2.event = stream then
    some { position := 0, eventId := stream.2, deadLetteredAt := some ⟨5, 0⟩, lastError := some "RuntimeError" }
  else none

def crowd : OutboxContent runOutbox := contentOf crowdRows crowdCursors crowdRows_nodup crowdRows_valid

private theorem crowd_found (row : (Identifier × Identifier) × OutboxFields RunEvent) (h : row ∈ crowdRows) :
    crowd.store.records row.1 = some row.2 := by
  obtain ⟨record, found⟩ := (crowd.listed row.1).mp (List.mem_map_of_mem h)
  have hsame : (row.1, record) = row :=
    List.inj_on_of_nodup_map crowdRows_nodup (mem_of_lookup found) h rfl
  rw [found, ← hsame]

private theorem crowd_before : 64 ≤ Outboxes.before crowd ⟨20, 0⟩ (liveRow liveId) := by
  rw [Outboxes.before, ahead, List.countP_eq_length_filter]
  have hsub : deadRows ⊆ (Outboxes.due crowd ⟨20, 0⟩).filter fun row =>
      Outboxes.queryKey row < Outboxes.queryKey (liveRow liveId) := by
    intro row hrow
    have hfound := crowd_found _ (List.mem_append_left _ hrow)
    obtain ⟨k, -, rfl⟩ := List.mem_map.mp hrow
    refine List.mem_filter.mpr ⟨Outboxes.mem_due.mpr ⟨hfound, rfl, Int.natCast_nonneg 20⟩, ?_⟩
    refine decide_eq_true (Prod.Lex.toLex_lt_toLex.mpr (.inl ?_))
    exact Int.zero_lt_one
  have hnodup : deadRows.Nodup := (List.nodup_append.mp crowdRows_nodup.of_map).1
  calc 64 = deadRows.length := by rw [deadRows, List.length_map, List.length_finRange]
    _ ≤ _ := (hnodup.subperm hsub).length_le

private theorem crowd_claimable {path : Identifier × Identifier} {record : OutboxFields RunEvent}
    (found : crowd.store.records path = some record) (claimable : Outboxes.Claimable runOutbox crowd.store ⟨20, 0⟩ record) :
    (path, record) = liveRow liveId := by
  rcases List.mem_append.mp (mem_of_lookup found) with hdead | hlive
  · obtain ⟨k, -, hk⟩ := List.mem_map.mp hdead
    rw [← (Prod.mk.inj hk).2] at claimable
    exact absurd (.inr nofun) claimable.unsettled
  · exact List.mem_singleton.mp hlive

private theorem crowd_cursors : crowd.store.cursors = crowdCursors := rfl

private theorem crowd_live : Outboxes.Claimable runOutbox crowd.store ⟨20, 0⟩ (liveRow liveId).2 where
  unsettled := OutboxFields.not_settled_fresh _ _
  available := by decide
  unleased := nofun
  next := by
    have hfree : ¬ ∃ row ∈ deadRows, runOutbox.stream row.2.event =
        runOutbox.stream (liveRow liveId).2.event := by
      rintro ⟨row, hrow, hstream⟩
      obtain ⟨k, -, rfl⟩ := List.mem_map.mp hrow
      exact absurd (letters_injective (crowdPath_injective hstream)) k.isLt.ne
    have hnone : crowd.store.cursors (runOutbox.stream (liveRow liveId).2.event) = none := by
      rw [crowd_cursors, crowdCursors, if_neg hfree]
    rw [Outboxes.Next, OutboxStore.reached, hnone]
    rfl

/-- Nothing is claimed although one event is claimable: the query returns dead-lettered events only. -/
theorem crowded_out : ¬ ∀ (content : OutboxContent runOutbox) (owner : Identifier) (now : AwareDatetime) (lease : Int)
    (limit : Nat), 1 ≤ limit →
    Progresses content now (FirestoreOutboxRepository.claim content owner now lease limit) := by
  intro h
  have hprogress := h crowd samplePublisher ⟨20, 0⟩ 60 1 le_rfl
  have hfound := crowd_found (liveRow liveId) (List.mem_append_right _ List.mem_cons_self)
  have hclaims := hprogress ⟨_, _, hfound, crowd_live⟩
  obtain ⟨path, record, found, claimable, hlt⟩ := (Outboxes.claimBatch_nonempty crowd le_rfl).mp hclaims
  rw [crowd_claimable found claimable] at hlt
  exact absurd crowd_before (Nat.not_le.mpr hlt)

end Uumi.Events
