import Mathlib
import Uumi.Contracts.Outbox
import Uumi.Foundations.Documents

/-! The transactions of the outbox repositories: a claim leases the next event of a stream, a mark settles it or
gives it back, and a cursor says how far each stream has got. -/
namespace Uumi.Storage
open Uumi.Contracts Uumi.Core Uumi.Foundations

/-- How far a stream has been delivered: the place of its last settled event, and what became of it. -/
structure DeliveryCursor where
  position : Nat
  eventId : Identifier
  receipt : Option String := none
  deliveredAt : Option AwareDatetime := none
  deadLetteredAt : Option AwareDatetime := none
  lastError : Option String := none
  deriving DecidableEq

structure OutboxStore (Event Stream : Type) where
  records : Collection (Identifier × Identifier) (OutboxFields Event)
  cursors : Collection Stream DeliveryCursor

/-- A record that a publisher has leased, as it was then. -/
structure OutboxClaim (Event : Type) where
  path : Identifier × Identifier
  outbox : OutboxFields Event
  deriving DecidableEq

namespace OutboxStore
variable {Event Stream : Type}

/-- `_published_revision` and `_logged_sequence`. -/
def reached (store : OutboxStore Event Stream) (stream : Stream) : Int :=
  match store.cursors stream with
  | none => -1
  | some cursor => cursor.position

end OutboxStore

namespace Outboxes
variable {Event Stream : Type} (outbox : Outbox Event Stream)

def document (store : OutboxStore Event Stream) (path : Identifier × Identifier) : Except Error (OutboxFields Event) :=
  required (store.records path) (outbox.noData path.2)

/-- The event of a record comes right after the last settled one of its stream. -/
def Next (store : OutboxStore Event Stream) (record : OutboxFields Event) : Prop :=
  store.reached (outbox.stream record.event) = (outbox.position record.event : Int) - 1

instance (store : OutboxStore Event Stream) (record : OutboxFields Event) : Decidable (Next outbox store record) :=
  inferInstanceAs (Decidable (_ = _))

variable {outbox} in
/-- What is computed from a record is computed from the stored one as it is read. -/
theorem document_read {store : OutboxStore Event Stream} {path : Identifier × Identifier} {α : Type}
    {f : OutboxFields Event → Except Error α} {a : α}
    (h : (do f (← outbox.read (← document outbox store path))) = .ok a) :
    ∃ record, store.records path = some record ∧ outbox.validate record.stripped = .ok () ∧
      f record.stripped = .ok a := by
  rw [document, required_bind_ok] at h
  obtain ⟨record, found, h⟩ := h
  rw [bind_ok] at h
  obtain ⟨read, hr, h⟩ := h
  obtain ⟨readable, rfl⟩ := outbox.read_ok.mp hr
  exact ⟨record, found, readable, h⟩

def claimed (record : OutboxFields Event) (owner : Identifier) (now : AwareDatetime) (lease : Int) :
    OutboxFields Event :=
  { record with
    attempts := record.attempts + 1
    leaseOwner := some owner
    leaseExpiresAt := some { now with instant := now.instant + lease } }

def claimOne (store : OutboxStore Event Stream) (path : Identifier × Identifier) (owner : Identifier)
    (now : AwareDatetime) (lease : Int) : Except Error (Option (OutboxClaim Event) × OutboxStore Event Stream) := do
  let current ← outbox.read (← document outbox store path)
  if current.deliveredAt ≠ none ∨ current.deadLetteredAt ≠ none ∨ now < current.availableAt then
    return (none, store)
  else if ∃ expires ∈ current.leaseExpiresAt, now < expires then
    return (none, store)
  else if ¬ Next outbox store current then
    return (none, store)
  else
    let leased := claimed current owner now lease
    return (some ⟨path, leased⟩, { store with records := store.records.set path leased })

/-- A record that a claim at this moment would lease. -/
structure Claimable (store : OutboxStore Event Stream) (now : AwareDatetime) (record : OutboxFields Event) : Prop where
  unsettled : ¬ record.Settled
  available : record.availableAt ≤ now
  unleased : ∀ expires ∈ record.leaseExpiresAt, expires ≤ now
  next : Next outbox store record

variable {outbox} in
/-- A claim leases the record exactly when it is claimable. -/
theorem claimOne_eq {store : OutboxStore Event Stream} {path : Identifier × Identifier} {owner : Identifier}
    {now : AwareDatetime} {lease : Int} {record : OutboxFields Event}
    (found : store.records path = some record) (readable : outbox.validate record.stripped = .ok ()) :
    (Claimable outbox store now record.stripped ∧ claimOne outbox store path owner now lease =
      .ok (some ⟨path, claimed record.stripped owner now lease⟩,
        { store with records := store.records.set path (claimed record.stripped owner now lease) })) ∨
    (¬ Claimable outbox store now record.stripped ∧ claimOne outbox store path owner now lease = .ok (none, store)) := by
  have hread : outbox.read record = .ok record.stripped := outbox.read_ok.mpr ⟨readable, rfl⟩
  simp only [claimOne, document, found, required, ok_bind, hread]
  split
  · rename_i h
    refine .inr ⟨fun hc => ?_, rfl⟩
    rcases h with h | h | h
    · exact hc.unsettled (.inl h)
    · exact hc.unsettled (.inr h)
    · exact absurd hc.available (AwareDatetime.not_le.mpr h)
  · rename_i hopen
    split
    · rename_i h
      obtain ⟨expires, he, hlt⟩ := h
      exact .inr ⟨fun hc => absurd (hc.unleased expires he) (AwareDatetime.not_le.mpr hlt), rfl⟩
    · rename_i hlease
      split
      · rename_i h
        exact .inr ⟨fun hc => h hc.next, rfl⟩
      · rename_i hnext
        refine .inl ⟨⟨?_, ?_, ?_, not_not.mp hnext⟩, rfl⟩
        · rintro (h | h)
          · exact hopen (.inl h)
          · exact hopen (.inr (.inl h))
        · exact AwareDatetime.not_lt.mp fun h => hopen (.inr (.inr h))
        · exact fun expires he => AwareDatetime.not_lt.mp fun h => hlease ⟨expires, he, h⟩

variable [DecidableEq Stream]

def owned (current : OutboxFields Event) (owner : Identifier) : Except Error Unit :=
  raiseIf (current.leaseOwner ≠ some owner) (outbox.notOwned current.event owner)

def deliveredRecord (record : OutboxFields Event) (receipt : String) (now : AwareDatetime) : OutboxFields Event :=
  { record with
    leaseOwner := none, leaseExpiresAt := none, deliveredAt := some now, receipt := some receipt, lastError := none }

def deadLetteredRecord (record : OutboxFields Event) (error : String) (now : AwareDatetime) : OutboxFields Event :=
  { record with
    leaseOwner := none, leaseExpiresAt := none, deadLetteredAt := some now, deadLetterReason := some error
    lastError := some error }

def failedRecord (record : OutboxFields Event) (error : String) (availableAt : AwareDatetime) : OutboxFields Event :=
  { record with availableAt, leaseOwner := none, leaseExpiresAt := none, lastError := some error }

/-- `mark_published` and `mark_logged`. The cursor is that of the claimed event. -/
def markDelivered (store : OutboxStore Event Stream) (claim : OutboxClaim Event)
    (owner : Identifier) (receipt : String) (now : AwareDatetime) : Except Error (OutboxStore Event Stream) := do
  let current ← outbox.read (← document outbox store claim.path)
  raiseIf (current.deadLetteredAt ≠ none) (outbox.deadLettered current.event)
  if current.deliveredAt ≠ none then
    raiseIf (current.receipt ≠ some receipt) (outbox.otherReceipt current.event)
    return store
  else
    owned outbox current owner
    raiseIf (store.reached (outbox.stream claim.outbox.event) ≠ (outbox.position current.event : Int) - 1)
      (outbox.notNext current.event)
    return {
      records := store.records.set claim.path (deliveredRecord current receipt now)
      cursors := store.cursors.set (outbox.stream claim.outbox.event) {
        position := outbox.position current.event
        eventId := (outbox.path current.event).2
        receipt := some receipt
        deliveredAt := some now } }

def markDeadLetter (store : OutboxStore Event Stream) (claim : OutboxClaim Event)
    (owner : Identifier) (error : String) (now : AwareDatetime) : Except Error (OutboxStore Event Stream) := do
  let current ← outbox.read (← document outbox store claim.path)
  if current.deadLetteredAt ≠ none then return store
  else
    raiseIf (current.deliveredAt ≠ none) (outbox.delivered current.event)
    owned outbox current owner
    raiseIf (store.reached (outbox.stream claim.outbox.event) ≠ (outbox.position current.event : Int) - 1)
      (outbox.notNext current.event)
    return {
      records := store.records.set claim.path (deadLetteredRecord current error now)
      cursors := store.cursors.set (outbox.stream claim.outbox.event) {
        position := outbox.position current.event
        eventId := (outbox.path current.event).2
        deadLetteredAt := some now
        lastError := some error } }

def markFailed (store : OutboxStore Event Stream) (claim : OutboxClaim Event) (owner : Identifier) (error : String)
    (availableAt : AwareDatetime) : Except Error (OutboxStore Event Stream) := do
  let current ← outbox.read (← document outbox store claim.path)
  if current.deliveredAt ≠ none ∨ current.deadLetteredAt ≠ none then return store
  else
    owned outbox current owner
    return { store with records := store.records.set claim.path (failedRecord current error availableAt) }

/-- What a publisher records about a claimed event. -/
inductive Mark where
  | delivered (receipt : String) (now : AwareDatetime)
  | deadLetter (error : String) (now : AwareDatetime)
  | failed (error : String) (availableAt : AwareDatetime)

namespace Mark

/-- A mark that leaves nothing to deliver. -/
def Settles : Mark → Prop
  | .failed .. => False
  | _ => True

def record (mark : Mark) (current : OutboxFields Event) : OutboxFields Event :=
  match mark with
  | .delivered receipt now => deliveredRecord current receipt now
  | .deadLetter error now => deadLetteredRecord current error now
  | .failed error availableAt => failedRecord current error availableAt

end Mark

def mark (store : OutboxStore Event Stream) (claim : OutboxClaim Event) (owner : Identifier) :
    Mark → Except Error (OutboxStore Event Stream)
  | .delivered receipt now => markDelivered outbox store claim owner receipt now
  | .deadLetter error now => markDeadLetter outbox store claim owner error now
  | .failed error availableAt => markFailed outbox store claim owner error availableAt

def marked (store : OutboxStore Event Stream) (claim : OutboxClaim Event) (owner : Identifier) (m : Mark) :
    OutboxStore Event Stream :=
  match mark outbox store claim owner m with
  | .ok store' => store'
  | .error _ => store

variable {outbox} {store store' : OutboxStore Event Stream} {claim : OutboxClaim Event} {owner : Identifier}
  {record : OutboxFields Event} {m : Mark}

/-- A mark that does not raise finds nothing left to deliver, or the record leased by its owner: it gives the record
back, or settles it as the next one of the claimed event's stream. -/
theorem mark_ok (h : mark outbox store claim owner m = .ok store') :
    ∃ record, store.records claim.path = some record ∧
      ((record.Settled ∧ store' = store) ∨
        (¬ record.Settled ∧ record.leaseOwner = some owner ∧
          store'.records = store.records.set claim.path (m.record record.stripped) ∧
          ((¬ m.Settles ∧ store'.cursors = store.cursors) ∨
            (m.Settles ∧ store.reached (outbox.stream claim.outbox.event) = (outbox.position record.event : Int) - 1 ∧
              ∃ cursor, cursor.position = outbox.position record.event ∧
                store'.cursors = store.cursors.set (outbox.stream claim.outbox.event) cursor)))) := by
  cases m with
  | delivered receipt now =>
    obtain ⟨record, found, -, h⟩ := document_read h
    refine ⟨record, found, ?_⟩
    rw [unit_bind_ok, raiseIf_ok] at h
    obtain ⟨hdead, h⟩ := h
    split at h
    · rename_i hdel
      rw [unit_bind_ok, pure_ok] at h
      exact .inl ⟨.inl hdel, h.2.symm⟩
    · rename_i hdel
      simp only [unit_bind_ok, owned, raiseIf_ok, not_not, pure_ok] at h
      obtain ⟨howner, hnext, rfl⟩ := h
      refine .inr ⟨?_, howner, rfl, .inr ⟨trivial, hnext, _, rfl, rfl⟩⟩
      rintro (hs | hs)
      · exact hdel hs
      · exact hdead hs
  | deadLetter error now =>
    obtain ⟨record, found, -, h⟩ := document_read h
    refine ⟨record, found, ?_⟩
    split at h
    · rename_i hdead
      rw [pure_ok] at h
      exact .inl ⟨.inr hdead, h.symm⟩
    · rename_i hdead
      simp only [unit_bind_ok, owned, raiseIf_ok, not_not, pure_ok] at h
      obtain ⟨hdel, howner, hnext, rfl⟩ := h
      refine .inr ⟨?_, howner, rfl, .inr ⟨trivial, hnext, _, rfl, rfl⟩⟩
      rintro (hs | hs)
      · exact hs hdel
      · exact hdead hs
  | failed error availableAt =>
    obtain ⟨record, found, -, h⟩ := document_read h
    refine ⟨record, found, ?_⟩
    split at h
    · rename_i hsettled
      rw [pure_ok] at h
      exact .inl ⟨hsettled, h.symm⟩
    · rename_i hsettled
      simp only [unit_bind_ok, owned, raiseIf_ok, not_not, pure_ok] at h
      obtain ⟨howner, rfl⟩ := h
      exact .inr ⟨hsettled, howner, rfl, .inl ⟨id, rfl⟩⟩

/-- A mark that goes through leaves its store. -/
theorem marked_of_ok (h : mark outbox store claim owner m = .ok store') : marked outbox store claim owner m = store' := by
  rw [marked, h]

/-- A mark changes nothing unless the record is open and leased by its owner. -/
theorem marked_idle (found : store.records claim.path = some record)
    (idle : record.Settled ∨ record.leaseOwner ≠ some owner) : marked outbox store claim owner m = store := by
  cases h : mark outbox store claim owner m with
  | error e => rw [marked, h]
  | ok store' =>
    obtain ⟨record', found', hcase⟩ := mark_ok h
    obtain rfl : record = record' := Option.some.inj (found.symm.trans found')
    rw [marked_of_ok h]
    rcases hcase with ⟨_, heq⟩ | ⟨hopen, howner, _⟩
    · exact heq
    · rcases idle with hs | ho
      · exact absurd hs hopen
      · exact absurd howner ho

/-- The written record is settled exactly when the mark settles, and it is leased by nobody. -/
theorem Mark.record_settled (m : Mark) {current : OutboxFields Event} (hopen : ¬ current.Settled) :
    (m.record current).Settled ↔ m.Settles := by
  cases m with
  | delivered => exact iff_of_true (.inl nofun) trivial
  | deadLetter => exact iff_of_true (.inr nofun) trivial
  | failed => exact iff_of_false hopen id

@[simp] theorem Mark.record_event (m : Mark) (current : OutboxFields Event) : (m.record current).event = current.event := by
  cases m <;> rfl

@[simp] theorem Mark.record_leaseOwner (m : Mark) (current : OutboxFields Event) : (m.record current).leaseOwner = none := by
  cases m <;> rfl

/-- An open record gets one outcome at most. -/
theorem Mark.record_outcome (m : Mark) {current : OutboxFields Event} (hopen : ¬ current.Settled) :
    ¬ ((m.record current).deliveredAt ≠ none ∧ (m.record current).deadLetteredAt ≠ none) := by
  rintro ⟨hdel, hdead⟩
  cases m with
  | delivered => exact hopen (.inr hdead)
  | deadLetter => exact hopen (.inl hdel)
  | failed => exact hopen (.inl hdel)

end Outboxes
end Uumi.Storage
