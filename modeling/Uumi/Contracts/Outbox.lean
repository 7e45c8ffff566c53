import Uumi.Contracts.Event
import Uumi.Contracts.Plan

/-! Outbox records: an event, the lease on its delivery and what became of it. Run events and audit events have
an outbox each; the two differ in their events, their limits and their words. -/
namespace Uumi.Contracts
open Uumi.Core Uumi.Foundations

/-- The fields of an outbox record before its validator has run. A delivery writes them unchecked. Delivered are the
published run events and the logged audit events; the receipt is a message id or the receipt of the log. -/
structure OutboxFields (Event : Type) where
  event : Event
  availableAt : AwareDatetime
  attempts : Nat := 0
  leaseOwner : Option Identifier := none
  leaseExpiresAt : Option AwareDatetime := none
  deliveredAt : Option AwareDatetime := none
  receipt : Option String := none
  deadLetteredAt : Option AwareDatetime := none
  deadLetterReason : Option String := none
  lastError : Option String := none
  deriving DecidableEq

/-- What sets one outbox apart from the other. -/
structure Outbox (Event Stream : Type) where
  /-- The document of an event: organisation and event id. -/
  path : Event → Identifier × Identifier
  /-- The events that are delivered in order, one after the other. -/
  stream : Event → Stream
  /-- The id that a batch of claims holds once at most. -/
  group : Event → Identifier
  /-- The place of an event in its stream. -/
  position : Event → Nat
  receiptLength : Nat
  noData : Identifier → Error
  deadLettered : Event → Error
  otherReceipt : Event → Error
  delivered : Event → Error
  notOwned : Event → Identifier → Error
  notNext : Event → Error
  partialLease : String
  leasedDelivery : String
  partialDelivery : String
  twoOutcomes : String
  leasedDeadLetter : String

namespace OutboxFields
variable {Event : Type}

/-- Nothing is left to deliver. -/
def Settled (record : OutboxFields Event) : Prop := record.deliveredAt ≠ none ∨ record.deadLetteredAt ≠ none

instance (record : OutboxFields Event) : Decidable record.Settled :=
  inferInstanceAs (Decidable (_ ∨ _))

def fresh (event : Event) (availableAt : AwareDatetime) : OutboxFields Event where
  event := event
  availableAt := availableAt

def stripped (record : OutboxFields Event) : OutboxFields Event :=
  { record with
    receipt := record.receipt.map strip
    deadLetterReason := record.deadLetterReason.map strip
    lastError := record.lastError.map strip }

/-- A record that is written with its event is not settled. -/
theorem not_settled_fresh (event : Event) (availableAt : AwareDatetime) : ¬ (fresh event availableAt).Settled := by
  rintro (h | h) <;> exact h rfl

end OutboxFields

namespace Outbox
variable {Event Stream : Type} (outbox : Outbox Event Stream)

/-- `validate_delivery`, and the lengths of the texts before it. -/
def validate (record : OutboxFields Event) : Except Error Unit := do
  raiseIf (∃ receipt ∈ record.receipt, receipt.length < 1 ∨ outbox.receiptLength < receipt.length)
    (.validation s!"receipt should have between 1 and {outbox.receiptLength} characters")
  raiseIf (∃ reason ∈ record.deadLetterReason, reason.length < 1 ∨ 1024 < reason.length)
    (.validation "dead_letter_reason should have between 1 and 1024 characters")
  raiseIf (∃ error ∈ record.lastError, 1024 < error.length)
    (.validation "last_error should have at most 1024 characters")
  raiseIf (record.leaseOwner.isNone ≠ record.leaseExpiresAt.isNone) (.validation outbox.partialLease)
  raiseIf (record.deliveredAt ≠ none ∧ record.leaseOwner ≠ none) (.validation outbox.leasedDelivery)
  raiseIf (record.deliveredAt.isNone ≠ record.receipt.isNone) (.validation outbox.partialDelivery)
  raiseIf (record.deadLetteredAt.isNone ≠ record.deadLetterReason.isNone)
    (.validation "dead-letter time and reason must be set together")
  raiseIf (record.deliveredAt ≠ none ∧ record.deadLetteredAt ≠ none) (.validation outbox.twoOutcomes)
  raiseIf (record.deadLetteredAt ≠ none ∧ record.leaseOwner ≠ none) (.validation outbox.leasedDeadLetter)

def read (record : OutboxFields Event) : Except Error (OutboxFields Event) := do
  outbox.validate record.stripped
  return record.stripped

/-- A record is read when the stripped one passes the validator. -/
theorem read_ok {record current : OutboxFields Event} :
    outbox.read record = .ok current ↔ outbox.validate record.stripped = .ok () ∧ current = record.stripped := by
  rw [read, unit_bind_ok, pure_ok, eq_comm (a := current)]

/-- No readable record is both delivered and dead-lettered. -/
theorem one_outcome {record : OutboxFields Event} (h : outbox.validate record = .ok ()) :
    ¬ (record.deliveredAt ≠ none ∧ record.deadLetteredAt ≠ none) := by
  simp only [validate, unit_bind_ok, raiseIf_ok] at h
  exact h.2.2.2.2.2.2.2.1

/-- A record as it is written with its event is readable. -/
theorem validate_fresh (event : Event) (availableAt : AwareDatetime) :
    outbox.validate (OutboxFields.fresh event availableAt) = .ok () := by
  simp [validate, OutboxFields.fresh]

end Outbox
end Uumi.Contracts
