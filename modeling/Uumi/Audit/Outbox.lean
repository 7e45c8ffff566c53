import Uumi.Contracts.Audit
import Uumi.Contracts.Outbox

/-! The outbox of the audit events. -/
namespace Uumi.Audit
open Uumi.Contracts Uumi.Core Uumi.Foundations

/-- The outbox of the audit events. A stream is an organisation, and its events are placed by sequence number. -/
def auditOutbox : Outbox AuditEvent Identifier where
  path event := (event.organisationId, event.id)
  stream event := event.organisationId
  group event := event.organisationId
  position event := event.sequence
  receiptLength := 512
  noData id := .storageIntegrity s!"audit outbox document {id.text} has no data"
  deadLettered _ := .resourceConflict "audit event is dead-lettered"
  otherReceipt _ := .resourceConflict "audit event already has another log receipt"
  delivered _ := .resourceConflict "audit event is already logged"
  notOwned _ _ := .resourceConflict "audit delivery lease is not owned"
  notNext _ := .resourceConflict "audit event is not next for its organisation"
  partialLease := "audit lease owner and expiry must be set together"
  leasedDelivery := "a logged audit event cannot remain leased"
  partialDelivery := "audit log time and provider receipt must be set together"
  twoOutcomes := "an audit event cannot be logged and dead-lettered"
  leasedDeadLetter := "a dead-lettered audit event cannot remain leased"

end Uumi.Audit
