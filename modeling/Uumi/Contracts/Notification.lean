import Uumi.Contracts.Run

/-! Notifications, the endpoints that they are sent to, and their deliveries. -/
namespace Uumi.Contracts
open Uumi.Core Uumi.Foundations

inductive Severity where
  | low | medium | high | critical
  deriving DecidableEq, Repr

inductive NotificationKind where
  | incident | incidentConfirmation | rotationDue | rotationFailed | recoveryStarted | approvalRequired | oldKeyUsed
  | connectionUnhealthy | playbookReview | revocationSucceeded | rotationCompleted | cleanupRequired | teamInvitation
  deriving DecidableEq, Repr

def NotificationKind.value : NotificationKind → String
  | .incident => "incident"
  | .incidentConfirmation => "incident-confirmation"
  | .rotationDue => "rotation-due"
  | .rotationFailed => "rotation-failed"
  | .recoveryStarted => "recovery-started"
  | .approvalRequired => "approval-required"
  | .oldKeyUsed => "old-key-used"
  | .connectionUnhealthy => "connection-unhealthy"
  | .playbookReview => "playbook-review"
  | .revocationSucceeded => "revocation-succeeded"
  | .rotationCompleted => "rotation-completed"
  | .cleanupRequired => "cleanup-required"
  | .teamInvitation => "team-invitation"

inductive NotificationChannel where
  | email | chat | incident
  deriving DecidableEq, Repr

inductive NotificationProvider where
  | resend | slack | pagerduty
  deriving DecidableEq, Repr

def NotificationProvider.channel : NotificationProvider → NotificationChannel
  | .resend => .email
  | .slack => .chat
  | .pagerduty => .incident

inductive NotificationState where
  | pending | sending | sent | failed
  deriving DecidableEq, Repr

structure NotificationEndpoint where
  id : Identifier
  organisationId : Identifier
  principalId : Option Identifier := none
  displayName : Text 1 160
  channel : NotificationChannel
  provider : NotificationProvider
  authReference : Text 0 1024
  eventKinds : Finset NotificationKind
  recipients : List String := []
  sender : Option (Text 0 320) := none
  enabled : Bool := true
  createdAt : AwareDatetime
  updatedAt : AwareDatetime
  revision : Nat := 0
  deriving DecidableEq

/-- `_email`: an address with a local part and a domain. -/
def addressAccepts (value : String) : Bool :=
  match value.toList.reverse.dropWhile (· ≠ '@') with
  | [] => false
  | _ :: local_ =>
    let domain := (value.toList.reverse.takeWhile (· ≠ '@')).reverse
    !local_.isEmpty && domain.contains '.' && domain.head? != some '.'

namespace NotificationEndpoint
variable (endpoint : NotificationEndpoint)

/-- The endpoint is enabled and wants events of this kind. -/
def Wants (kind : NotificationKind) : Prop := endpoint.enabled = true ∧ kind ∈ endpoint.eventKinds

instance (kind : NotificationKind) : Decidable (endpoint.Wants kind) := inferInstanceAs (Decidable (_ ∧ _))

def validateProvider : Except Error Unit := do
  raiseIf (endpoint.eventKinds = ∅) (.validation "event_kinds should have at least 1 item")
  raiseIf (50 < endpoint.recipients.length) (.validation "recipients should have at most 50 items")
  raiseIf (endpoint.channel ≠ endpoint.provider.channel)
    (.validation "notification provider does not match its channel")
  if endpoint.provider = .resend then do
    raiseIf (endpoint.recipients = [] ∨ endpoint.sender = none)
      (.validation "email notifications require recipients and a sender")
    raiseIf (¬ ∀ value ∈ endpoint.recipients ++ (endpoint.sender.map (·.value)).toList, addressAccepts value = true)
      (.validation "email notification addresses are invalid")
  else
    raiseIf (endpoint.recipients ≠ [] ∨ endpoint.sender ≠ none)
      (.validation "non-email notification endpoints cannot contain email addresses")

end NotificationEndpoint

structure Notification where
  id : Identifier
  organisationId : Identifier
  kind : NotificationKind
  severity : Severity
  title : Text 1 160
  body : Text 1 1024
  linkPath : Text 1 1024
  resourceId : Identifier
  runId : Option Identifier := none
  incidentId : Option Identifier := none
  approvalId : Option Identifier := none
  createdAt : AwareDatetime
  readAt : Option AwareDatetime := none
  revision : Nat := 0
  deriving DecidableEq

def Notification.validateLink (notification : Notification) : Except Error Unit := do
  let link := notification.linkPath.value.toList
  raiseIf (link.head? ≠ some '/' ∨ ['/', '/'].isPrefixOf link = true)
    (.validation "notification links must be relative application paths")
  raiseIf ('?' ∈ link ∨ '#' ∈ link ∨ '\\' ∈ link)
    (.validation "notification links cannot contain capabilities or fragments")

/-- The sending of a notification to an endpoint. Only a delivery that is being sent is leased, and only one that was
sent has its evidence. -/
structure NotificationDelivery where
  id : Identifier
  organisationId : Identifier
  notificationId : Identifier
  endpointId : Identifier
  endpointRevision : Nat
  provider : NotificationProvider
  state : NotificationState := .pending
  availableAt : AwareDatetime
  attempts : Nat := 0
  leaseOwner : Option Identifier := none
  leaseExpiresAt : Option AwareDatetime := none
  sentAt : Option AwareDatetime := none
  providerReceipt : Option (Text 1 512) := none
  lastError : Option (Text 0 1024) := none
  leased : state = .sending ↔ leaseOwner ≠ none
  lease : leaseOwner = none ↔ leaseExpiresAt = none
  evidence : state = .sent → sentAt ≠ none ∧ providerReceipt ≠ none
  unsent : state ≠ .sent → sentAt = none ∧ providerReceipt = none
  deriving DecidableEq

end Uumi.Contracts
