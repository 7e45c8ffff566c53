import Uumi.Account.Storage
import Uumi.Notifications.Storage

/-! Team invitations: the services that register an endpoint for the invitee, save the invitation and announce it. -/
namespace Uumi.Notifications
open Uumi.Account Uumi.Contracts Uumi.Core Uumi.Foundations Uumi.Storage

structure EmailDeliveryConfiguration where
  authReference : Text 0 1024
  sender : Text 0 320
  deriving DecidableEq

def ensureEmailDelivery (emailDelivery : Option EmailDeliveryConfiguration) :
    Except Error EmailDeliveryConfiguration :=
  required emailDelivery (.resourceConflict "email delivery is not configured")

/-- `MemberRole.value`, with a capital. -/
def roleTitle : MemberRole → String
  | .viewer => "Viewer"
  | .operator => "Operator"
  | .administrator => "Administrator"

section
variable (texts : TextFunctions)

def digestId (word text : String) : Except Error Identifier :=
  Identifier.build (word ++ String.ofList ((texts.sha256 text).toList.take 40))

def invitationEndpoint (emailDelivery : EmailDeliveryConfiguration) (organisationId : Identifier) (email : String)
    (now : AwareDatetime) : Except Error NotificationEndpoint := do
  let id ← digestId texts "endpoint_" (organisationId.text ++ "\x00" ++ email ++ "\x00team-invitation")
  let displayName ← Text.build 1 160 "display_name" email
  return {
    id
    organisationId
    displayName
    channel := .email
    provider := .resend
    authReference := emailDelivery.authReference
    eventKinds := {.teamInvitation}
    recipients := [email]
    sender := some emailDelivery.sender
    createdAt := now
    updatedAt := now }

def registerInvitationEndpoint (emailDelivery : Option EmailDeliveryConfiguration) (store : NotificationStore)
    (organisationId : Identifier) (emailAddress : String) (now : AwareDatetime) :
    Except Error (NotificationEndpoint × NotificationStore) := do
  let emailDelivery ← ensureEmailDelivery emailDelivery
  let endpoint ← invitationEndpoint texts emailDelivery organisationId (texts.lower (strip emailAddress)) now
  store.registerEndpoint endpoint

/-- The notification that `NotificationService.emit` emits. -/
def emitted (eventId : String) (organisationId : Identifier) (kind : NotificationKind) (severity : Severity)
    (title body linkPath : String) (resourceId : Identifier) (now : AwareDatetime) : Except Error Notification := do
  let id ← digestId texts "notification_" (organisationId.text ++ "\x00" ++ eventId ++ "\x00" ++ kind.value)
  let title ← Text.build 1 160 "title" title
  let body ← Text.build 1 1024 "body" body
  let linkPath ← Text.build 1 1024 "link_path" linkPath
  let notification : Notification :=
    { id, organisationId, kind, severity, title, body, linkPath, resourceId, createdAt := now }
  notification.validateLink
  return notification

/-- `AccountService.invite`, with the addresses of the team as the service has listed them. -/
def invite (store : AccountStore) (organisationId : Identifier) (identity : AuthenticatedIdentity) (email : String)
    (role : MemberRole) (team : List String) (now : AwareDatetime) : Except Error (TeamInvitation × AccountStore) := do
  let normalised ← normaliseEmail texts email
  raiseIf (∃ own ∈ identity.email.toList, own ≠ "" ∧ normalised = texts.lower (strip own))
    (.resourceConflict "you are already a member of this organisation")
  raiseIf (normalised ∈ team) (.resourceConflict "this email already belongs to the team")
  let id ← Identifier.build (← invitationId texts normalised)
  let invitedBy ← Identifier.build (identity.actorId texts)
  let invitation : TeamInvitation := {
    id
    organisationId
    email := normalised
    role
    invitedBy
    -- seven days, in microseconds
    expiresAt := leaseEnd now 604800000000
    createdAt := now
    updatedAt := now }
  store.saveInvitation texts (← invitation.modelValidate texts)

/-- A call of the route `invite` by an administrator, with the name of the organisation as the session has it. -/
structure InvitationCall where
  organisationId : Identifier
  organisationName : Text 1 120
  identity : AuthenticatedIdentity
  email : String
  role : MemberRole

namespace InvitationCall
variable (call : InvitationCall)

def address : String := texts.lower (strip call.email)

def inviter : String :=
  (AccountStore.orElseText call.identity.displayName (AccountStore.orElseText call.identity.email none)).getD
    "A Uumi administrator"

def announcement (member : TeamInvitation) (now : AwareDatetime) : Except Error Notification :=
  emitted texts s!"team-invited-{member.id.text}-{member.revision}" call.organisationId .teamInvitation .low
    s!"Join {call.organisationName.value} on Uumi"
    (s!"{call.inviter} invited you to join {call.organisationName.value} " ++
      s!"as {roleTitle call.role}. The invitation expires in 7 days.")
    "/auth" member.id now

end InvitationCall
end

variable {texts : TextFunctions}

/-- The notification of an invitation is for the organisation, and of its kind. -/
theorem announcement_ok {call : InvitationCall} {member : TeamInvitation} {now : AwareDatetime}
    {notification : Notification} (h : call.announcement texts member now = .ok notification) :
    notification.organisationId = call.organisationId ∧ notification.kind = .teamInvitation := by
  simp only [InvitationCall.announcement, emitted, bind_ok, pure_ok] at h
  obtain ⟨_, -, _, -, _, -, _, -, _, -, rfl⟩ := h
  exact ⟨rfl, rfl⟩

end Uumi.Notifications
