import Uumi.Contracts.Plan
import Uumi.Core.Errors
import Uumi.Foundations.Documents

/-! Organisations, the grants of their members and the invitations to join them: the contracts, and the transactions of
the account repository. -/
namespace Uumi.Account
open Uumi.Contracts Uumi.Core Uumi.Foundations

/-- What the services use of the standard library: SHA-256 in hexadecimal digits, and lower case. -/
structure TextFunctions where
  sha256 : String → String
  lower : String → String

inductive Permission where
  | runRead | runWrite | inventoryRead | inventoryWrite | playbookRead | playbookWrite | playbookApprove
  | verificationRead | verificationWrite | verificationApprove | approvalRead | approvalDecide | incidentWrite
  | notificationRead | notificationWrite | profileRead | profileWrite | teamRead | teamWrite | agentRead | agentWrite
  | auditRead
  deriving DecidableEq, Repr

def Permission.value : Permission → String
  | .runRead => "run.read"
  | .runWrite => "run.write"
  | .inventoryRead => "inventory.read"
  | .inventoryWrite => "inventory.write"
  | .playbookRead => "playbook.read"
  | .playbookWrite => "playbook.write"
  | .playbookApprove => "playbook.approve"
  | .verificationRead => "verification.read"
  | .verificationWrite => "verification.write"
  | .verificationApprove => "verification.approve"
  | .approvalRead => "approval.read"
  | .approvalDecide => "approval.decide"
  | .incidentWrite => "incident.write"
  | .notificationRead => "notification.read"
  | .notificationWrite => "notification.write"
  | .profileRead => "profile.read"
  | .profileWrite => "profile.write"
  | .teamRead => "team.read"
  | .teamWrite => "team.write"
  | .agentRead => "agent.read"
  | .agentWrite => "agent.write"
  | .auditRead => "audit.read"

inductive Role where
  | viewer | operator | administrator | automation
  deriving DecidableEq, Repr

/-- `ROLE_PERMISSIONS`. -/
def Role.allows : Role → Permission → Prop
  | .viewer, permission => permission ∈ [Permission.runRead, .inventoryRead, .playbookRead, .verificationRead,
      .approvalRead, .agentRead, .auditRead, .notificationRead, .profileRead, .profileWrite]
  | .operator, permission => permission ∈ [Permission.runRead, .runWrite, .inventoryRead, .playbookRead,
      .playbookWrite, .verificationRead, .verificationWrite, .approvalRead, .agentRead, .incidentWrite,
      .notificationRead, .profileRead, .profileWrite]
  | .automation, permission => permission ∈ [Permission.runRead, .runWrite, .inventoryRead, .playbookRead,
      .playbookWrite, .verificationRead, .verificationWrite, .approvalRead, .agentRead, .incidentWrite,
      .notificationRead]
  | .administrator, _ => True

instance (role : Role) (permission : Permission) : Decidable (role.allows permission) := by
  cases role <;> unfold Role.allows <;> infer_instance

/-- The roles that a person may have. -/
inductive MemberRole where
  | viewer | operator | administrator
  deriving DecidableEq, Repr

/-- `Role(role.value)`. -/
def MemberRole.role : MemberRole → Role
  | .viewer => .viewer
  | .operator => .operator
  | .administrator => .administrator

structure AuthenticatedIdentity where
  subject : String
  email : Option String
  emailVerified : Bool
  displayName : Option String
  connectedVia : String
  deriving DecidableEq, Repr

structure PrincipalGrant where
  subject : String
  roles : Finset Role
  enabled : Bool := true
  email : Option String := none
  displayName : Option String := none
  connectedVia : Option String := none
  createdAt : Option AwareDatetime := none
  updatedAt : Option AwareDatetime := none
  revision : Int := 0
  deriving DecidableEq

def PrincipalGrant.modelValidate (grant : PrincipalGrant) : PrincipalGrant :=
  { grant with
    subject := strip grant.subject
    email := grant.email.map strip
    displayName := grant.displayName.map strip
    connectedVia := grant.connectedVia.map strip }

structure Organisation where
  id : Identifier
  name : Text 1 120
  createdAt : AwareDatetime
  updatedAt : AwareDatetime
  revision : Nat := 0
  deriving DecidableEq

structure TeamInvitation where
  id : Identifier
  organisationId : Identifier
  email : String
  role : MemberRole
  invitedBy : Identifier
  expiresAt : AwareDatetime
  createdAt : AwareDatetime
  updatedAt : AwareDatetime
  acceptedAt : Option AwareDatetime := none
  revokedAt : Option AwareDatetime := none
  revision : Nat := 0
  deriving DecidableEq

/-- `value.rpartition(separator)`: what stands before and after the last separator, if there is one. -/
def rpartition (separator : Char) (value : List Char) : Option (List Char × List Char) :=
  match value.reverse.dropWhile (· ≠ separator) with
  | [] => none
  | _ :: before => some (before.reverse, (value.reverse.takeWhile (· ≠ separator)).reverse)

def emailAccepts (value : String) : Bool :=
  match rpartition '@' value.toList with
  | none => false
  | some (local_, domain) => !local_.isEmpty && domain.contains '.' && domain.head? != some '.'

variable (texts : TextFunctions)

/-- `_email` of the contracts. -/
def contractEmail (value : String) : Except Error String := do
  let normalised := texts.lower (strip value)
  raiseIf (emailAccepts normalised = false) (.validation "email address is invalid")
  return normalised

def TeamInvitation.modelValidate (invitation : TeamInvitation) : Except Error TeamInvitation := do
  raiseIf (invitation.email.length < 3 ∨ 320 < invitation.email.length)
    (.validation "email should have between 3 and 320 characters")
  return { invitation with email := ← contractEmail texts invitation.email }

namespace AuthenticatedIdentity
variable (identity : AuthenticatedIdentity)

def documentId : String := texts.sha256 identity.subject

def actorId : String := "actor_" ++ String.ofList ((texts.sha256 identity.subject).toList.take 32)

end AuthenticatedIdentity

def principalId (subject : String) : String := "principal_" ++ texts.sha256 subject

def normaliseEmail (email : String) : Except Error String := do
  let value := texts.lower (strip email)
  raiseIf (emailAccepts value = false) (.resourceConflict "enter a valid email address")
  return value

def invitationId (email : String) : Except Error String := do
  let value ← normaliseEmail texts email
  return "invitation_" ++ String.ofList ((texts.sha256 value).toList.take 32)

/-- `text.removeprefix(start)`. -/
def removePrefix (start text : String) : String :=
  if start.toList.isPrefixOf text.toList then String.ofList (text.toList.drop start.length) else text

/-- Principals are under organisation and document id, invitations under organisation and invitation id. -/
structure AccountStore where
  organisations : Collection Identifier Organisation
  principals : Collection (Identifier × String) PrincipalGrant
  invitations : Collection (Identifier × String) TeamInvitation

namespace AccountStore
variable (store : AccountStore)

def empty : AccountStore := ⟨Collection.empty, Collection.empty, Collection.empty⟩

/-- `_grant`. -/
def ownGrant (identity : AuthenticatedIdentity) (stored : PrincipalGrant) : Except Error PrincipalGrant := do
  let grant := stored.modelValidate
  raiseIf (grant.subject ≠ identity.subject) (.storageIntegrity "principal subject does not match its document path")
  return grant

def createOrganisation (organisation : Organisation) (identity : AuthenticatedIdentity) (createdAt : AwareDatetime) :
    Except Error AccountStore := do
  let grant : PrincipalGrant := {
    subject := identity.subject
    roles := {.administrator}
    email := (identity.email.filter (· ≠ "")).map fun email => texts.lower (strip email)
    displayName := identity.displayName
    connectedVia := some identity.connectedVia
    createdAt := some createdAt
    updatedAt := some createdAt }
  let principal := (organisation.id, identity.documentId texts)
  absent (store.organisations organisation.id) fun _ => .alreadyExists "the organisation exists"
  absent (store.principals principal) fun _ => .alreadyExists "the principal exists"
  return { store with
    organisations := store.organisations.set organisation.id organisation
    principals := store.principals.set principal grant.modelValidate }

/-- `activate`: the transaction that accepts the invitation of an address. -/
def activate (organisationId : Identifier) (identity : AuthenticatedIdentity) (email : String) (now : AwareDatetime) :
    Except Error (Option PrincipalGrant × AccountStore) := do
  let reference := (organisationId, ← invitationId texts email)
  match store.invitations reference with
  | none => return (none, store)
  | some stored => do
    let invitation ← stored.modelValidate texts
    if invitation.email ≠ texts.lower (strip email) ∨ invitation.acceptedAt ≠ none ∨ invitation.revokedAt ≠ none ∨
        invitation.expiresAt ≤ now then
      return (none, store)
    else
      let grant : PrincipalGrant := {
        subject := identity.subject
        roles := {invitation.role.role}
        email := some invitation.email
        displayName := identity.displayName
        connectedVia := some identity.connectedVia
        createdAt := some now
        updatedAt := some now }
      let accepted := { invitation with acceptedAt := some now, updatedAt := now, revision := invitation.revision + 1 }
      return (some grant.modelValidate, { store with
        principals := store.principals.set (organisationId, identity.documentId texts) grant.modelValidate
        invitations := store.invitations.set reference accepted })

/-- `get`: the grant of an identity, after its invitation is accepted if it has one. -/
def get (organisationId : Identifier) (identity : AuthenticatedIdentity) (now : AwareDatetime) :
    Except Error (Option PrincipalGrant × AccountStore) :=
  match store.principals (organisationId, identity.documentId texts) with
  | some stored => do return (some (← ownGrant identity stored), store)
  | none =>
    match identity.email with
    | none => .ok (none, store)
    | some email => if identity.emailVerified then store.activate texts organisationId identity email now else .ok (none, store)

def syncIdentity (organisationId : Identifier) (identity : AuthenticatedIdentity) (updatedAt : AwareDatetime) :
    Except Error (PrincipalGrant × AccountStore) := do
  let principal := (organisationId, identity.documentId texts)
  let stored ← required (store.principals principal)
    (.resourceNotFound "the signed-in account is not an organisation member")
  let current ← ownGrant identity stored
  let email := current.email <|> identity.email.map fun email => texts.lower (strip email)
  let displayName := current.displayName <|> identity.displayName.filter (· ≠ "")
  let connectedVia := current.connectedVia <|> some identity.connectedVia
  if (email, displayName, connectedVia) = (current.email, current.displayName, current.connectedVia) then
    return (current, store)
  else
    let changed :=
      { current with email, displayName, connectedVia, updatedAt := some updatedAt, revision := current.revision + 1 }
    return (changed, { store with principals := store.principals.set principal changed })

def orElseText (text other : Option String) : Option String :=
  if text = none ∨ text = some "" then other else text

def updateProfile (organisationId : Identifier) (identity : AuthenticatedIdentity) (expectedRevision : Int)
    (displayName : String) (updatedAt : AwareDatetime) : Except Error (PrincipalGrant × AccountStore) := do
  let principal := (organisationId, identity.documentId texts)
  let stored ← required (store.principals principal)
    (.resourceNotFound "the signed-in account is not an organisation member")
  let current ← ownGrant identity stored
  raiseIf (current.revision ≠ expectedRevision)
    (.resourceConflict s!"profile expected revision {expectedRevision}, found {current.revision}")
  let changed := { current with
    displayName := some displayName
    email := orElseText current.email identity.email
    connectedVia := orElseText current.connectedVia (some identity.connectedVia)
    updatedAt := some updatedAt
    revision := current.revision + 1 }
  return (changed, { store with principals := store.principals.set principal changed })

def saveInvitation (invitation : TeamInvitation) : Except Error (TeamInvitation × AccountStore) := do
  let reference := (invitation.organisationId, invitation.id.text)
  match store.invitations reference with
  | none => return (invitation, { store with invitations := store.invitations.set reference invitation })
  | some stored => do
    let current ← stored.modelValidate texts
    raiseIf (current.acceptedAt = none ∧ current.revokedAt = none ∧ invitation.createdAt < current.expiresAt)
      (.resourceConflict "this email already has a pending invitation")
    let changed := { invitation with revision := current.revision + 1 }
    return (changed, { store with invitations := store.invitations.set reference changed })

def updateMember (organisationId : Identifier) (memberId : String) (expectedRevision : Int) (role : Role)
    (enabled : Bool) (updatedAt : AwareDatetime) : Except Error (PrincipalGrant × AccountStore) := do
  let principal := (organisationId, removePrefix "principal_" memberId)
  let stored ← required (store.principals principal) (.resourceNotFound s!"team member {memberId} was not found")
  let current := stored.modelValidate
  raiseIf (current.revision ≠ expectedRevision)
    (.resourceConflict s!"team member expected revision {expectedRevision}, found {current.revision}")
  let changed := { current with
    roles := {role}, enabled, updatedAt := some updatedAt, revision := current.revision + 1 }
  return (changed, { store with principals := store.principals.set principal changed })

def revokeInvitation (organisationId : Identifier) (invitationId : String) (expectedRevision : Nat)
    (revokedAt : AwareDatetime) : Except Error (TeamInvitation × AccountStore) := do
  let reference := (organisationId, invitationId)
  let stored ← required (store.invitations reference)
    (.resourceNotFound s!"team invitation {invitationId} was not found")
  let current ← stored.modelValidate texts
  raiseIf (current.revision ≠ expectedRevision)
    (.resourceConflict s!"team invitation expected revision {expectedRevision}, found {current.revision}")
  raiseIf (current.acceptedAt ≠ none) (.resourceConflict "an accepted invitation cannot be cancelled")
  let changed :=
    { current with revokedAt := some revokedAt, updatedAt := revokedAt, revision := current.revision + 1 }
  return (changed, { store with invitations := store.invitations.set reference changed })

end AccountStore

/-- `permissions` of an enabled grant. -/
def PrincipalGrant.Permits (grant : PrincipalGrant) (permission : Permission) : Prop :=
  ∃ role ∈ grant.roles, role.allows permission

instance (grant : PrincipalGrant) (permission : Permission) : Decidable (grant.Permits permission) :=
  inferInstanceAs (Decidable (∃ role ∈ grant.roles, role.allows permission))

/-- `AccessControl.require`, on the grant that the repository returned. -/
def requirePermission (grant : Option PrincipalGrant) (permission : Permission) : Except Error Unit :=
  match grant with
  | none => .error (.authorization "principal is not enabled for this organisation")
  | some grant => do
    raiseIf (grant.enabled = false) (.authorization "principal is not enabled for this organisation")
    raiseIf (¬ grant.Permits permission) (.authorization s!"principal lacks {permission.value}")

/-- Only administrators may write the team. -/
theorem permits_teamWrite (grant : PrincipalGrant) : grant.Permits .teamWrite ↔ .administrator ∈ grant.roles := by
  constructor
  · rintro ⟨role, hrole, hallows⟩
    cases role with
    | administrator => exact hrole
    | _ => exact absurd hallows (by decide)
  · exact fun h => ⟨.administrator, h, trivial⟩

end Uumi.Account
