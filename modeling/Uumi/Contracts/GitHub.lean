import Uumi.Contracts.Plan

/-! The onboarding of GitHub installations: sessions, installations, the index that gives an installation to one
organisation, repositories and webhook receipts. -/
namespace Uumi.Contracts
open Uumi.Core Uumi.Foundations

inductive GitHubOnboardingStatus where
  | pending | discovered | complete
  deriving DecidableEq, Repr

inductive GitHubSecretScanningStatus where
  | enabled | disabled | unavailable
  deriving DecidableEq, Repr

def GitHubSecretScanningStatus.value : GitHubSecretScanningStatus → String
  | .enabled => "enabled"
  | .disabled => "disabled"
  | .unavailable => "unavailable"

def GitHubSecretScanningStatus.all : List GitHubSecretScanningStatus := [.enabled, .disabled, .unavailable]

def repositoryNameAccepts (text : String) : Bool :=
  match text.toList.splitOn '/' with
  | [owner, name] => !owner.isEmpty && !name.isEmpty && text.length ≤ 256
  | _ => false

/-- The full name of a repository. -/
structure RepositoryName where
  text : String
  accepted : repositoryNameAccepts text = true
  deriving DecidableEq

def RepositoryName.build (value : String) : Except Error RepositoryName :=
  if h : repositoryNameAccepts (strip value) = true then .ok ⟨strip value, h⟩
  else .error (.validation "full_name should match the repository pattern")

def positive (field : String) (value : Int) : Except Error Unit :=
  raiseIf (value ≤ 0) (.validation s!"{field} should be greater than 0")

inductive RepositorySelection where
  | all | selected
  deriving DecidableEq

structure GitHubInstallation where
  installationId : Int
  organisationId : Identifier
  accountId : Int
  accountLogin : Text 1 256
  accountType : Text 1 64
  repositorySelection : RepositorySelection
  permissions : List (String × String) := []
  events : List String := []
  webhookVerifiedAt : Option AwareDatetime := none
  repositoriesReady : Bool := false
  active : Bool := true
  deleted : Bool := false
  ready : Bool := false
  createdAt : AwareDatetime
  updatedAt : AwareDatetime
  deriving DecidableEq

namespace GitHubInstallation
variable (installation : GitHubInstallation)

/-- `validate_app_contract`, after the checks of the fields. -/
def validate : Except Error Unit := do
  positive "installation_id" installation.installationId
  positive "account_id" installation.accountId
  raiseIf (100 < installation.permissions.length) (.validation "permissions should have at most 100 items")
  raiseIf (∃ permission ∈ installation.permissions, 96 < permission.1.length ∨ 32 < permission.2.length)
    (.validation "GitHub installation permissions are invalid")
  raiseIf (∃ event ∈ installation.events, 96 < event.length) (.validation "GitHub installation events are invalid")
  raiseIf (installation.ready ∧
      (installation.webhookVerifiedAt = none ∨ ¬ installation.repositoriesReady ∨ ¬ installation.active))
    (.validation "a ready GitHub installation requires webhook and repository checks")
  raiseIf (installation.deleted ∧ (installation.active ∨ installation.ready))
    (.validation "a deleted GitHub installation cannot be active or ready")

def modelValidate : Except Error GitHubInstallation := do
  installation.validate
  return installation

end GitHubInstallation

structure GitHubInstallationIndex where
  installationId : Int
  organisationId : Identifier
  onboardingId : Identifier
  active : Bool := true
  deleted : Bool := false
  ready : Bool := false
  createdAt : AwareDatetime
  deriving DecidableEq

namespace GitHubInstallationIndex
variable (index : GitHubInstallationIndex)

/-- `validate_lifecycle`, after the checks of the fields. -/
def validate : Except Error Unit := do
  positive "installation_id" index.installationId
  raiseIf (index.ready ∧ ¬ index.active) (.validation "a ready GitHub installation index must be active")
  raiseIf (index.deleted ∧ (index.active ∨ index.ready))
    (.validation "a deleted GitHub installation index cannot be active or ready")

def modelValidate : Except Error GitHubInstallationIndex := do
  index.validate
  return index

end GitHubInstallationIndex

structure GitHubRepositoryCandidate where
  repositoryId : Int
  fullName : RepositoryName
  isPrivate : Bool
  defaultBranch : Text 1 256
  secretScanning : GitHubSecretScanningStatus
  deriving DecidableEq

def GitHubRepositoryCandidate.build (repositoryId : Int) (fullName : String) (isPrivate : Bool) (defaultBranch : String)
    (secretScanning : GitHubSecretScanningStatus) : Except Error GitHubRepositoryCandidate := do
  positive "repository_id" repositoryId
  let fullName ← RepositoryName.build fullName
  let defaultBranch ← Text.build 1 256 "default_branch" defaultBranch
  return { repositoryId, fullName, isPrivate, defaultBranch, secretScanning }

structure GitHubRepository where
  repositoryId : Int
  installationId : Int
  organisationId : Identifier
  fullName : RepositoryName
  isPrivate : Bool
  defaultBranch : Text 1 256
  secretScanning : GitHubSecretScanningStatus
  updatedAt : AwareDatetime
  deriving DecidableEq

def GitHubRepository.build (candidate : GitHubRepositoryCandidate) (installationId : Int) (organisationId : Identifier)
    (updatedAt : AwareDatetime) : Except Error GitHubRepository := do
  positive "repository_id" candidate.repositoryId
  positive "installation_id" installationId
  return { candidate with installationId, organisationId, updatedAt }

structure GitHubWebhookReceipt where
  installationId : Int
  deliveryId : Text 1 256
  event : Text 1 96
  action : Text 1 96
  receivedAt : AwareDatetime
  deriving DecidableEq

def GitHubWebhookReceipt.build (installationId : Int) (deliveryId event action : String) (receivedAt : AwareDatetime) :
    Except Error GitHubWebhookReceipt := do
  positive "installation_id" installationId
  let deliveryId ← Text.build 1 256 "delivery_id" deliveryId
  let event ← Text.build 1 96 "event" event
  let action ← Text.build 1 96 "action" action
  return { installationId, deliveryId, event, action, receivedAt }

structure GitHubOnboardingSession where
  id : Identifier
  organisationId : Identifier
  subject : Text 1 512
  stateHash : String
  verifierHash : String
  status : GitHubOnboardingStatus
  installationId : Option Int := none
  installation : Option GitHubInstallation := none
  repositories : List GitHubRepositoryCandidate := []
  createdAt : AwareDatetime
  expiresAt : AwareDatetime
  completedAt : Option AwareDatetime := none
  deriving DecidableEq

namespace GitHubOnboardingSession
variable (session : GitHubOnboardingSession)

/-- `validate_completion`, after the checks of the fields and of the installation. -/
def validate : Except Error Unit := do
  match session.installationId with
  | some installationId => positive "installation_id" installationId
  | none => pure ()
  match session.installation with
  | some installation => installation.validate
  | none => pure ()
  raiseIf (session.status = .pending ∧ (session.installationId ≠ none ∨ session.installation ≠ none ∨
      session.repositories ≠ [] ∨ session.completedAt ≠ none))
    (.validation "pending GitHub onboarding cannot contain installation metadata")
  raiseIf (session.status = .discovered ∧ (session.installationId = none ∨ session.installation = none ∨
      session.repositories = [] ∨ session.completedAt ≠ none))
    (.validation "GitHub onboarding requires discovered repositories")
  raiseIf (session.status = .complete ∧ (session.installationId = none ∨ session.installation = none ∨
      session.repositories = [] ∨ session.completedAt = none))
    (.validation "completed GitHub onboarding requires installation metadata")
  raiseIf (∃ installation ∈ session.installation, some installation.installationId ≠ session.installationId)
    (.validation "GitHub onboarding installation identity changed")

def modelValidate : Except Error GitHubOnboardingSession := do
  session.validate
  return session

end GitHubOnboardingSession
end Uumi.Contracts
