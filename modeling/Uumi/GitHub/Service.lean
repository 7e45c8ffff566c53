import Uumi.Contracts.Incident
import Uumi.Contracts.Inventory
import Uumi.Coordinator.Context
import Uumi.Foundations.Interaction
import Uumi.Foundations.Json
import Uumi.GitHub.Storage

/-! The onboarding of GitHub installations. -/
namespace Uumi.GitHub
open Uumi.Contracts Uumi.Coordinator Uumi.Core Uumi.Foundations
open Uumi.Foundations.Program (lift)

/-- What GitHub says of an installation that the user of an authorisation code can access. -/
structure VerifiedInstallation where
  installationId : Int
  accountId : Int
  accountLogin : String
  accountType : String
  repositorySelection : RepositorySelection
  permissions : List (String × String)
  events : List String

/-- What GitHub says of a repository of an installation. -/
structure VerifiedRepository where
  repositoryId : Int
  fullName : String
  isPrivate : Bool
  defaultBranch : String
  secretScanning : String

inductive GitHubCall where
  | clock
  /-- `access` of the secret that webhooks are signed with. -/
  | secret
  /-- `token_urlsafe`. -/
  | token (size : Nat)
  | newId
  /-- `verify` of the connector. -/
  | verify (code verifier : String) (installationId : Option Int)
  | createSession (session : GitHubOnboardingSession)
  | session (organisationId sessionId : Identifier)
  | receipt (installationId : Int)
  | stage (session : GitHubOnboardingSession) (installation : GitHubInstallation)
      (repositories : List GitHubRepositoryCandidate)
  | reserve (session : GitHubOnboardingSession) (installation : GitHubInstallation)
  | finish (session : GitHubOnboardingSession) (installation : GitHubInstallation) (index : GitHubInstallationIndex)
  | installation (organisationId : Identifier) (installationId : Int)
  | repositories (organisationId : Identifier) (installationId : Int)
  | write (repositories : List GitHubRepository)
  | remove (repositories : List GitHubRepository)
  | recordReceipt (receipt : GitHubWebhookReceipt)
  | deactivate (installationId : Int) (occurredAt : AwareDatetime) (deleted : Bool)
  | invalidate (installationId : Int) (occurredAt : AwareDatetime)
  | index (installationId : Int)
  | repository (organisationId : Identifier) (repositoryId : Int)
  | connections (organisationId : Identifier)
  | replaceConnection (changed : ConnectionFields) (expectedRevision : Nat)

def GitHubCall.Answer : GitHubCall → Type
  | .clock => AwareDatetime
  | .secret => List UInt8
  | .token _ => String
  | .newId => Identifier
  | .verify .. => VerifiedInstallation × List VerifiedRepository
  | .createSession _ | .session .. | .stage .. | .finish .. => GitHubOnboardingSession
  | .receipt _ => Option GitHubWebhookReceipt
  | .reserve .. | .index _ => GitHubInstallationIndex
  | .installation .. => GitHubInstallation
  | .repositories .. => List GitHubRepository
  | .recordReceipt _ => Option GitHubInstallation
  | .repository .. => GitHubRepository
  | .connections _ => List Connection
  | .write _ | .remove _ | .deactivate .. | .invalidate .. | .replaceConnection .. => Unit

abbrev GitHubM := Program GitHubCall GitHubCall.Answer Error

def gitHubCall (op : GitHubCall) : GitHubM op.Answer := .perform op

/-- `items[offset : offset + size]` for one offset after another. -/
def slices {α : Type} (size : Nat) (items : List α) : List (List α) :=
  (List.range' 0 ((items.length + size - 1) / size) size).map fun offset => (items.drop offset).take size

/-- Slices hold the items alone. -/
theorem mem_of_slices {α : Type} {size : Nat} {items slice : List α} (h : slice ∈ slices size items) {item : α}
    (hi : item ∈ slice) : item ∈ items := by
  obtain ⟨offset, -, rfl⟩ := List.mem_map.mp h
  exact List.mem_of_mem_drop (List.mem_of_mem_take hi)

def batches (call : List GitHubRepository → GitHubM Unit) : List (List GitHubRepository) → GitHubM Unit
  | [] => return ()
  | batch :: rest => do
    call batch
    batches call rest

/-- `complete` of the repository. -/
def completeOnboarding (session : GitHubOnboardingSession) (installation : GitHubInstallation)
    (repositories : List GitHubRepository) : GitHubM GitHubOnboardingSession := do
  let index : GitHubInstallationIndex ← gitHubCall (.reserve session installation)
  let existing : List GitHubRepository ← gitHubCall (.repositories session.organisationId installation.installationId)
  let selected := repositories.map (·.repositoryId)
  batches (fun batch => gitHubCall (.write batch)) (slices 400 repositories)
  let stale := existing.filter fun repository => repository.repositoryId ∉ selected
  batches (fun batch => gitHubCall (.remove batch)) (slices 400 stale)
  gitHubCall (.finish session installation index)

/-- An instance of `int`, which a truth value is too. -/
inductive IntValue where
  | int (n : Int)
  | bool (b : Bool)
  deriving DecidableEq

/-- The text in a path or a message. No document has a truth value in its path. -/
def IntValue.text : IntValue → String
  | .int n => s!"{n}"
  | .bool true => "True"
  | .bool false => "False"

def IntValue.number : IntValue → Int
  | .int n => n
  | .bool b => b.toNat

def route (installationId repositoryId : IntValue) : GitHubM (Option (Identifier × GitHubRepository)) :=
  match installationId with
  | .bool _ => lift (.error (.resourceNotFound s!"GitHub installation {installationId.text} is not connected"))
  | .int installation => do
    let index : GitHubInstallationIndex ← gitHubCall (.index installation)
    if index.active then
      lift (raiseIf (¬ index.ready) (.resourceConflict "GitHub installation onboarding is incomplete"))
      match repositoryId with
      | .bool _ => lift (.error (.resourceNotFound s!"GitHub repository {repositoryId.text} is not connected"))
      | .int id => do
        let repository : GitHubRepository ← gitHubCall (.repository index.organisationId id)
        lift (raiseIf (repository.installationId ≠ installation)
          (.storageIntegrity "GitHub repository installation mapping is invalid"))
        return some (index.organisationId, repository)
    else return none

/-- The application that is installed, and the pure functions on texts that it is built from. -/
structure GitHubOnboardingService where
  hashes : Hashes
  /-- `_challenge`. -/
  challenge : String → String
  urlencode : List (String × String) → String
  appSlug : String
  clientId : String
  redirectUri : String

/-- What `begin` answers with. -/
structure Begun where
  session : GitHubOnboardingSession
  state : String
  verifier : String
  installationUrl : String
  authorizationUrl : String

/-- What `discover` answers with. -/
structure Discovered where
  session : GitHubOnboardingSession
  installation : GitHubInstallation
  repositories : List GitHubRepositoryCandidate

/-- What `complete` answers with. -/
structure Completed where
  session : GitHubOnboardingSession
  installation : GitHubInstallation
  repositories : List GitHubRepository

namespace GitHubOnboardingService
variable (service : GitHubOnboardingService)

def expiry (now : AwareDatetime) : AwareDatetime := { now with instant := now.instant + 900000000 }

/-- `begin`. -/
def start (organisationId : Identifier) (subject : String) : GitHubM Begun := do
  let now : AwareDatetime ← gitHubCall .clock
  let state : String ← gitHubCall (.token 32)
  let verifier : String ← gitHubCall (.token 64)
  let id : Identifier ← gitHubCall .newId
  let subject ← lift (Text.build 1 512 "subject" subject)
  let session : GitHubOnboardingSession ← gitHubCall (.createSession {
    id
    organisationId
    subject
    stateHash := service.hashes.sha256 state
    verifierHash := service.hashes.sha256 verifier
    status := .pending
    createdAt := now
    expiresAt := expiry now })
  return {
    session
    state
    verifier
    installationUrl := "https://github.com/apps/" ++ service.appSlug ++ "/installations/new?" ++
      service.urlencode [("state", state)]
    authorizationUrl := "https://github.com/login/oauth/authorize?" ++ service.urlencode [
      ("client_id", service.clientId), ("redirect_uri", service.redirectUri), ("state", state),
      ("code_challenge", service.challenge verifier), ("code_challenge_method", "S256")] }

def owner (session : GitHubOnboardingSession) (subject : String) (now : AwareDatetime) : Except Error Unit := do
  raiseIf (session.subject.value ≠ subject) (.resourceConflict "GitHub onboarding belongs to another administrator")
  raiseIf (session.expiresAt ≤ now ∧ session.status ≠ .complete)
    (.resourceConflict "GitHub onboarding session has expired")

def authorise (session : GitHubOnboardingSession) (subject state verifier : String) (now : AwareDatetime) :
    Except Error Unit := do
  owner session subject now
  raiseIf (service.hashes.sha256 state ≠ session.stateHash) (.resourceConflict "GitHub onboarding state is invalid")
  raiseIf (service.hashes.sha256 verifier ≠ session.verifierHash)
    (.resourceConflict "GitHub onboarding PKCE verifier is invalid")

def verified (code verifier : String) (installationId : Option Int) :
    GitHubM (VerifiedInstallation × List VerifiedRepository) :=
  (gitHubCall (.verify code verifier installationId)).tryCatch fun
    | .connector code message retryable =>
      if code = "connector-setup-required" then lift (.error (.runtime message))
      else if code = "connector-authentication" then lift (.error (.resourceConflict message))
      else lift (.error (.connector code message retryable))
    | e => lift (.error e)

def candidate (repository : VerifiedRepository) : Except Error GitHubRepositoryCandidate := do
  let secretScanning ← required (GitHubSecretScanningStatus.all.find? (·.value = repository.secretScanning))
    (.value "secret scanning status is invalid")
  GitHubRepositoryCandidate.build repository.repositoryId repository.fullName repository.isPrivate
    repository.defaultBranch secretScanning

def checkAccess (metadata : VerifiedInstallation) : Except Error Unit := do
  raiseIf (∀ access ∈ metadata.permissions.lookup "secret_scanning_alerts", access ∉ ["read", "write"])
    (.resourceConflict "GitHub App requires read access to secret scanning alerts")
  raiseIf ("secret_scanning_alert" ∉ metadata.events)
    (.resourceConflict "GitHub App is not subscribed to secret scanning alert events")

def discoveredInstallation (organisationId : Identifier) (metadata : VerifiedInstallation)
    (receipt : Option GitHubWebhookReceipt) (repositories : List GitHubRepositoryCandidate) (now : AwareDatetime) :
    Except Error GitHubInstallation := do
  let accountLogin ← Text.build 1 256 "account_login" metadata.accountLogin
  let accountType ← Text.build 1 64 "account_type" metadata.accountType
  let repositoriesReady := repositories.all (·.secretScanning = .enabled)
  GitHubInstallation.modelValidate {
    installationId := metadata.installationId
    organisationId
    accountId := metadata.accountId
    accountLogin
    accountType
    repositorySelection := metadata.repositorySelection
    permissions := metadata.permissions
    events := metadata.events
    webhookVerifiedAt := receipt.map (·.receivedAt)
    repositoriesReady
    ready := repositoriesReady && receipt.isSome
    createdAt := now
    updatedAt := now }

def discover (organisationId sessionId : Identifier) (subject state verifier code : String)
    (installationId : Option Int) : GitHubM Discovered := do
  let session : GitHubOnboardingSession ← gitHubCall (.session organisationId sessionId)
  let now : AwareDatetime ← gitHubCall .clock
  lift (service.authorise session subject state verifier now)
  match session.status with
  | .complete => do
    let known ← lift (required session.installationId (.runtime "AssertionError"))
    let installation : GitHubInstallation ← gitHubCall (.installation organisationId known)
    let stored : List GitHubRepository ← gitHubCall (.repositories organisationId known)
    let repositories ← lift (collect stored fun item => GitHubRepositoryCandidate.build item.repositoryId
      item.fullName.text item.isPrivate item.defaultBranch.value item.secretScanning)
    return { session, installation, repositories }
  | .discovered => do
    let installation ← lift (required session.installation (.runtime "AssertionError"))
    return { session, installation, repositories := session.repositories }
  | .pending => do
    let (metadata, listed) ← verified code verifier installationId
    lift (checkAccess metadata)
    let receipt : Option GitHubWebhookReceipt ← gitHubCall (.receipt metadata.installationId)
    let now : AwareDatetime ← gitHubCall .clock
    let repositories ← lift (collect listed candidate)
    lift (raiseIf (repositories = []) (.resourceConflict "GitHub App must be installed on at least one repository"))
    let installation ← lift (discoveredInstallation organisationId metadata receipt repositories now)
    let staged : GitHubOnboardingSession ← gitHubCall (.stage session installation repositories)
    return { session := staged, installation, repositories }

def complete (organisationId sessionId : Identifier) (subject : String) : GitHubM Completed := do
  let session : GitHubOnboardingSession ← gitHubCall (.session organisationId sessionId)
  let now : AwareDatetime ← gitHubCall .clock
  lift (owner session subject now)
  match session.status with
  | .complete => do
    let known ← lift (required session.installationId (.runtime "AssertionError"))
    let installation : GitHubInstallation ← gitHubCall (.installation organisationId known)
    let repositories : List GitHubRepository ← gitHubCall (.repositories organisationId known)
    return { session, installation, repositories }
  | .pending => lift (.error (.resourceConflict "GitHub repositories have not been discovered"))
  | .discovered => do
    let installation ← lift (required session.installation
      (.resourceConflict "GitHub installation metadata is unavailable"))
    let now : AwareDatetime ← gitHubCall .clock
    let repositories ← lift (collect session.repositories fun item =>
      GitHubRepository.build item installation.installationId organisationId now)
    let completed ← completeOnboarding session installation repositories
    return { session := completed, installation, repositories }

end GitHubOnboardingService
end Uumi.GitHub
