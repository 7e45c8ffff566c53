import Uumi.Contracts.GitHub
import Uumi.Foundations.Documents

/-! The GitHub repository: onboarding sessions, the index that gives each installation to one organisation, what is
known of installations and their repositories, and what webhooks change of it. -/
namespace Uumi.GitHub
open Uumi.Contracts Uumi.Core Uumi.Foundations

/-- Sessions, installations and repositories are under an organisation, indexes and receipts under an installation. -/
structure GitHubStore where
  sessions : Collection (Identifier × Identifier) GitHubOnboardingSession
  indexes : Collection Int GitHubInstallationIndex
  receipts : Collection Int GitHubWebhookReceipt
  installations : Collection (Identifier × Int) GitHubInstallation
  repositories : Collection (Identifier × Int) GitHubRepository

namespace GitHubStore
variable (store : GitHubStore)

def empty : GitHubStore :=
  ⟨Collection.empty, Collection.empty, Collection.empty, Collection.empty, Collection.empty⟩

def createSession (session : GitHubOnboardingSession) : Except Error (GitHubOnboardingSession × GitHubStore) := do
  absent (store.sessions (session.organisationId, session.id)) fun _ => .alreadyExists
    s!"document organisations/{session.organisationId.text}/github-onboarding/{session.id.text} already exists"
  return (session, { store with sessions := store.sessions.set (session.organisationId, session.id) session })

def getSession (organisationId sessionId : Identifier) : Except Error GitHubOnboardingSession := do
  let document ← required (store.sessions (organisationId, sessionId))
    (.resourceNotFound s!"GitHub onboarding {sessionId.text} was not found")
  document.modelValidate

def newIndex (session : GitHubOnboardingSession) (installation : GitHubInstallation) : GitHubInstallationIndex where
  installationId := installation.installationId
  organisationId := session.organisationId
  onboardingId := session.id
  createdAt := installation.createdAt

def claimIndex (session : GitHubOnboardingSession) (installation : GitHubInstallation) : Except Error GitHubStore :=
  match store.indexes installation.installationId with
  | some document => do
    let index ← document.modelValidate
    raiseIf (index.organisationId ≠ session.organisationId)
      (.resourceConflict "GitHub installation is already connected to another organisation")
    raiseIf (index.deleted = true) (.resourceConflict "GitHub installation has been deleted")
    raiseIf (index.onboardingId ≠ session.id)
      (.resourceConflict "GitHub installation is already connected to this organisation")
    return store
  | none => do
    let index ← (newIndex session installation).modelValidate
    return { store with indexes := store.indexes.set installation.installationId index }

def staged (current : GitHubOnboardingSession) (installation : GitHubInstallation)
    (repositories : List GitHubRepositoryCandidate) : GitHubOnboardingSession :=
  { current with
    status := .discovered
    installationId := some installation.installationId
    installation := some installation
    repositories }

def stage (session : GitHubOnboardingSession) (installation : GitHubInstallation)
    (repositories : List GitHubRepositoryCandidate) : Except Error (GitHubOnboardingSession × GitHubStore) := do
  let document ← required (store.sessions (session.organisationId, session.id))
    (.storageIntegrity "GitHub onboarding disappeared before discovery")
  let current ← document.modelValidate
  if current.status = .pending then
    raiseIf (current ≠ session) (.resourceConflict "GitHub onboarding changed before discovery")
    let claimed ← store.claimIndex session installation
    return (staged current installation repositories, { claimed with
      sessions := claimed.sessions.set (session.organisationId, session.id) (staged current installation repositories) })
  else return (current, store)

/-- The index for the completion of a session, and the store that holds it; one of another session gives way unless it
is ready. -/
def reserve (session : GitHubOnboardingSession) (installation : GitHubInstallation) :
    Except Error (GitHubInstallationIndex × GitHubStore) :=
  match store.indexes installation.installationId with
  | some document => do
    let current ← document.modelValidate
    raiseIf (current.organisationId ≠ session.organisationId)
      (.resourceConflict "GitHub installation is already connected to another organisation")
    raiseIf (current.deleted = true) (.resourceConflict "GitHub installation has been deleted")
    if current.onboardingId ≠ session.id then
      raiseIf (current.ready = true) (.resourceConflict "GitHub installation is already connected to this organisation")
      let index ← (newIndex session installation).modelValidate
      return (index, { store with indexes := store.indexes.set installation.installationId index })
    else return (current, store)
  | none => do
    let index ← (newIndex session installation).modelValidate
    return (index, { store with indexes := store.indexes.set installation.installationId index })

def completed (current : GitHubOnboardingSession) (installation : GitHubInstallation) : GitHubOnboardingSession :=
  { current with
    status := .complete
    installationId := some installation.installationId
    completedAt := some installation.updatedAt }

def finish (session : GitHubOnboardingSession) (installation : GitHubInstallation) (index : GitHubInstallationIndex) :
    Except Error (GitHubOnboardingSession × GitHubStore) := do
  let document ← required (store.sessions (session.organisationId, session.id))
    (.storageIntegrity "GitHub onboarding reservation disappeared")
  let indexDocument ← required (store.indexes installation.installationId)
    (.storageIntegrity "GitHub onboarding reservation disappeared")
  let current ← document.modelValidate
  let currentIndex ← indexDocument.modelValidate
  if current.status = .complete then return (current, store)
  else
    raiseIf (current ≠ session ∨ currentIndex ≠ index) (.resourceConflict "GitHub onboarding changed before completion")
    return (completed current installation, { store with
      installations := store.installations.set (installation.organisationId, installation.installationId) installation
      sessions := store.sessions.set (session.organisationId, session.id) (completed current installation)
      indexes := store.indexes.set installation.installationId { index with ready := installation.ready } })

def write (repositories : List GitHubRepository) : GitHubStore :=
  { store with
    repositories := repositories.foldl
      (fun documents repository => documents.set (repository.organisationId, repository.repositoryId) repository)
      store.repositories }

def remove (repositories : List GitHubRepository) : GitHubStore :=
  { store with
    repositories := repositories.foldl
      (fun documents repository => documents.delete (repository.organisationId, repository.repositoryId))
      store.repositories }

/-- `installation`. -/
def getInstallation (organisationId : Identifier) (installationId : Int) : Except Error GitHubInstallation := do
  let document ← required (store.installations (organisationId, installationId))
    (.resourceNotFound s!"GitHub installation {installationId} was not found")
  document.modelValidate

def received (installation : GitHubInstallation) (receipt : GitHubWebhookReceipt) (active : Bool) : GitHubInstallation :=
  { installation with
    webhookVerifiedAt := some receipt.receivedAt
    active
    ready := active && installation.repositoriesReady
    updatedAt := receipt.receivedAt }

def recordReceipt (receipt : GitHubWebhookReceipt) : Except Error (Option GitHubInstallation × GitHubStore) :=
  let store := { store with receipts := store.receipts.set receipt.installationId receipt }
  match store.indexes receipt.installationId with
  | none => return (none, store)
  | some document => do
    let index ← document.modelValidate
    match store.installations (index.organisationId, receipt.installationId) with
    | none => return (none, store)
    | some document => do
      let installation ← document.modelValidate
      let active := index.active || (receipt.action.value == "unsuspend" && !index.deleted)
      return (some (received installation receipt active), { store with
        installations := store.installations.set (index.organisationId, receipt.installationId)
          (received installation receipt active)
        indexes := store.indexes.set receipt.installationId
          { index with active, ready := active && installation.repositoriesReady } })

/-- An index and the installation that it names, when there is one, after both have changed. -/
def change (installationId : Int) (installation : GitHubInstallation → GitHubInstallation)
    (index : GitHubInstallationIndex → GitHubInstallationIndex) : Except Error (Unit × GitHubStore) :=
  match store.indexes installationId with
  | none => return ((), store)
  | some document => do
    let current ← document.modelValidate
    let installations ← match store.installations (current.organisationId, installationId) with
      | none => pure store.installations
      | some document => do
        let known ← document.modelValidate
        pure (store.installations.set (current.organisationId, installationId) (installation known))
    return ((), { store with installations, indexes := store.indexes.set installationId (index current) })

def deactivate (installationId : Int) (occurredAt : AwareDatetime) (deleted : Bool) :
    Except Error (Unit × GitHubStore) :=
  store.change installationId
    (fun installation => { installation with
      active := false
      deleted := installation.deleted || deleted
      ready := false
      updatedAt := occurredAt })
    fun index => { index with active := false, deleted := index.deleted || deleted, ready := false }

def invalidateRepositories (installationId : Int) (occurredAt : AwareDatetime) : Except Error (Unit × GitHubStore) :=
  store.change installationId
    (fun installation => { installation with repositoriesReady := false, ready := false, updatedAt := occurredAt })
    fun index => { index with ready := false }

def getIndex (installationId : Int) : Except Error GitHubInstallationIndex := do
  let document ← required (store.indexes installationId)
    (.resourceNotFound s!"GitHub installation {installationId} is not connected")
  document.modelValidate

def getRepository (organisationId : Identifier) (repositoryId : Int) : Except Error GitHubRepository :=
  required (store.repositories (organisationId, repositoryId))
    (.resourceNotFound s!"GitHub repository {repositoryId} is not connected")

end GitHubStore
end Uumi.GitHub
