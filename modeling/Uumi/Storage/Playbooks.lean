import Uumi.Contracts.Playbook
import Uumi.Foundations.Documents
import Uumi.Foundations.Results

/-! The playbook repository: playbooks, and the versions of their definitions. -/
namespace Uumi.Contracts
open Uumi.Core Uumi.Foundations

def PlaybookState.value : PlaybookState → String
  | .draft => "draft"
  | .published => "published"
  | .superseded => "superseded"
  | .review => "review-required"

/-- A stored playbook. Its name may have been written without a check, and is checked when it is read. -/
structure Playbook where
  id : Identifier
  organisationId : Identifier
  name : String
  platform : String
  latestVersion : Nat := 0
  latestVersionId : Option Identifier := none
  activeVersionId : Option Identifier := none
  createdAt : AwareDatetime
  updatedAt : AwareDatetime
  archivedAt : Option AwareDatetime := none
  revision : Nat := 0
  deriving DecidableEq

def Playbook.modelValidate (playbook : Playbook) : Except Error Playbook := do
  let name ← Text.build 1 160 "name" playbook.name
  let platform ← Text.build 1 64 "platform" playbook.platform
  return { playbook with name := name.value, platform := platform.value }

end Uumi.Contracts

namespace Uumi.Storage
open Uumi.Contracts Uumi.Core Uumi.Foundations

/-- Playbooks are under organisation and id, versions under organisation, playbook and id. -/
structure PlaybookStore where
  playbooks : Collection (Identifier × Identifier) Playbook
  versions : Collection (Identifier × Identifier × Identifier) PlaybookVersion

namespace PlaybookStore
variable (store : PlaybookStore)

def empty : PlaybookStore := ⟨Collection.empty, Collection.empty⟩

def get (organisationId playbookId : Identifier) : Except Error Playbook := do
  let stored ← required (store.playbooks (organisationId, playbookId))
    (.resourceNotFound s!"resource {playbookId.text} was not found")
  stored.modelValidate

def getVersion (organisationId playbookId versionId : Identifier) : Except Error PlaybookVersion :=
  required (store.versions (organisationId, playbookId, versionId))
    (.resourceNotFound s!"playbook version {versionId.text} was not found")

def replace (value : Playbook) (expectedRevision : Int) : Except Error (Playbook × PlaybookStore) := do
  let current ← store.get value.organisationId value.id
  raiseIf ((current.revision : Int) ≠ expectedRevision)
    (.resourceConflict s!"resource {value.id.text} expected revision {expectedRevision}, found {current.revision}")
  raiseIf (current.id ≠ value.id ∨ current.organisationId ≠ value.organisationId ∨
      current.createdAt ≠ value.createdAt)
    (.playbook "playbook replacement changed immutable identity")
  raiseIf ((value.revision : Int) ≠ expectedRevision + 1)
    (.storageIntegrity "catalog updates must advance revision exactly once")
  return (value, { store with playbooks := store.playbooks.set (value.organisationId, value.id) value })

def withVersion (root : Option Playbook) (playbookId versionId organisationId : Identifier)
    (definition : PlaybookDraft) (createdAt : AwareDatetime) : Except Error Playbook :=
  match root with
  | some stored => do
    let root ← stored.modelValidate
    raiseIf (root.archivedAt ≠ none) (.playbook "archived playbooks cannot receive new versions")
    raiseIf (root.platform ≠ definition.platform.value ∨ root.name ≠ definition.name.value)
      (.playbook "playbook identity cannot change across versions")
    return { root with
      latestVersion := root.latestVersion + 1
      latestVersionId := some versionId
      updatedAt := createdAt
      revision := root.revision + 1 }
  | none => .ok {
      id := playbookId
      organisationId
      name := definition.name.value
      platform := definition.platform.value
      latestVersion := 1
      latestVersionId := some versionId
      createdAt
      updatedAt := createdAt }

def addVersion (playbookId versionId organisationId : Identifier) (definition : PlaybookDraft)
    (definitionDigest : Digest) (actorId : Identifier) (createdAt : AwareDatetime) (sourceIds : List Identifier) :
    Except Error ((Playbook × PlaybookVersion) × PlaybookStore) := do
  absent (store.versions (organisationId, playbookId, versionId)) fun _ =>
    .resourceConflict s!"playbook version {versionId.text} already exists"
  let changed ← withVersion (store.playbooks (organisationId, playbookId)) playbookId versionId organisationId definition
    createdAt
  let version : PlaybookVersion := {
    id := versionId
    organisationId
    playbookId
    number := changed.latestVersion
    definition
    digest := definitionDigest
    state := .draft
    sourceIds
    createdBy := actorId
    createdAt
    published := nofun }
  return ((changed, version), {
    playbooks := store.playbooks.set (organisationId, playbookId) changed
    versions := store.versions.set (organisationId, playbookId, versionId) version })

def superseded (previous : PlaybookVersion) : PlaybookVersion :=
  { previous with state := .superseded, published := nofun }

def supersede (organisationId playbookId : Identifier) (active : Option Identifier) (versionId : Identifier) :
    Except Error (Collection (Identifier × Identifier × Identifier) PlaybookVersion) :=
  match active with
  | none => .ok store.versions
  | some activeId =>
    if activeId = versionId then .ok store.versions
    else do
      let previous ← required (store.versions (organisationId, playbookId, activeId))
        (.playbook "published playbook version is missing")
      raiseIf (previous.id ≠ activeId ∨ previous.organisationId ≠ organisationId ∨ previous.playbookId ≠ playbookId)
        (.playbook "published playbook version identity is invalid")
      return store.versions.set (organisationId, playbookId, activeId) (superseded previous)

def publishedBy (version : PlaybookVersion) (actorId : Identifier) (publishedAt : AwareDatetime) : PlaybookVersion :=
  { version with
    state := .published
    publication := some (actorId, publishedAt)
    published := fun _ => Option.some_ne_none _ }

def publish (organisationId playbookId versionId actorId : Identifier) (publishedAt : AwareDatetime) :
    Except Error (PlaybookVersion × PlaybookStore) := do
  let stored ← required (store.playbooks (organisationId, playbookId))
    (.resourceNotFound "playbook publication inputs are incomplete")
  let version ← required (store.versions (organisationId, playbookId, versionId))
    (.resourceNotFound "playbook publication inputs are incomplete")
  let root ← stored.modelValidate
  raiseIf (root.archivedAt ≠ none) (.playbook "archived playbooks cannot publish versions")
  if version.state = .published then return (version, store)
  else do
    raiseIf (version.state ≠ .draft) (.playbook s!"playbook version cannot publish from {version.state.value}")
    let versions ← store.supersede organisationId playbookId root.activeVersionId version.id
    return (publishedBy version actorId publishedAt, {
      playbooks := store.playbooks.set (organisationId, playbookId)
        { root with activeVersionId := some version.id, updatedAt := publishedAt, revision := root.revision + 1 }
      versions := versions.set (organisationId, playbookId, versionId)
        (publishedBy version actorId publishedAt) })

end PlaybookStore
end Uumi.Storage
