import Uumi.Storage.Inventory

/-! The transactions that update a credential under the revision that its writer read. -/
namespace Uumi.Storage
open Uumi.Contracts Uumi.Core Uumi.Foundations

def credentialPath (o id : Identifier) : String := s!"organisations/{o.text}/credentials/{id.text}"

/-- What a monitor observed of a credential at its provider. -/
structure Observation where
  generationId : Identifier
  observedAt : AwareDatetime
  expiresAt : Option AwareDatetime
  rotationDueAt : Option AwareDatetime
  metadataDigest : Digest

section
variable (store : InventoryStore)

def getCredential (o id : Identifier) : Except Error ManagedCredential := do
  let document ← required (store.credentials (o, id)) (.resourceNotFound s!"resource {credentialPath o id} was not found")
  ManagedCredential.modelValidate document

def replaceCredential (value : ManagedCredential) (expectedRevision : Nat) :
    Except Error (CredentialFields × InventoryStore) := do
  let path := credentialPath value.organisationId value.id
  let current ← getCredential store value.organisationId value.id
  raiseIf (current.revision ≠ expectedRevision)
    (.resourceConflict s!"resource {path} expected revision {expectedRevision}, found {current.revision}")
  raiseIf (current.id ≠ value.id ∨ current.organisationId ≠ value.organisationId ∨
      current.createdAt.instant ≠ value.createdAt.instant)
    (.storageIntegrity "inventory replacement changed immutable identity")
  raiseIf (value.revision ≠ expectedRevision + 1)
    (.storageIntegrity "catalog updates must advance revision exactly once")
  return (value.toCredentialFields, { store with
    credentials := store.credentials.set (value.organisationId, value.id) value.toCredentialFields })

/-- `replace_controls`: the credential is written with the controls that it names. -/
def replaceControls (credential : ManagedCredential) (expectedRevision : Nat) (controls : ControlVersion) :
    Except Error (CredentialFields × InventoryStore) := do
  let document ← required (store.credentials (credential.organisationId, credential.id))
    (.resourceNotFound s!"credential {credential.id.text} was not found")
  raiseIf (store.controls (controls.organisationId, controls.credentialId, controls.id)).isSome
    (.resourceConflict s!"control version {controls.id.text} already exists")
  let current ← ManagedCredential.modelValidate document
  raiseIf (current.revision ≠ expectedRevision)
    (.resourceConflict s!"credential expected revision {expectedRevision}, found {current.revision}")
  raiseIf (credential.revision ≠ expectedRevision + 1 ∨ credential.controlVersion ≠ controls.id ∨
      controls.credentialId ≠ credential.id ∨ controls.organisationId ≠ credential.organisationId)
    (.storageIntegrity "credential controls update is inconsistent")
  return (credential.toCredentialFields, { store with
    controls := store.controls.set (controls.organisationId, controls.credentialId, controls.id) controls
    credentials := store.credentials.set (credential.organisationId, credential.id) credential.toCredentialFields })

namespace Observation
variable (observation : Observation)

def observedGeneration (generation : CredentialGeneration) : CredentialGeneration :=
  { generation with
    expiresAt := observation.expiresAt
    lastObservedAt := some observation.observedAt
    metadataDigest := some observation.metadataDigest }

def observed (credential : CredentialFields) : CredentialFields :=
  { credential with
    expiresAt := observation.expiresAt
    rotationDueAt := observation.rotationDueAt
    lastObservedAt := some observation.observedAt
    metadataDigest := some observation.metadataDigest
    updatedAt := observation.observedAt }

end Observation

/-- `record_observation`. What it writes is not validated again. -/
def recordObservation (o id : Identifier) (expectedRevision : Nat) (observation : Observation) :
    Except Error (CredentialFields × InventoryStore) := do
  let missing := Error.resourceNotFound "credential observation target is missing"
  let document ← required (store.credentials (o, id)) missing
  let generation ← required (store.generations (o, observation.generationId)) missing
  let credential ← ManagedCredential.modelValidate document
  raiseIf (credential.revision ≠ expectedRevision)
    (.resourceConflict s!"credential expected revision {expectedRevision}, found {credential.revision}")
  raiseIf (credential.activeGenerationId ≠ some generation.id ∨ generation.credentialId ≠ credential.id)
    (.resourceConflict "credential observation generation changed")
  let changed := observation.observed credential.toCredentialFields
  return (changed, { store with
    generations := store.generations.set (o, observation.generationId) (observation.observedGeneration generation)
    credentials := store.credentials.set (o, id) changed })

end

section
variable {store after : InventoryStore} {result : CredentialFields}

/-- A credential that is read is the stored one. -/
theorem getCredential_ok {o id : Identifier} {credential : ManagedCredential} :
    getCredential store o id = .ok credential ↔ store.credentials (o, id) = some credential.toCredentialFields := by
  unfold getCredential
  rw [required_bind_ok]
  constructor
  · rintro ⟨document, hdocument, h⟩
    rw [hdocument, (ManagedCredential.modelValidate_ok _ _).mp h]
  · intro h
    exact ⟨_, h, (ManagedCredential.modelValidate_ok _ _).mpr rfl⟩

/-- A replacement is written over the stored credential at the expected revision, and is the next one. -/
theorem replaceCredential_writes {value : ManagedCredential} {expected : Nat}
    (h : replaceCredential store value expected = .ok (result, after)) :
    ∃ current, store.credentials (value.organisationId, value.id) = some current ∧ current.revision = expected ∧
      value.revision = expected + 1 ∧
      after.credentials = store.credentials.set (value.organisationId, value.id) value.toCredentialFields := by
  unfold replaceCredential at h
  rw [bind_ok] at h
  obtain ⟨current, hread, h⟩ := h
  simp only [unit_bind_ok, raiseIf_ok, not_not, pure_ok, Prod.mk.injEq] at h
  obtain ⟨hrevision, -, hvalue, -, rfl⟩ := h
  exact ⟨_, getCredential_ok.mp hread, hrevision, hvalue, rfl⟩

/-- New controls are written with the next revision of their credential. -/
theorem replaceControls_writes {value : ManagedCredential} {expected : Nat} {controls : ControlVersion}
    (h : replaceControls store value expected controls = .ok (result, after)) :
    ∃ current, store.credentials (value.organisationId, value.id) = some current ∧ current.revision = expected ∧
      value.revision = expected + 1 ∧
      after.credentials = store.credentials.set (value.organisationId, value.id) value.toCredentialFields := by
  unfold replaceControls at h
  rw [required_bind_ok] at h
  obtain ⟨document, hdocument, h⟩ := h
  rw [unit_bind_ok, bind_ok] at h
  obtain ⟨-, current, hcurrent, h⟩ := h
  simp only [unit_bind_ok, raiseIf_ok, not_or, not_not, pure_ok, Prod.mk.injEq] at h
  obtain ⟨hrevision, ⟨hvalue, -⟩, -, rfl⟩ := h
  rw [← (ManagedCredential.modelValidate_ok _ _).mp hcurrent] at hdocument
  exact ⟨_, hdocument, hrevision, hvalue, rfl⟩

/-- An observation is written into the credential and its generation. -/
theorem recordObservation_writes {o id : Identifier} {expected : Nat} {observation : Observation}
    (h : recordObservation store o id expected observation = .ok (result, after)) :
    ∃ current, store.credentials (o, id) = some current ∧ current.revision = expected ∧
      after.credentials = store.credentials.set (o, id) (observation.observed current) := by
  unfold recordObservation at h
  simp only [required_bind_ok] at h
  obtain ⟨document, hdocument, generation, -, h⟩ := h
  rw [bind_ok] at h
  obtain ⟨current, hcurrent, h⟩ := h
  simp only [unit_bind_ok, raiseIf_ok, not_not, pure_ok, Prod.mk.injEq] at h
  obtain ⟨hrevision, -, -, rfl⟩ := h
  rw [← (ManagedCredential.modelValidate_ok _ _).mp hcurrent] at hdocument
  exact ⟨_, hdocument, hrevision, rfl⟩

/-- A replacement touches the credentials alone. -/
theorem replaceCredential_frame {value : ManagedCredential} {expected : Nat}
    (h : replaceCredential store value expected = .ok (result, after)) :
    after = { store with credentials := after.credentials } := by
  unfold replaceCredential at h
  rw [bind_ok] at h
  obtain ⟨current, -, h⟩ := h
  simp only [unit_bind_ok, pure_ok, Prod.mk.injEq] at h
  obtain ⟨-, -, -, -, rfl⟩ := h
  rfl

/-- New controls touch the controls and the credentials alone. -/
theorem replaceControls_frame {value : ManagedCredential} {expected : Nat} {controls : ControlVersion}
    (h : replaceControls store value expected controls = .ok (result, after)) :
    after = { store with controls := after.controls, credentials := after.credentials } := by
  unfold replaceControls at h
  rw [required_bind_ok] at h
  obtain ⟨document, -, h⟩ := h
  rw [unit_bind_ok, bind_ok] at h
  obtain ⟨-, current, -, h⟩ := h
  simp only [unit_bind_ok, pure_ok, Prod.mk.injEq] at h
  obtain ⟨-, -, -, rfl⟩ := h
  rfl

/-- An observation touches the generations and the credentials alone. -/
theorem recordObservation_frame {o id : Identifier} {expected : Nat} {observation : Observation}
    (h : recordObservation store o id expected observation = .ok (result, after)) :
    after = { store with generations := after.generations, credentials := after.credentials } := by
  unfold recordObservation at h
  simp only [required_bind_ok] at h
  obtain ⟨document, -, generation, -, h⟩ := h
  rw [bind_ok] at h
  obtain ⟨current, -, h⟩ := h
  simp only [unit_bind_ok, pure_ok, Prod.mk.injEq] at h
  obtain ⟨-, -, -, rfl⟩ := h
  rfl

end
end Uumi.Storage
