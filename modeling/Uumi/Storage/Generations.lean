import Uumi.Storage.Inventory

/-! The generation repository: six transactions over a credential, its generations and the
bindings of its consumers. -/
namespace Uumi.Storage
open Uumi.Contracts Uumi.Core Uumi.Foundations

def keysOf (organisationId : Identifier) (ids : List Identifier) : List (Identifier × Identifier) :=
  ids.map fun id => (organisationId, id)

namespace Generations

/-- A generation is created once; creating it again as it is changes nothing. -/
def create (store : InventoryStore) (generation : CredentialGeneration) :
    Except Error (CredentialGeneration × InventoryStore) :=
  match store.generations (generation.organisationId, generation.id) with
  | some current =>
    if current = generation then .ok (current, store)
    else .error (.resourceConflict s!"generation {generation.id.text} already exists")
  | none =>
    .ok (generation, { store with
      generations := store.generations.set (generation.organisationId, generation.id) generation })

def activated (target predecessor : CredentialGeneration) : CredentialGeneration :=
  { target with state := .active, predecessorId := some predecessor.id }

def superseded (predecessor target : CredentialGeneration) : CredentialGeneration :=
  { predecessor with state := .superseded, successorId := some target.id }

def promotedCredential (credential : CredentialFields) (target : CredentialGeneration)
    (report : VerificationReport) : CredentialFields :=
  { credential with
    activeGenerationId := some target.id
    providerId := target.providerId
    providerDisplayName := target.providerDisplayName
    secretReference := target.secretReference
    scopes := target.scopes
    expiresAt := target.expiresAt
    lastObservedAt := target.lastObservedAt
    metadataDigest := target.metadataDigest
    updatedAt := report.completedAt
    revision := credential.revision + 1 }

def promotedBinding (target : CredentialGeneration) (binding : ConsumerBinding) : ConsumerBinding :=
  { binding.stripped with
    currentGenerationId := target.id, targetGenerationId := none, revision := binding.revision + 1 }

/-- The binding uses the predecessor and verified the target with this report. -/
def Verified (credential : CredentialFields) (target predecessor : CredentialGeneration)
    (report : VerificationReport) (binding : ConsumerBinding) : Prop :=
  binding.credentialId = credential.id ∧ binding.currentGenerationId = predecessor.id ∧
  binding.targetGenerationId = some target.id ∧ binding.verificationReportId = some report.id

instance (credential : CredentialFields) (target predecessor : CredentialGeneration)
    (report : VerificationReport) (binding : ConsumerBinding) :
    Decidable (Verified credential target predecessor report binding) := by
  unfold Verified
  infer_instance

def checkPromotion (credential : CredentialFields) (target predecessor : CredentialGeneration)
    (predecessorId : Identifier) (report : VerificationReport) (bindings : List ConsumerBinding) :
    Except Error Unit := do
  raiseIf (credential.activeGenerationId ≠ some predecessorId)
    (.resourceConflict "credential predecessor changed before promotion")
  raiseIf (target.state ≠ .creating) (.resourceConflict "target generation is not awaiting promotion")
  raiseIf (predecessor.state ≠ .active) (.resourceConflict "predecessor generation is not active")
  raiseIf (target.credentialId ≠ credential.id ∨ predecessor.credentialId ≠ credential.id ∨
      report.generationId ≠ target.id ∨ report.status ≠ .passed)
    (.resourceConflict "generation lineage or verification is inconsistent")
  raiseIf ((bindings.map ConsumerBinding.serviceId).toFinset ≠ credential.consumerIds.toFinset)
    (.resourceConflict "not every credential consumer is included in promotion")
  forEach bindings fun binding => raiseIf (¬ Verified credential target predecessor report binding)
    (.resourceConflict "consumer binding has not verified the target")

def promote (store : InventoryStore) (organisationId credentialId targetId predecessorId reportId : Identifier)
    (bindingIds : List Identifier) : Except Error (CredentialGeneration × InventoryStore) := do
  let incomplete := Error.resourceNotFound "generation promotion inputs are incomplete"
  let document ← required (store.credentials (organisationId, credentialId)) incomplete
  let target ← required (store.generations (organisationId, targetId)) incomplete
  let predecessor ← required (store.generations (organisationId, predecessorId)) incomplete
  let report ← required (store.reports (organisationId, reportId)) incomplete
  let bindings ← required (store.bindings.getAll (keysOf organisationId bindingIds)) incomplete
  let credential ← ManagedCredential.modelValidate document
  forEach bindings ConsumerBinding.validate
  if credential.activeGenerationId = some targetId ∧ target.state = .active then
    return (target, store)
  else
    checkPromotion credential.toCredentialFields target predecessor predecessorId report bindings
    return (activated target predecessor, { store with
      generations := (store.generations.set (organisationId, targetId) (activated target predecessor)).set
        (organisationId, predecessorId) (superseded predecessor target)
      credentials := store.credentials.set (organisationId, credentialId)
        (promotedCredential credential.toCredentialFields target report)
      bindings := store.bindings.setAll
        ((keysOf organisationId bindingIds).zip (bindings.map (promotedBinding target))) })

def revoked (generation : CredentialGeneration) (now : AwareDatetime) : CredentialGeneration :=
  { generation with state := .revoked, revokedAt := some now }

def orphaned (generation : CredentialGeneration) : CredentialGeneration :=
  { generation with state := .orphaned }

def revoke (store : InventoryStore) (organisationId generationId reportId : Identifier)
    (revokedAt : AwareDatetime) : Except Error (CredentialGeneration × InventoryStore) := do
  let incomplete := Error.resourceNotFound "generation revocation evidence is incomplete"
  let generation ← required (store.generations (organisationId, generationId)) incomplete
  let report ← required (store.reports (organisationId, reportId)) incomplete
  if generation.state = .revoked then
    return (generation, store)
  else
    raiseIf (generation.state ≠ .superseded)
      (.resourceConflict "only a superseded generation can be revoked")
    raiseIf (report.status ≠ .passed ∨ report.organisationId ≠ organisationId ∨
        report.generationId ≠ generation.id)
      (.resourceConflict "revocation verification did not pass")
    return (revoked generation revokedAt, { store with
      generations := store.generations.set (organisationId, generationId) (revoked generation revokedAt) })

def orphan (store : InventoryStore) (organisationId generationId : Identifier) :
    Except Error (CredentialGeneration × InventoryStore) := do
  let generation ← required (store.generations (organisationId, generationId))
    (.resourceNotFound s!"generation {generationId.text} was not found")
  raiseIf (generation.state ∉ [.creating, .unknown])
    (.resourceConflict "only unactivated generations can be orphaned")
  return (orphaned generation, { store with
    generations := store.generations.set (organisationId, generationId) (orphaned generation) })

def stagedBinding (targetId : Identifier) (secretReference : String) (binding : ConsumerBinding) :
    ConsumerBinding :=
  { binding with
    targetGenerationId := some targetId, secretReference := secretReference,
    revision := binding.revision + 1 }

def stageBindings (store : InventoryStore) (organisationId credentialId targetId : Identifier)
    (secretReference : String) (bindingIds : List Identifier) :
    Except Error (List Identifier × InventoryStore) := do
  let bindings ← required (store.bindings.getAll (keysOf organisationId bindingIds))
    (.resourceNotFound "consumer deployment bindings are incomplete")
  forEach bindings ConsumerBinding.validate
  raiseIf (∃ binding ∈ bindings, binding.credentialId ≠ credentialId)
    (.resourceConflict "consumer binding belongs to another credential")
  forEach bindings fun binding =>
    raiseIf (binding.targetGenerationId ∉ [none, some targetId])
      (.resourceConflict "consumer binding targets another generation")
  return (bindings.map ConsumerBinding.id, { store with
    bindings := store.bindings.setAll
      ((keysOf organisationId bindingIds).zip (bindings.map (stagedBinding targetId secretReference))) })

def verifiedBinding (reportId : Identifier) (binding : ConsumerBinding) : ConsumerBinding :=
  { binding.stripped with verificationReportId := some reportId, revision := binding.revision + 1 }

def verifyBindings (store : InventoryStore) (organisationId targetId reportId : Identifier)
    (bindingIds : List Identifier) : Except Error (List Identifier × InventoryStore) := do
  let incomplete := Error.resourceNotFound "consumer verification evidence is incomplete"
  let report ← required (store.reports (organisationId, reportId)) incomplete
  let bindings ← required (store.bindings.getAll (keysOf organisationId bindingIds)) incomplete
  raiseIf (report.status ≠ .passed ∨ report.generationId ≠ targetId)
    (.resourceConflict "consumer verification report did not pass")
  forEach bindings ConsumerBinding.validate
  forEach bindings fun binding =>
    raiseIf (binding.targetGenerationId ≠ some targetId)
      (.resourceConflict "consumer binding does not target the generation")
  return (bindings.map ConsumerBinding.id, { store with
    bindings := store.bindings.setAll
      ((keysOf organisationId bindingIds).zip (bindings.map (verifiedBinding reportId))) })

end Generations

/-- `save_report` of the verification repository: a report is written once. -/
def saveReport (store : InventoryStore) (report : VerificationReport) :
    Except Error (VerificationReport × InventoryStore) :=
  match store.reports (report.organisationId, report.id) with
  | some existing =>
    if existing = report then .ok (existing, store)
    else .error (.resourceConflict
      s!"verification report {report.id.text} already has a different result")
  | none =>
    .ok (report, { store with reports := store.reports.set (report.organisationId, report.id) report })

/-- A saved report is new, or it was saved before as it is. -/
theorem saveReport_ok {store store' : InventoryStore} {report result : VerificationReport}
    (h : saveReport store report = .ok (result, store')) :
    result = report ∧
      (store.reports (report.organisationId, report.id) = none ∨
        store.reports (report.organisationId, report.id) = some report) ∧
      store' = { store with reports := store.reports.set (report.organisationId, report.id) report } := by
  unfold saveReport at h
  split at h
  · rename_i existing hexisting
    split at h
    · rename_i heq
      cases h
      subst heq
      rw [show store.reports.set _ _ = store.reports from Function.update_eq_self_iff.mpr hexisting.symm]
      exact ⟨rfl, .inr hexisting, rfl⟩
    · cases h
  · rename_i hnone
    cases h
    exact ⟨rfl, .inl hnone, rfl⟩

end Uumi.Storage
