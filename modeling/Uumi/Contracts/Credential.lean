import Mathlib
import Uumi.Contracts.Plan

/-! Managed credentials, the generations of their secrets and the bindings of their consumers. -/
namespace Uumi.Contracts
open Uumi.Core Uumi.Foundations

/-- One secret of a credential, from its creation to its revocation. -/
structure CredentialGeneration where
  id : Identifier
  organisationId : Identifier
  credentialId : Identifier
  providerId : Option (Text 0 256) := none
  providerDisplayName : Option (Text 0 256) := none
  fingerprint : Option (Text 8 256) := none
  scopes : Finset String := ∅
  state : GenerationState
  attemptId : Identifier
  secretReference : Option (Text 0 1024) := none
  predecessorId : Option Identifier := none
  successorId : Option Identifier := none
  expiresAt : Option AwareDatetime := none
  lastObservedAt : Option AwareDatetime := none
  metadataDigest : Option Digest := none
  createdAt : AwareDatetime
  revokedAt : Option AwareDatetime := none
  deriving DecidableEq

/-- The use of a credential by one service. Staging writes its secret reference unchecked. -/
structure ConsumerBinding where
  id : Identifier
  organisationId : Identifier
  credentialId : Identifier
  serviceId : Identifier
  environmentId : Identifier
  runtimeConnectionId : Identifier
  runtimeResource : Text 1 512
  runtimeSecretName : Text 1 256
  runtimeContainerName : Option (Text 1 63) := none
  secretReference : String
  currentGenerationId : Identifier
  targetGenerationId : Option Identifier := none
  verificationReportId : Option Identifier := none
  required : Bool := true
  revision : Nat := 0
  deriving DecidableEq

/-- A binding document as it is read: its texts are stripped, and the others were when they were written. -/
def ConsumerBinding.stripped (binding : ConsumerBinding) : ConsumerBinding :=
  { binding with secretReference := strip binding.secretReference }

def ConsumerBinding.validate (binding : ConsumerBinding) : Except Error Unit :=
  raiseIf (binding.stripped.secretReference.length < 1 ∨ 1024 < binding.stripped.secretReference.length)
    (.validation "secret_reference should have between 1 and 1024 characters")

/-- The characters before the first occurrence of a separator, all of them when there is none. -/
def before (separator : List Char) : List Char → List Char
  | [] => []
  | c :: cs => if separator.isPrefixOf (c :: cs) then [] else c :: before separator cs

def secretResourceOf (reference : String) : String :=
  String.ofList (before "/versions/".toList reference.toList)

/-- The fields of a credential document. A promotion writes them without validating them again. -/
structure CredentialFields where
  id : Identifier
  organisationId : Identifier
  connectionId : Identifier
  secretStoreConnectionId : Identifier
  secretResource : Text 1 1024
  secretReference : Option (Text 0 1024)
  provider : Text 1 64
  kind : Text 1 64
  displayName : Text 1 160
  providerId : Option (Text 0 256) := none
  providerDisplayName : Option (Text 0 256) := none
  scopes : Finset String := ∅
  consumerIds : List Identifier := []
  activeGenerationId : Option Identifier := none
  controlVersion : Identifier
  expiresAt : Option AwareDatetime := none
  rotationDueAt : Option AwareDatetime := none
  lastObservedAt : Option AwareDatetime := none
  metadataDigest : Option Digest := none
  createdAt : AwareDatetime
  updatedAt : AwareDatetime
  archivedAt : Option AwareDatetime := none
  revision : Nat := 0
  deriving DecidableEq

def CredentialFields.validateRotationDue (credential : CredentialFields) : Except Error Unit := do
  raiseIf (((credential.secretReference.map Text.value).getD "") = "")
    (.validation "secret_reference should be a string with at least 1 character")
  raiseIf (secretResourceOf ((credential.secretReference.map Text.value).getD "") ≠
      credential.secretResource.value)
    (.validation "credential secret reference must belong to its secret resource")
  raiseIf (¬ credential.consumerIds.Nodup) (.validation "credential consumer IDs must be unique")
  raiseIf (credential.rotationDueAt ≠ none ∧ credential.expiresAt = none)
    (.validation "a credential rotation due time requires an expiry")
  raiseIf (∃ due ∈ credential.rotationDueAt, ∃ expires ∈ credential.expiresAt, expires < due)
    (.validation "credential rotation must be due no later than expiry")

/-- A credential that its model validator accepts. -/
structure ManagedCredential extends CredentialFields where
  accepted : CredentialFields.validateRotationDue toCredentialFields = .ok ()
  deriving DecidableEq

namespace ManagedCredential

def modelValidate (fields : CredentialFields) : Except Error ManagedCredential :=
  match h : fields.validateRotationDue with
  | .ok () => .ok ⟨fields, h⟩
  | .error e => .error e

/-- The validator accepts a credential exactly when it has these fields. -/
theorem modelValidate_ok (fields : CredentialFields) (credential : ManagedCredential) :
    modelValidate fields = .ok credential ↔ credential.toCredentialFields = fields := by
  unfold modelValidate
  constructor
  · split
    · intro h
      cases h
      rfl
    · nofun
  · rintro rfl
    split
    · rfl
    · rename_i e he
      rw [credential.accepted] at he
      cases he

/-- No consumer of a credential is listed twice. -/
theorem consumers_unique (credential : ManagedCredential) : credential.consumerIds.Nodup := by
  have h := credential.accepted
  simp only [CredentialFields.validateRotationDue, unit_bind_ok, raiseIf_ok, not_not] at h
  exact h.2.2.1

end ManagedCredential
end Uumi.Contracts
