import Uumi.Foundations.Optimistic
import Uumi.Storage.Credentials

/-! Writers of one credential, each of which read it before: which of their updates are lost. -/
namespace Uumi.Storage
open Uumi.Contracts Uumi.Core Uumi.Foundations

/-- The fields of a credential document. -/
inductive CredentialField where
  | id | organisationId | connectionId | secretStoreConnectionId | secretResource | secretReference | provider | kind
  | displayName | providerId | providerDisplayName | scopes | consumerIds | activeGenerationId | controlVersion
  | expiresAt | rotationDueAt | lastObservedAt | metadataDigest | createdAt | updatedAt | archivedAt | revision
  deriving DecidableEq

namespace CredentialField

def Value : CredentialField → Type
  | .id | .organisationId | .connectionId | .secretStoreConnectionId | .controlVersion => Identifier
  | .secretResource => Text 1 1024
  | .secretReference => Option (Text 0 1024)
  | .provider | .kind => Text 1 64
  | .displayName => Text 1 160
  | .providerId | .providerDisplayName => Option (Text 0 256)
  | .scopes => Finset String
  | .consumerIds => List Identifier
  | .activeGenerationId => Option Identifier
  | .expiresAt | .rotationDueAt | .lastObservedAt | .archivedAt => Option AwareDatetime
  | .metadataDigest => Option Digest
  | .createdAt | .updatedAt => AwareDatetime
  | .revision => Nat

def get : (field : CredentialField) → CredentialFields → field.Value
  | .id, credential => credential.id
  | .organisationId, credential => credential.organisationId
  | .connectionId, credential => credential.connectionId
  | .secretStoreConnectionId, credential => credential.secretStoreConnectionId
  | .secretResource, credential => credential.secretResource
  | .secretReference, credential => credential.secretReference
  | .provider, credential => credential.provider
  | .kind, credential => credential.kind
  | .displayName, credential => credential.displayName
  | .providerId, credential => credential.providerId
  | .providerDisplayName, credential => credential.providerDisplayName
  | .scopes, credential => credential.scopes
  | .consumerIds, credential => credential.consumerIds
  | .activeGenerationId, credential => credential.activeGenerationId
  | .controlVersion, credential => credential.controlVersion
  | .expiresAt, credential => credential.expiresAt
  | .rotationDueAt, credential => credential.rotationDueAt
  | .lastObservedAt, credential => credential.lastObservedAt
  | .metadataDigest, credential => credential.metadataDigest
  | .createdAt, credential => credential.createdAt
  | .updatedAt, credential => credential.updatedAt
  | .archivedAt, credential => credential.archivedAt
  | .revision, credential => credential.revision

def view (field : CredentialField) (document : Option CredentialFields) : Option field.Value := document.map field.get

def observed : Set CredentialField :=
  {.expiresAt, .rotationDueAt, .lastObservedAt, .metadataDigest, .updatedAt}

private theorem get_observed (observation : Observation) (credential : CredentialFields) {field : CredentialField}
    (h : field ∉ observed) : field.get (observation.observed credential) = field.get credential := by
  cases field <;> first | rfl | exact absurd (by simp [observed]) h

end CredentialField

/-- A write that a caller computed from a credential. -/
inductive CredentialWrite where
  | observe (o id : Identifier) (observation : Observation)
  | replace (value : ManagedCredential)
  | reassign (value : ManagedCredential) (controls : ControlVersion)

namespace CredentialWrite

def key : CredentialWrite → Identifier × Identifier
  | .observe o id _ => (o, id)
  | .replace value => (value.organisationId, value.id)
  | .reassign value _ => (value.organisationId, value.id)

def isObservation : CredentialWrite → Bool
  | .observe .. => true
  | _ => false

def perform (write : CredentialWrite) (store : InventoryStore) (expectedRevision : Nat) :
    Except Error (CredentialFields × InventoryStore) :=
  match write with
  | .observe o id observation => recordObservation store o id expectedRevision observation
  | .replace value => replaceCredential store value expectedRevision
  | .reassign value controls => replaceControls store value expectedRevision controls

/-- The fields that are written: all of them, except by an observation. -/
def written : CredentialWrite → Set CredentialField
  | .observe .. => CredentialField.observed
  | _ => Set.univ

/-- The fields that the caller, who read the credential, changes. -/
def assigned (write : CredentialWrite) (read : CredentialFields) : Set CredentialField :=
  match write with
  | .observe .. => CredentialField.observed
  | .replace value | .reassign value _ => {field | field.get value.toCredentialFields ≠ field.get read}

end CredentialWrite

/-- Writers in any order. The caller of step `n` read the credential in the store as it was at `readAt n`. -/
structure CredentialRun where
  store : ℕ → InventoryStore
  readAt : ℕ → ℕ
  read : ℕ → ManagedCredential
  write : ℕ → CredentialWrite
  earlier : ∀ n, readAt n ≤ n
  reads : ∀ n, getCredential (store (readAt n)) (write n).key.1 (write n).key.2 = .ok (read n)
  next : ∀ n, store (n + 1) =
    match (write n).perform (store n) (read n).revision with
    | .ok (_, after) => after
    | .error _ => store n

namespace CredentialRun
variable (run : CredentialRun) (key : Identifier × Identifier)

/-- Step `n` reports that its update of the credential was applied. -/
def Applied (n : ℕ) : Prop :=
  (run.write n).key = key ∧ ∃ result, (run.write n).perform (run.store n) (run.read n).revision = .ok result

def updates : Updates (Option CredentialFields) CredentialField where
  document n := (run.store n).credentials key
  read := run.readAt
  applied := run.Applied key
  written n := (run.write n).written
  assigned n := (run.write n).assigned (run.read n).toCredentialFields

/-- No update of the credential is lost. -/
def LosesNothing : Prop := (run.updates key).LosesNothing CredentialField.view

/-- No observation of the credential is applied between the read of an update and the update. -/
def Unobserved : Prop :=
  ∀ n j, run.Applied key n → run.readAt n ≤ j → j < n → run.Applied key j → (run.write j).isObservation = false

variable {run key}

private theorem Applied.step {n : ℕ} (h : run.Applied key n) : ∃ current changed,
    (run.store n).credentials key = some current ∧ (run.store (n + 1)).credentials key = some changed ∧
      current.revision = (run.read n).revision ∧
      changed.revision = current.revision + (if (run.write n).isObservation then 0 else 1) ∧
      ∀ field, field ∉ (run.write n).assigned (run.read n).toCredentialFields →
        field.get changed = field.get (if (run.write n).isObservation then current else (run.read n).toCredentialFields) := by
  obtain ⟨rfl, ⟨result, after⟩, h⟩ := h
  have hnext := run.next n
  rw [h] at hnext
  rw [hnext]
  cases hwrite : run.write n with
  | observe o id observation =>
    rw [hwrite] at h
    obtain ⟨current, hcurrent, hrevision, hafter⟩ := recordObservation_writes h
    refine ⟨current, observation.observed current, hcurrent, ?_, hrevision, rfl, fun field hfield => ?_⟩
    · exact (congrFun hafter _).trans (Collection.set_same _ _ _)
    · exact CredentialField.get_observed observation current hfield
  | replace value =>
    rw [hwrite] at h
    obtain ⟨current, hcurrent, hrevision, hvalue, hafter⟩ := replaceCredential_writes h
    refine ⟨current, value.toCredentialFields, hcurrent, ?_, hrevision, ?_, fun field hfield => not_not.mp hfield⟩
    · exact (congrFun hafter _).trans (Collection.set_same _ _ _)
    · rw [hvalue, hrevision]
      rfl
  | reassign value controls =>
    rw [hwrite] at h
    obtain ⟨current, hcurrent, hrevision, hvalue, hafter⟩ := replaceControls_writes h
    refine ⟨current, value.toCredentialFields, hcurrent, ?_, hrevision, ?_, fun field hfield => not_not.mp hfield⟩
    · exact (congrFun hafter _).trans (Collection.set_same _ _ _)
    · rw [hvalue, hrevision]
      rfl

private theorem perform_other {write : CredentialWrite} {store after : InventoryStore} {expected : Nat}
    {result : CredentialFields} (h : write.perform store expected = .ok (result, after)) (hne : write.key ≠ key) :
    after.credentials key = store.credentials key := by
  cases write with
  | observe o id observation =>
    obtain ⟨current, -, -, hafter⟩ := recordObservation_writes h
    rw [hafter]
    exact Collection.set_of_ne hne.symm
  | replace value =>
    obtain ⟨current, -, -, -, hafter⟩ := replaceCredential_writes h
    rw [hafter]
    exact Collection.set_of_ne hne.symm
  | reassign value controls =>
    obtain ⟨current, -, -, -, hafter⟩ := replaceControls_writes h
    rw [hafter]
    exact Collection.set_of_ne hne.symm

private theorem document_kept {n : ℕ} (h : ¬ run.Applied key n) :
    (run.store (n + 1)).credentials key = (run.store n).credentials key := by
  have hnext := run.next n
  cases hperform : (run.write n).perform (run.store n) (run.read n).revision with
  | error e =>
    rw [hperform] at hnext
    rw [hnext]
  | ok result =>
    rw [hperform] at hnext
    rw [hnext]
    exact perform_other hperform fun hkey => h ⟨hkey, result, hperform⟩

private theorem revision_mono {n : ℕ} {current : CredentialFields}
    (h : (run.store n).credentials key = some current) {m : ℕ} (hle : n ≤ m) :
    ∃ later, (run.store m).credentials key = some later ∧ current.revision ≤ later.revision := by
  induction m, hle using Nat.le_induction with
  | base => exact ⟨current, h, le_rfl⟩
  | succ m hm ih =>
    obtain ⟨later, hlater, hle⟩ := ih
    by_cases happlied : run.Applied key m
    · obtain ⟨before, changed, hbefore, hchanged, -, hrevision, -⟩ := happlied.step
      obtain rfl := Option.some.inj (hlater.symm.trans hbefore)
      refine ⟨changed, hchanged, ?_⟩
      rw [hrevision]
      omega
    · exact ⟨later, (document_kept happlied).trans hlater, hle⟩

private theorem read_document {n : ℕ} (h : run.Applied key n) :
    (run.store (run.readAt n)).credentials key = some (run.read n).toCredentialFields := by
  rw [← h.1]
  exact getCredential_ok.mp (run.reads n)

private theorem fresh_of_unobserved (h : run.Unobserved key) {n : ℕ} (happlied : run.Applied key n) :
    (run.updates key).Fresh n := by
  intro j hle hlt hj
  change run.Applied key j at hj
  have hobserved := h n j happlied hle hlt hj
  obtain ⟨before, changed, hbefore, hchanged, -, hadvanced, -⟩ := hj.step
  rw [hobserved] at hadvanced
  obtain ⟨since, hsince, hread⟩ := revision_mono (read_document happlied) hle
  obtain rfl := Option.some.inj (hbefore.symm.trans hsince)
  obtain ⟨current, hcurrent, hlater⟩ := revision_mono hchanged hlt
  obtain ⟨stored, -, hstored, -, hrevision, -⟩ := happlied.step
  obtain rfl := Option.some.inj (hcurrent.symm.trans hstored)
  simp only [Bool.false_eq_true, if_false] at hadvanced
  omega

private theorem lastObserved_written (write : CredentialWrite) : CredentialField.lastObservedAt ∈ write.written := by
  cases write with
  | observe o id observation => simp [CredentialWrite.written, CredentialField.observed]
  | replace value => trivial
  | reassign value controls => trivial

/-- No update of a credential is lost exactly when no observation comes between the read of an update and the update. -/
theorem loses_nothing_iff (run : CredentialRun) (key : Identifier × Identifier) :
    run.LosesNothing key ↔ run.Unobserved key := by
  constructor
  · intro h n j happlied hle hlt hj
    by_contra hobserved
    exact h.overwrites n j ⟨happlied, hj, hle, hlt, .lastObservedAt, lastObserved_written _, lastObserved_written _⟩
  · intro h
    refine Updates.losesNothing_of_fresh (fun n _ => run.earlier n) (fun n hn => document_kept hn) ?_
      fun n hn => fresh_of_unobserved h hn
    intro n happlied field hfield
    change run.Applied key n at happlied
    have hcurrent := (fresh_of_unobserved h happlied).document_eq (run.earlier n) fun n hn => document_kept hn
    obtain ⟨current, changed, hbefore, hchanged, -, -, hkept⟩ := happlied.step
    change (run.store n).credentials key = (run.store (run.readAt n)).credentials key at hcurrent
    change field.view ((run.store (n + 1)).credentials key) = field.view ((run.store (run.readAt n)).credentials key)
    rw [hbefore, read_document happlied] at hcurrent
    rw [hchanged, read_document happlied]
    have hfield' := hkept field hfield
    rw [Option.some.inj hcurrent, ite_self] at hfield'
    exact congrArg some hfield'

end CredentialRun

def sampleObservation : Observation where
  generationId := generationOne
  observedAt := ⟨10, 0⟩
  expiresAt := none
  rotationDueAt := none
  metadataDigest := "5c1f"

def sampleRenamed : ManagedCredential where
  toCredentialFields :=
    { sampleCredential.toCredentialFields with
      displayName := ⟨"renamed", by decide⟩
      updatedAt := ⟨20, 0⟩
      revision := 1 }
  accepted := by decide

/-- An observation, then a rename whose caller read the credential before, then the same rename again and again. -/
def sampleWrites : ℕ → CredentialWrite
  | 0 => .observe sampleCredential.organisationId sampleCredential.id sampleObservation
  | _ + 1 => .replace sampleRenamed

def sampleStores : ℕ → InventoryStore
  | 0 => { sampleInventory with
      credentials := Collection.empty.set (sampleCredential.organisationId, sampleCredential.id)
        sampleCredential.toCredentialFields
      generations := Collection.empty.set (sampleCredential.organisationId, generationOne)
        (sampleGeneration .active) }
  | n + 1 =>
    match (sampleWrites n).perform (sampleStores n) 0 with
    | .ok (_, after) => after
    | .error _ => sampleStores n

def sampleUpdates : CredentialRun where
  store := sampleStores
  readAt _ := 0
  read _ := sampleCredential
  write := sampleWrites
  earlier := Nat.zero_le
  reads n := by
    cases n <;> rfl
  next _ := rfl

/-- The observation was reported as applied, and the rename takes it back. -/
theorem observation_lost : ¬ ∀ (run : CredentialRun) (key : Identifier × Identifier), run.LosesNothing key := by
  intro h
  have hlost := (h sampleUpdates (sampleCredential.organisationId, sampleCredential.id)).reflected 0 2 (by decide)
    ⟨rfl, _, rfl⟩ .lastObservedAt (by simp [CredentialRun.updates, sampleUpdates, sampleWrites,
      CredentialWrite.assigned, CredentialField.observed])
  rcases hlost with hlost | ⟨k, -, -, -, hread, -⟩
  · cases hlost
  · exact absurd hread (Nat.not_lt_zero _)

end Uumi.Storage
