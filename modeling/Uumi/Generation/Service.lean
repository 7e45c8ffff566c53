import Uumi.Foundations.Executions
import Uumi.Storage.Generations

/-! The generation service over the repository, and the inventory as a service of atomic calls. -/
namespace Uumi.Generation
open Uumi.Contracts Uumi.Core Uumi.Foundations Uumi.Policy Uumi.Storage

/-- `GenerationService.create`: rotations start from a new generation with its references. -/
def create (store : InventoryStore) (generation : CredentialGeneration) :
    Except Error (CredentialGeneration × InventoryStore) := do
  raiseIf (generation.state ≠ .creating)
    (.resourceConflict "new rotation generations must start in creating state")
  raiseIf (generation.providerId = none ∨ generation.secretReference = none)
    (.resourceConflict "a stored rotation generation requires provider and secret references")
  Generations.create store generation

def promote (store : InventoryStore) (organisationId credentialId targetId predecessorId reportId : Identifier)
    (bindingIds : List Identifier) : Except Error (CredentialGeneration × InventoryStore) := do
  raiseIf (bindingIds = [])
    (.resourceConflict "generation promotion requires verified consumer bindings")
  Generations.promote store organisationId credentialId targetId predecessorId reportId bindingIds

/-- The clock value is the time of the revocation. -/
def revoke (store : InventoryStore) (organisationId generationId reportId : Identifier) (now : AwareDatetime) :
    Except Error (CredentialGeneration × InventoryStore) :=
  Generations.revoke store organisationId generationId reportId now

def orphan (store : InventoryStore) (organisationId generationId : Identifier) :
    Except Error (CredentialGeneration × InventoryStore) :=
  Generations.orphan store organisationId generationId

def stageBindings (store : InventoryStore) (organisationId credentialId targetId : Identifier)
    (secretReference : String) (bindingIds : List Identifier) :
    Except Error (List Identifier × InventoryStore) := do
  raiseIf (bindingIds = []) (.resourceConflict "deployment requires every consumer binding")
  Generations.stageBindings store organisationId credentialId targetId secretReference bindingIds

def verifyBindings (store : InventoryStore) (organisationId targetId reportId : Identifier)
    (bindingIds : List Identifier) : Except Error (List Identifier × InventoryStore) := do
  raiseIf (bindingIds = []) (.resourceConflict "verification requires every consumer binding")
  Generations.verifyBindings store organisationId targetId reportId bindingIds

/-- One call on the inventory: an import, a verification report, or one of the six generation calls. -/
inductive Call where
  | importCredential (item : CredentialImport)
  | saveReport (report : VerificationReport)
  | create (generation : CredentialGeneration)
  | stageBindings (organisationId credentialId targetId : Identifier) (secretReference : String)
      (bindingIds : List Identifier)
  | verifyBindings (organisationId targetId reportId : Identifier) (bindingIds : List Identifier)
  | promote (organisationId credentialId targetId predecessorId reportId : Identifier)
      (bindingIds : List Identifier)
  | revoke (organisationId generationId reportId : Identifier) (now : AwareDatetime)
  | orphan (organisationId generationId : Identifier)

def inventory (hashing : Hashing) : Service InventoryStore Call Unit Error where
  perform store
    | .importCredential item => do return ((), (← Storage.importCredential hashing store item).2)
    | .saveReport report => do return ((), (← Storage.saveReport store report).2)
    | .create generation => do return ((), (← Generation.create store generation).2)
    | .stageBindings o c t r ids => do return ((), (← Generation.stageBindings store o c t r ids).2)
    | .verifyBindings o t r ids => do return ((), (← Generation.verifyBindings store o t r ids).2)
    | .promote o c t p r ids => do return ((), (← Generation.promote store o c t p r ids).2)
    | .revoke o g r now => do return ((), (← Generation.revoke store o g r now).2)
    | .orphan o g => do return ((), (← Generation.orphan store o g).2)

/-- An inventory without credentials. Connections and services are set up before. -/
structure Initial (store : InventoryStore) : Prop where
  credentials : store.credentials = Collection.empty
  generations : store.generations = Collection.empty
  bindings : store.bindings = Collection.empty

end Uumi.Generation
