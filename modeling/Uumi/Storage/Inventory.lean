import Uumi.Contracts.Credential
import Uumi.Contracts.Inventory
import Uumi.Foundations.Documents
import Uumi.Policy.Payloads

/-! The inventory documents, and the transaction that imports a credential with its active
generation, its bindings and its first controls. -/
namespace Uumi.Storage
open Uumi.Contracts Uumi.Core Uumi.Foundations Uumi.Policy

/-- The inventory families, keyed by the variable segments of their paths, the organisation first. -/
structure InventoryStore where
  connections : Collection (Identifier × Identifier) Connection
  applications : Collection (Identifier × Identifier) Application
  environments : Collection (Identifier × Identifier) Environment
  services : Collection (Identifier × Identifier) ConsumerService
  credentials : Collection (Identifier × Identifier) CredentialFields
  generations : Collection (Identifier × Identifier) CredentialGeneration
  bindings : Collection (Identifier × Identifier) ConsumerBinding
  /-- Under organisation, credential and version. -/
  controls : Collection (Identifier × Identifier × Identifier) ControlVersion
  probes : Collection (Identifier × Identifier) ProbeVersion
  reports : Collection (Identifier × Identifier) VerificationReport

/-- The inventory of a service that is imported together with its first credential. -/
structure ServiceSetup where
  application : Application
  environment : Environment
  service : ConsumerService
  deriving DecidableEq

/-- What is imported: a credential with the generation in use, its bindings, its first controls
with their probes, and the inventory of a new service. -/
structure CredentialImport where
  credential : ManagedCredential
  generation : CredentialGeneration
  bindings : List ConsumerBinding
  controls : ControlVersion
  probes : List ProbeVersion
  setup : Option ServiceSetup := none

namespace CredentialImport
variable (item : CredentialImport)

def checkFresh (store : InventoryStore) : Except Error Unit := do
  raiseIf ((store.credentials (item.credential.organisationId, item.credential.id)).isSome ∨
      (store.generations (item.generation.organisationId, item.generation.id)).isSome ∨
      (store.controls (item.controls.organisationId, item.controls.credentialId, item.controls.id)).isSome)
    (.resourceConflict s!"credential {item.credential.id.text} is already imported")
  raiseIf (∃ probe ∈ item.probes, (store.probes (probe.organisationId, probe.id)).isSome)
    (.resourceConflict "one or more control probe versions already exist")
  raiseIf (∃ binding ∈ item.bindings, (store.bindings (binding.organisationId, binding.id)).isSome)
    (.resourceConflict "one or more credential bindings already exist")
  raiseIf (∃ setup ∈ item.setup,
      (store.applications (setup.application.organisationId, setup.application.id)).isSome ∨
      (store.environments (setup.environment.organisationId, setup.environment.id)).isSome ∨
      (store.services (setup.service.organisationId, setup.service.id)).isSome)
    (.resourceConflict "runtime service inventory already exists")

/-- The service of a binding: the new one when the binding names it, else the stored one. -/
def serviceOf (store : InventoryStore) (binding : ConsumerBinding) : Option ConsumerService :=
  match item.setup with
  | some setup =>
    if binding.serviceId = setup.service.id then some setup.service
    else store.services (binding.organisationId, binding.serviceId)
  | none => store.services (binding.organisationId, binding.serviceId)

def consumers (store : InventoryStore) :
    List ConsumerBinding → Option (List (ConsumerBinding × ConsumerService × Connection))
  | [] => some []
  | binding :: bindings => do
    let service ← item.serviceOf store binding
    let runtime ← store.connections (binding.organisationId, binding.runtimeConnectionId)
    let rest ← consumers store bindings
    return (binding, service, runtime) :: rest

def checkManagement (management : Connection) : Except Error Unit :=
  raiseIf (management.organisationId ≠ item.credential.organisationId ∨
      .provider ∉ management.roles ∨ management.platform ≠ item.credential.provider ∨
      management.archivedAt ≠ none ∨ management.status ≠ .ready ∨
      (management.interface = .browser ∧ (management.playbookId = none ∨ management.playbookVersionId = none)))
    (.resourceConflict "credential provider connection changed during import")

def checkSecretStore (secretStore : Connection) : Except Error Unit :=
  raiseIf (secretStore.organisationId ≠ item.credential.organisationId ∨
      .secretStore ∉ secretStore.roles ∨ secretStore.interface ≠ .api ∨
      secretStore.archivedAt ≠ none ∨ secretStore.status ≠ .ready ∨
      ¬ ∃ boundary ∈ secretStore.allowedResources, item.credential.secretResource.value = boundary ∨
        underBoundary item.credential.secretResource.value boundary)
    (.resourceConflict "credential secret-store connection changed during import")

/-- The generation is the one that the credential names as active. Its state is not read. -/
def checkLineage (hashing : Hashing) : Except Error Unit :=
  raiseIf (item.generation.organisationId ≠ item.credential.organisationId ∨
      item.generation.credentialId ≠ item.credential.id ∨
      item.credential.activeGenerationId ≠ some item.generation.id ∨
      item.credential.secretReference ≠ item.generation.secretReference ∨
      item.controls.organisationId ≠ item.credential.organisationId ∨
      item.controls.credentialId ≠ item.credential.id ∨
      item.controls.id ≠ item.credential.controlVersion ∨
      item.controls.number ≠ 1 ∨
      item.controls.digest ≠ hashing.digest (definitionPayload item.controls.definition.toControlFields))
    (.resourceConflict "credential import lineage is inconsistent")

def declaredProbes : List Identifier :=
  Stage.all.flatMap fun stage => (item.controls.definition.probeVersions stage).getD []

def checkProbes (hashing : Hashing) : Except Error Unit :=
  raiseIf (∃ probe ∈ item.probes, probe.organisationId ≠ item.credential.organisationId ∨
      probe.id ∉ item.declaredProbes ∨ probe.state ≠ .active ∨
      probe.digest ≠ hashing.digest (probePayload probe.definition.toProbeFields))
    (.resourceConflict "credential control probes are inconsistent")

def checkCoverage : Except Error Unit :=
  raiseIf (item.bindings.length ≠ item.credential.consumerIds.length ∨
      item.credential.consumerIds.toFinset ≠ (item.bindings.map ConsumerBinding.serviceId).toFinset)
    (.resourceConflict "credential consumers changed during import")

def checkSetup : Except Error Unit :=
  raiseIf (∃ setup ∈ item.setup,
      setup.application.organisationId ≠ item.credential.organisationId ∨
      setup.environment.organisationId ≠ item.credential.organisationId ∨
      setup.service.organisationId ≠ item.credential.organisationId ∨
      setup.environment.applicationId ≠ setup.application.id ∨
      setup.service.applicationId ≠ setup.application.id ∨
      setup.service.environmentId ≠ setup.environment.id)
    (.resourceConflict "runtime service inventory is inconsistent")

def checkConsumer (binding : ConsumerBinding) (service : ConsumerService) (runtime : Connection) :
    Except Error Unit :=
  raiseIf (binding.organisationId ≠ item.credential.organisationId ∨
      binding.credentialId ≠ item.credential.id ∨
      binding.currentGenerationId ≠ item.generation.id ∨
      some binding.secretReference ≠ item.generation.secretReference.map Text.value ∨
      binding.serviceId ≠ service.id ∨ binding.environmentId ≠ service.environmentId ∨
      binding.runtimeConnectionId ≠ service.runtimeConnectionId ∨
      binding.runtimeResource ≠ service.runtimeResource ∨
      runtime.id ≠ binding.runtimeConnectionId ∨ .runtime ∉ runtime.roles ∨ runtime.interface ≠ .api ∨
      runtime.archivedAt ≠ none ∨ runtime.status ≠ .ready)
    (.resourceConflict "credential consumer binding changed during import")

def commit (store : InventoryStore) : Except Error InventoryStore := do
  let store := match item.setup with
    | none => store
    | some setup =>
      { store with
        applications := store.applications.set (setup.application.organisationId, setup.application.id)
          setup.application
        environments := store.environments.set (setup.environment.organisationId, setup.environment.id)
          setup.environment
        services := store.services.set (setup.service.organisationId, setup.service.id) setup.service }
  let probes ← store.probes.createAll (fun key => .alreadyExists key.2.text)
    (item.probes.map fun probe => ((probe.organisationId, probe.id), probe))
  let bindings ← store.bindings.createAll (fun key => .alreadyExists key.2.text)
    (item.bindings.map fun binding => ((binding.organisationId, binding.id), binding))
  return { store with
    credentials := store.credentials.set (item.credential.organisationId, item.credential.id)
      item.credential.toCredentialFields
    generations := store.generations.set (item.generation.organisationId, item.generation.id) item.generation
    controls := store.controls.set (item.controls.organisationId, item.controls.credentialId, item.controls.id)
      item.controls
    probes := probes
    bindings := bindings }

end CredentialImport

def importCredential (hashing : Hashing) (store : InventoryStore) (item : CredentialImport) :
    Except Error (ManagedCredential × InventoryStore) := do
  let missing := Error.resourceNotFound "credential connection or consumer service is missing"
  item.checkFresh store
  let management ← required
    (store.connections (item.credential.organisationId, item.credential.connectionId)) missing
  let secretStore ← required
    (store.connections (item.credential.organisationId, item.credential.secretStoreConnectionId)) missing
  let consumers ← required (item.consumers store item.bindings) missing
  item.checkManagement management
  item.checkSecretStore secretStore
  item.checkLineage hashing
  item.checkProbes hashing
  item.checkCoverage
  item.checkSetup
  forEach consumers fun (binding, service, runtime) => item.checkConsumer binding service runtime
  let store ← item.commit store
  return (item.credential, store)

def sampleProvider : Connection where
  id := connectionOne
  organisationId := organisationOne
  platform := platformOne
  roles := {.provider}
  interface := .api
  authorization := .apiKey
  authorizationReference := some "projects/demo/secrets/provider-key"
  capabilities := {"provider.revokeCredential"}
  allowedResources := ["platform-1:credentials"]
  http := some { auth := .bearer, test_with_auth := rfl }
  status := .ready
  accepted := by decide

def sampleSecretStore : Connection where
  id := connectionTwo
  organisationId := organisationOne
  platform := platformTwo
  roles := {.secretStore}
  interface := .api
  authorization := .workloadIdentity
  authorizationReference := some "workload-identity://demo"
  capabilities := {"secretStore.disableVersion"}
  allowedResources := ["projects/demo/secrets"]
  status := .ready
  accepted := by decide

def sampleRuntime : Connection where
  id := ⟨"connection-3", by decide⟩
  organisationId := organisationOne
  platform := platformTwo
  roles := {.runtime}
  interface := .api
  authorization := .workloadIdentity
  authorizationReference := some "workload-identity://demo"
  capabilities := {"runtime.rollback"}
  allowedResources := ["projects/demo/services"]
  status := .ready
  accepted := by decide

def sampleCredential : ManagedCredential where
  id := credentialOne
  organisationId := organisationOne
  connectionId := sampleProvider.id
  secretStoreConnectionId := sampleSecretStore.id
  secretResource := keyResource
  secretReference := some keyVersionOne
  provider := sampleProvider.platform
  kind := ⟨"api-key", by decide⟩
  displayName := ⟨"key", by decide⟩
  providerId := some ⟨"key-1", by decide⟩
  consumerIds := [⟨"service-1", by decide⟩]
  activeGenerationId := some generationOne
  controlVersion := controlsOne
  createdAt := ⟨0, 0⟩
  updatedAt := ⟨0, 0⟩
  accepted := by decide

def sampleGeneration (state : GenerationState) : CredentialGeneration where
  id := generationOne
  organisationId := sampleCredential.organisationId
  credentialId := sampleCredential.id
  providerId := sampleCredential.providerId
  state := state
  attemptId := ⟨"attempt-1", by decide⟩
  secretReference := sampleCredential.secretReference
  createdAt := ⟨0, 0⟩

def sampleService : ConsumerService where
  id := ⟨"service-1", by decide⟩
  organisationId := sampleCredential.organisationId
  applicationId := applicationOne
  environmentId := environmentOne
  runtimeConnectionId := sampleRuntime.id
  runtimeResource := ⟨"projects/demo/services/api", by decide⟩
  telemetry_unique := by decide
  runtime_distinct := by decide

def sampleBinding : ConsumerBinding where
  id := ⟨"binding-1", by decide⟩
  organisationId := sampleCredential.organisationId
  credentialId := sampleCredential.id
  serviceId := sampleService.id
  environmentId := sampleService.environmentId
  runtimeConnectionId := sampleRuntime.id
  runtimeResource := sampleService.runtimeResource
  runtimeSecretName := ⟨"API_KEY", by decide⟩
  secretReference := "projects/demo/secrets/key/versions/1"
  currentGenerationId := generationOne

def sampleControls : ControlVersion where
  id := sampleCredential.controlVersion
  organisationId := sampleCredential.organisationId
  credentialId := sampleCredential.id
  number := 1
  definition := ControlDefinition.sample
  digest := Hashing.sample.digest (definitionPayload ControlDefinition.sample.toControlFields)
  createdBy := operatorOne
  createdAt := ⟨0, 0⟩

def sampleImport (state : GenerationState) : CredentialImport where
  credential := sampleCredential
  generation := sampleGeneration state
  bindings := [sampleBinding]
  controls := sampleControls
  probes := []

def sampleInventory : InventoryStore where
  connections := ((Collection.empty.set (sampleProvider.organisationId, sampleProvider.id) sampleProvider).set
    (sampleSecretStore.organisationId, sampleSecretStore.id) sampleSecretStore).set
    (sampleRuntime.organisationId, sampleRuntime.id) sampleRuntime
  applications := Collection.empty
  environments := Collection.empty
  services := Collection.empty.set (sampleService.organisationId, sampleService.id) sampleService
  credentials := Collection.empty
  generations := Collection.empty
  bindings := Collection.empty
  controls := Collection.empty
  probes := Collection.empty
  reports := Collection.empty

def sampleImported (state : GenerationState) : InventoryStore :=
  { sampleInventory with
    credentials := sampleInventory.credentials.set (sampleCredential.organisationId, sampleCredential.id)
      sampleCredential.toCredentialFields
    generations := sampleInventory.generations.set (sampleCredential.organisationId, (sampleGeneration state).id)
      (sampleGeneration state)
    bindings := sampleInventory.bindings.set (sampleBinding.organisationId, sampleBinding.id) sampleBinding
    controls := sampleInventory.controls.set
      (sampleControls.organisationId, sampleControls.credentialId, sampleControls.id) sampleControls }

/-- The import is accepted whatever the state of its generation. -/
theorem sampleImport_ok (state : GenerationState) :
    importCredential Hashing.sample sampleInventory (sampleImport state) =
      .ok (sampleCredential, sampleImported state) := by
  have hconsumers : (sampleImport state).consumers sampleInventory [sampleBinding] =
      some [(sampleBinding, sampleService, sampleRuntime)] := rfl
  have hcommit : (sampleImport state).commit sampleInventory = .ok (sampleImported state) := rfl
  simp only [importCredential, unit_bind_ok, required_bind_ok]
  refine ⟨rfl, sampleProvider, rfl, sampleSecretStore, rfl, _, hconsumers, ?_, ?_, ?_, rfl, rfl, rfl, ?_, ?_⟩
  · exact (raiseIf_ok ..).mpr (by cases state <;> decide)
  · exact (raiseIf_ok ..).mpr (by cases state <;> decide)
  · refine (raiseIf_ok ..).mpr ?_
    rintro (h | h | h | h | h | h | h | h | h) <;> exact h rfl
  · rfl
  · rw [hcommit]
    rfl

end Uumi.Storage
