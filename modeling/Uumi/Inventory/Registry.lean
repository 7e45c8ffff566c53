import Uumi.Inventory.Controls
import Uumi.Storage.Credentials

/-! The inventory service: resources are added, edited, imported and archived, each after the checks that the service
makes on what it reads. -/
namespace Uumi.Inventory
open Uumi.Contracts Uumi.Core Uumi.Foundations Uumi.Policy Uumi.Storage

inductive Resource where
  | connection (value : Connection)
  | application (value : Application)
  | environment (value : Environment)
  | service (value : ConsumerService)
  | credential (value : ManagedCredential)

namespace Resource

def organisationId : Resource → Identifier
  | connection value => value.organisationId
  | application value => value.organisationId
  | environment value => value.organisationId
  | service value => value.organisationId
  | credential value => value.organisationId

def id : Resource → Identifier
  | connection value => value.id
  | application value => value.id
  | environment value => value.id
  | service value => value.id
  | credential value => value.id

def revision : Resource → Nat
  | connection value => value.revision
  | application value => value.revision
  | environment value => value.revision
  | service value => value.revision
  | credential value => value.revision

def archivedAt : Resource → Option AwareDatetime
  | connection value => value.archivedAt
  | application value => value.archivedAt
  | environment value => value.archivedAt
  | service value => value.archivedAt
  | credential value => value.archivedAt

def family : Resource → String
  | connection _ => "connections"
  | application _ => "applications"
  | environment _ => "environments"
  | service _ => "services"
  | credential _ => "credentials"

/-- `_inventory_path`. -/
def path (resource : Resource) : String :=
  s!"organisations/{resource.organisationId.text}/{resource.family}/{resource.id.text}"

end Resource

def put (store : InventoryStore) : Resource → InventoryStore
  | .connection value => { store with connections := store.connections.set (value.organisationId, value.id) value }
  | .application value => { store with applications := store.applications.set (value.organisationId, value.id) value }
  | .environment value => { store with environments := store.environments.set (value.organisationId, value.id) value }
  | .service value => { store with services := store.services.set (value.organisationId, value.id) value }
  | .credential value =>
    { store with credentials := store.credentials.set (value.organisationId, value.id) value.toCredentialFields }

/-- The revision and the archiving of the document at the path of a resource, if it exists. -/
def stored (store : InventoryStore) : Resource → Option (Nat × Option AwareDatetime)
  | .connection value =>
    (store.connections (value.organisationId, value.id)).map fun current => (current.revision, current.archivedAt)
  | .application value =>
    (store.applications (value.organisationId, value.id)).map fun current => (current.revision, current.archivedAt)
  | .environment value =>
    (store.environments (value.organisationId, value.id)).map fun current => (current.revision, current.archivedAt)
  | .service value =>
    (store.services (value.organisationId, value.id)).map fun current => (current.revision, current.archivedAt)
  | .credential value =>
    (store.credentials (value.organisationId, value.id)).map fun current => (current.revision, current.archivedAt)

def create (store : InventoryStore) (resource : Resource) : Except Error InventoryStore := do
  raiseIf (stored store resource).isSome (.resourceConflict s!"resource {resource.path} already exists")
  return put store resource

/-- `FirestoreCatalog.replace`. Resources are only replaced by edited copies of themselves, so their identity stays. -/
def replace (store : InventoryStore) (resource : Resource) (expectedRevision : Nat) : Except Error InventoryStore := do
  let current ← required (stored store resource) (.resourceNotFound s!"resource {resource.path} was not found")
  raiseIf (current.1 ≠ expectedRevision)
    (.resourceConflict s!"resource {resource.path} expected revision {expectedRevision}, found {current.1}")
  raiseIf (resource.revision ≠ expectedRevision + 1)
    (.storageIntegrity "catalog updates must advance revision exactly once")
  return put store resource

/-- `archive_inventory`: all resources are written and all bindings deleted, if nothing changed since they were read. -/
def archiveInventory (store : InventoryStore) (resources : List Resource) (bindings : List ConsumerBinding) :
    Except Error InventoryStore := do
  raiseIf (∃ resource ∈ resources, stored store resource = none)
    (.resourceNotFound "archive target changed before confirmation")
  raiseIf (∃ binding ∈ bindings, store.bindings (binding.organisationId, binding.id) = none)
    (.resourceConflict "archive dependencies changed before confirmation")
  raiseIf (∃ resource ∈ resources, ∃ current ∈ stored store resource,
      current.1 + 1 ≠ resource.revision ∨ current.2 ≠ none ∨ resource.archivedAt = none)
    (.resourceConflict "archive target changed before confirmation")
  raiseIf (∃ binding ∈ bindings, store.bindings (binding.organisationId, binding.id) ≠ some binding)
    (.resourceConflict "archive dependencies changed before confirmation")
  let store := resources.foldl put store
  return { store with
    bindings := bindings.foldl (fun bindings binding => bindings.delete (binding.organisationId, binding.id))
      store.bindings }

section
variable (store : InventoryStore) (o id : Identifier)

def getConnection : Except Error Connection :=
  required (store.connections (o, id)) (.resourceNotFound s!"resource organisations/{o.text}/connections/{id.text} was not found")

def getApplication : Except Error Application :=
  required (store.applications (o, id))
    (.resourceNotFound s!"resource organisations/{o.text}/applications/{id.text} was not found")

def getEnvironment : Except Error Environment :=
  required (store.environments (o, id))
    (.resourceNotFound s!"resource organisations/{o.text}/environments/{id.text} was not found")

def getService : Except Error ConsumerService :=
  required (store.services (o, id)) (.resourceNotFound s!"resource organisations/{o.text}/services/{id.text} was not found")

end

/-- The answers to the list queries about an organisation. -/
structure Listing where
  connections : List Connection
  environments : List Environment
  services : List ConsumerService
  /-- A document that the validator of credentials refuses, as after an observation that moved its expiry, is raised by
  the whole query. -/
  credentials : Except Error (List ManagedCredential)
  bindings : List ConsumerBinding

/-- There are at most as many documents of the organisation as a query returns. -/
def Few {δ : Type} (collection : Collection (Identifier × Identifier) δ) (o : Identifier) : Prop :=
  ∃ ids : List Identifier, ids.length ≤ 1000 ∧ ∀ id, collection (o, id) ≠ none → id ∈ ids

/-- A query returns documents of the organisation: all of them, if there are at most a thousand. -/
structure Answers {δ : Type} (answer : List δ) (collection : Collection (Identifier × Identifier) δ) (o : Identifier) :
    Prop where
  stored : ∀ document ∈ answer, ∃ id, collection (o, id) = some document
  complete : Few collection o → ∀ id document, collection (o, id) = some document → document ∈ answer

/-- The listing is what the queries about an organisation return. -/
structure Listing.Of (listing : Listing) (store : InventoryStore) (o : Identifier) : Prop where
  connections : Answers listing.connections store.connections o
  environments : Answers listing.environments store.environments o
  services : Answers listing.services store.services o
  credentials : ∀ found, listing.credentials = .ok found →
    Answers (found.map ManagedCredential.toCredentialFields) store.credentials o
  bindings : Answers listing.bindings store.bindings o

/-- What the service asks others, and when. -/
structure InventoryPeers where
  now : AwareDatetime
  providerMetadata : Connection → Except Error Unit
  runtimeMetadata : Connection → Except Error Unit
  secretMetadata : Connection → Except Error Unit
  /-- The credential test of an interface names the field of the provider's identifier. -/
  identifies : HttpProviderApi → Bool
  alphanumeric : Char → Bool
  /-- The allowed domains of a playbook version. -/
  playbookDomains : Identifier → Identifier → Identifier → Except Error (List String)
  /-- The runtime of a binding uses the secret version of the credential. -/
  runtimeBinding : ManagedCredential → ConsumerBinding → Except Error Unit
  /-- The credential is the one that its provider and its secret store know. -/
  verifyImport : ManagedCredential → Connection → Connection → Except Error Unit

def unarchived (archivedAt : Option AwareDatetime) : Bool := archivedAt.isNone

def resourceCovered (resource : String) (boundaries : List String) : Bool :=
  boundaries.any fun boundary => resource = boundary || underBoundary resource boundary

def validConnection (fields : ConnectionFields) : Except Error Connection :=
  match h : fields.validateAuthentication with
  | .ok () => .ok ⟨fields, h⟩
  | .error e => .error e

def domainPattern (peers : InventoryPeers) (value : String) : Bool :=
  value ≠ "" && value.toList.contains '.' &&
    value.toList.all fun c => peers.alphanumeric c || ['.', '-', '*'].contains c

def validateConnection (peers : InventoryPeers) (connection : Connection) : Except Error Unit := do
  raiseIf (connection.interface = .browser ∧
      (connection.allowedResources = [] ∨ ∃ value ∈ connection.allowedResources, ¬ domainPattern peers value))
    (.resourceConflict "browser connection must declare allowed domains")
  raiseIf (connection.interface = .browser ∧ connection.capabilities ∩ {"browser.execute", "browser.authenticate"} = ∅)
    (.resourceConflict "browser connection must declare a browser capability")

/-- The role of an API connection is checked with the other side, and the connection is ready. A copy that its validator
would not read back is refused here. -/
def readied (peers : InventoryPeers) (role : ConnectionRole) (check : Connection → Except Error Unit)
    (connection : Connection) : Except Error Connection :=
  if role ∈ connection.roles ∧ connection.interface = .api then do
    check connection
    validConnection { connection.toConnectionFields with status := .ready, authenticatedAt := some peers.now }
  else .ok connection

def checkProvider (peers : InventoryPeers) (connection : Connection) : Except Error Unit := do
  raiseIf (¬ (∃ api ∈ connection.http, api.testCredential.isSome ∧ api.credentialAuth.isSome ∧ peers.identifies api) ∨
      "provider.testCredential" ∉ connection.capabilities)
    (.resourceConflict "provider connection requires list, create, revoke, and credential identity operations")
  peers.providerMetadata connection

def addConnection (peers : InventoryPeers) (store : InventoryStore) (connection : Connection) :
    Except Error InventoryStore := do
  raiseIf (connection.platform.value = "google-cloud")
    (.resourceConflict "Google Cloud connections must use the verified onboarding journey")
  validateConnection peers connection
  raiseIf (connection.interface = .browser ∧ connection.authorization ≠ .browserSession)
    (.resourceConflict "browser connection requires browser-session authorization")
  let connection ← readied peers .provider (checkProvider peers) connection
  let connection ← readied peers .runtime peers.runtimeMetadata connection
  let connection ← readied peers .secretStore peers.secretMetadata connection
  create store (.connection connection)

def addApplication (store : InventoryStore) (application : Application) : Except Error InventoryStore :=
  create store (.application application)

/-- The application is read, but not whether it is archived. -/
def addEnvironment (store : InventoryStore) (environment : Environment) : Except Error InventoryStore := do
  let application ← getApplication store environment.organisationId environment.applicationId
  raiseIf (application.organisationId ≠ environment.organisationId)
    (.resourceConflict "inventory relationship crosses organisation boundaries")
  create store (.environment environment)

def validateTelemetry (store : InventoryStore) (o id : Identifier) : Except Error Unit := do
  let telemetry ← getConnection store o id
  raiseIf (.telemetry ∉ telemetry.roles ∨ telemetry.interface ≠ .api)
    (.resourceConflict "service requires API telemetry connections")

/-- `_validate_service_connections`. Whether the connections are archived is not read. -/
def validateServiceConnections (store : InventoryStore) (service : ConsumerService) : Except Error Unit := do
  let runtime ← getConnection store service.organisationId service.runtimeConnectionId
  raiseIf (.runtime ∉ runtime.roles ∨ runtime.interface ≠ .api)
    (.resourceConflict "service requires an API runtime connection")
  raiseIf (¬ resourceCovered service.runtimeResource.value runtime.allowedResources)
    (.resourceConflict "service runtime resource escapes the connection boundary")
  forEach service.telemetryConnectionIds (validateTelemetry store service.organisationId)

def addService (store : InventoryStore) (service : ConsumerService) : Except Error InventoryStore := do
  let environment ← getEnvironment store service.organisationId service.environmentId
  raiseIf (environment.applicationId ≠ service.applicationId)
    (.resourceConflict "service application does not match its environment")
  validateServiceConnections store service
  create store (.service service)

/-- The service of a setup belongs to its environment, and the environment to its application. -/
def checkSetup (setup : ServiceSetup) : Except Error Unit := do
  raiseIf (setup.application.organisationId ≠ setup.environment.organisationId)
    (.resourceConflict "inventory relationship crosses organisation boundaries")
  raiseIf (setup.application.organisationId ≠ setup.service.organisationId)
    (.resourceConflict "inventory relationship crosses organisation boundaries")
  raiseIf (setup.environment.applicationId ≠ setup.application.id)
    (.resourceConflict "environment does not belong to the application")
  raiseIf (setup.service.applicationId ≠ setup.application.id ∨ setup.service.environmentId ≠ setup.environment.id)
    (.resourceConflict "service does not belong to the application environment")

def setupResources (setup : ServiceSetup) : List Resource :=
  [.application setup.application, .environment setup.environment, .service setup.service]

def addApplicationSetup (store : InventoryStore) (setup : ServiceSetup) : Except Error InventoryStore := do
  checkSetup setup
  validateServiceConnections store setup.service
  raiseIf (∃ resource ∈ setupResources setup, (stored store resource).isSome)
    (.resourceConflict "application setup resource already exists")
  return (setupResources setup).foldl put store

def editable (label : String) (archivedAt : Option AwareDatetime) (revision expected : Nat) : Except Error Unit := do
  raiseIf (archivedAt ≠ none) (.resourceConflict s!"archived {label}s cannot be edited")
  raiseIf (revision ≠ expected) (.resourceConflict s!"{label} expected revision {expected}, found {revision}")

/-- What `_change` checks: the resource is editable and something is to be changed. -/
def changeable (label : String) (archivedAt : Option AwareDatetime) (revision expected : Nat) (populated : Bool) :
    Except Error Unit := do
  editable label archivedAt revision expected
  raiseIf (¬ populated) (.resourceConflict "edit does not change any fields")

/-- The edit of a connection. A name or a region that is given changes nothing here. -/
structure ConnectionEdit where
  described : Bool := false
  capabilities : Option (Finset String) := none
  allowedResources : Option (List String) := none

def ConnectionEdit.populated (edit : ConnectionEdit) : Bool :=
  edit.described || edit.capabilities.isSome || edit.allowedResources.isSome

def domainCovered (domain : String) (boundaries : List String) : Bool :=
  boundaries.any fun boundary => domain = boundary ||
    ("*.".toList.isPrefixOf boundary.toList && (boundary.toList.drop 1).isSuffixOf domain.toList)

/-- `_validate_connection_usage`: the connection still covers what it is used for. -/
def validateConnectionUsage (peers : InventoryPeers) (listing : Listing) (connection : Connection) : Except Error Unit := do
  let credentials ← listing.credentials
  raiseIf (.secretStore ∈ connection.roles ∧ ∃ credential ∈ credentials, credential.archivedAt = none ∧
      credential.secretStoreConnectionId = connection.id ∧
      ¬ resourceCovered ((credential.secretReference.map Text.value).getD "") connection.allowedResources)
    (.resourceConflict "connection scope no longer covers an active secret")
  raiseIf (.runtime ∈ connection.roles ∧ ∃ service ∈ listing.services, service.archivedAt = none ∧
      service.runtimeConnectionId = connection.id ∧
      ¬ resourceCovered service.runtimeResource.value connection.allowedResources)
    (.resourceConflict "connection scope no longer covers an active runtime")
  match connection.interface, connection.playbookId, connection.playbookVersionId with
  | .browser, some playbookId, some versionId => do
    let domains ← peers.playbookDomains connection.organisationId playbookId versionId
    raiseIf (∃ domain ∈ domains, ¬ domainCovered domain connection.allowedResources)
      (.resourceConflict "connection domains no longer cover its playbook")
  | _, _, _ => .ok ()

def updateConnection (peers : InventoryPeers) (listing : Listing) (store : InventoryStore) (o id : Identifier)
    (expected : Nat) (edit : ConnectionEdit) : Except Error InventoryStore := do
  let current ← getConnection store o id
  raiseIf (current.archivedAt ≠ none) (.resourceConflict "archived connections cannot be edited")
  changeable "connection" current.archivedAt current.revision expected edit.populated
  let changed ← validConnection { current.toConnectionFields with
    capabilities := edit.capabilities.getD current.capabilities
    allowedResources := edit.allowedResources.getD current.allowedResources
    revision := expected + 1 }
  validateConnection peers changed
  validateConnectionUsage peers listing changed
  replace store (.connection changed) expected

/-- The edit of an application gives a name or repositories, neither of which is read here. -/
def updateApplication (store : InventoryStore) (o id : Identifier) (expected : Nat) (described : Bool) :
    Except Error InventoryStore := do
  let current ← getApplication store o id
  changeable "application" current.archivedAt current.revision expected described
  replace store (.application { current with revision := expected + 1 }) expected

/-- The edit of an environment gives a name, a region or whether it is in production, none of which is read here. -/
def updateEnvironment (store : InventoryStore) (o id : Identifier) (expected : Nat) (described : Bool) :
    Except Error InventoryStore := do
  let current ← getEnvironment store o id
  changeable "environment" current.archivedAt current.revision expected described
  replace store (.environment { current with revision := expected + 1 }) expected

/-- The edit of a service. A name, an endpoint, a repository or an identity that is given changes nothing here. -/
structure ServiceEdit where
  described : Bool := false
  runtimeConnectionId : Option Identifier := none
  telemetryConnectionIds : Option (List Identifier) := none
  runtimeResource : Option (Text 1 512) := none

def ServiceEdit.populated (edit : ServiceEdit) : Bool :=
  edit.described || edit.runtimeConnectionId.isSome || edit.telemetryConnectionIds.isSome || edit.runtimeResource.isSome

def ServiceEdit.apply (edit : ServiceEdit) (current : ConsumerService) (revision : Nat) :
    Except Error ConsumerService :=
  let runtime := edit.runtimeConnectionId.getD current.runtimeConnectionId
  let telemetry := edit.telemetryConnectionIds.getD current.telemetryConnectionIds
  if h : telemetry.Nodup ∧ runtime ∉ telemetry then
    .ok { current with
      runtimeConnectionId := runtime
      telemetryConnectionIds := telemetry
      runtimeResource := edit.runtimeResource.getD current.runtimeResource
      revision := revision
      telemetry_unique := h.1
      runtime_distinct := h.2 }
  else .error (.validation "service telemetry connections must be unique and distinct from its runtime")

def updateService (store : InventoryStore) (o id : Identifier) (expected : Nat) (edit : ServiceEdit) :
    Except Error InventoryStore := do
  let current ← getService store o id
  changeable "service" current.archivedAt current.revision expected edit.populated
  let changed ← edit.apply current (expected + 1)
  validateServiceConnections store changed
  replace store (.service changed) expected

def updateCredential (peers : InventoryPeers) (store : InventoryStore) (o id : Identifier) (expected : Nat)
    (displayName : Option (Text 1 160)) : Except Error InventoryStore := do
  let current ← getCredential store o id
  changeable "credential" current.archivedAt current.revision expected displayName.isSome
  let changed ← ManagedCredential.modelValidate { current.toCredentialFields with
    displayName := displayName.getD current.displayName
    updatedAt := peers.now
    revision := expected + 1 }
  let (_, store) ← replaceCredential store changed expected
  return store

def getControls (store : InventoryStore) (o id version : Identifier) : Except Error ControlVersion := do
  let credential ← getCredential store o id
  let controls ← required (store.controls (o, id, version))
    (.resourceNotFound s!"resource {credentialPath o id}/control-versions/{version.text} was not found")
  raiseIf (controls.credentialId ≠ credential.id ∨ controls.organisationId ≠ o)
    (.resourceConflict "controls do not belong to the credential")
  return controls

/-- `update_controls` of the service. -/
def updateCredentialControls (hashing : Hashing) (peers : InventoryPeers) (listing : Listing) (store : InventoryStore)
    (o id : Identifier) (expected : Nat) (versionId : Identifier) (preferences : ControlPreferences)
    (actorId : Identifier) : Except Error InventoryStore := do
  let current ← getCredential store o id
  editable "credential" current.archivedAt current.revision expected
  validateExposureSources (listing.connections.filter fun connection => unarchived connection.archivedAt) preferences
  let previous ← getControls store o id current.controlVersion
  let definition ← ControlDefinition.build (updateControls previous.definition.toControlFields preferences)
  let controls : ControlVersion := {
    id := versionId
    organisationId := o
    credentialId := id
    number := previous.number + 1
    definition := definition
    digest := hashing.digest (definitionPayload definition.toControlFields)
    createdBy := actorId
    createdAt := peers.now }
  let changed ← ManagedCredential.modelValidate { current.toCredentialFields with
    controlVersion := versionId
    updatedAt := peers.now
    revision := expected + 1 }
  let (_, store) ← replaceControls store changed expected controls
  return store

def recordCredentialObservation (store : InventoryStore) (o id : Identifier) (expected : Nat)
    (observation : Observation) : Except Error InventoryStore := do
  let (_, store) ← recordObservation store o id expected observation
  return store

/-- What an operator asks to import. The controls are compiled from the preferences. -/
structure ImportRequest where
  credential : ManagedCredential
  generation : CredentialGeneration
  bindings : List ConsumerBinding
  preferences : ControlPreferences
  actorId : Identifier
  setup : Option ServiceSetup := none

namespace ImportRequest
variable (request : ImportRequest) (store : InventoryStore)

def management : Except Error Connection := do
  let management ← getConnection store request.credential.organisationId request.credential.connectionId
  raiseIf (.provider ∉ management.roles ∨ management.platform ≠ request.credential.provider ∨
      management.archivedAt ≠ none ∨ management.status ≠ .ready)
    (.resourceConflict "credential requires a provider connection for the same platform")
  raiseIf (management.interface = .browser ∧ (management.playbookId = none ∨ management.playbookVersionId = none))
    (.resourceConflict "browser-managed credentials require a connection playbook")
  return management

def secretStore : Except Error Connection := do
  let secretStore ← getConnection store request.credential.organisationId request.credential.secretStoreConnectionId
  raiseIf (.secretStore ∉ secretStore.roles ∨ secretStore.interface ≠ .api ∨ secretStore.archivedAt ≠ none ∨
      secretStore.status ≠ .ready)
    (.resourceConflict "credential requires an API secret-store connection")
  raiseIf (¬ resourceCovered request.credential.secretResource.value secretStore.allowedResources)
    (.resourceConflict "credential secret resource escapes the secret store")
  return secretStore

/-- The generation is the active one of the credential, and the bindings are those of its consumers. -/
def checkLineage : Except Error Unit := do
  let reference := (request.credential.secretReference.map Text.value).getD ""
  raiseIf (request.generation.credentialId ≠ request.credential.id)
    (.resourceConflict "generation does not belong to the credential")
  raiseIf (request.credential.activeGenerationId ≠ some request.generation.id)
    (.resourceConflict "imported generation must be the active generation")
  raiseIf (request.credential.secretReference ≠ request.generation.secretReference)
    (.resourceConflict "credential and active generation secret references differ")
  raiseIf (secretResourceOf reference ≠ request.credential.secretResource.value)
    (.resourceConflict "credential secret version does not belong to its resource")
  raiseIf (¬ "/versions/".toList <:+: reference.toList)
    (.resourceConflict "credential secret reference must identify one immutable version")
  raiseIf (request.bindings.length ≠ request.credential.consumerIds.length ∨
      request.credential.consumerIds.toFinset ≠ (request.bindings.map ConsumerBinding.serviceId).toFinset)
    (.resourceConflict "credential consumers and bindings must match exactly")
  raiseIf (∃ binding ∈ request.bindings, binding.credentialId ≠ request.credential.id ∨
      binding.currentGenerationId ≠ request.generation.id ∨
      binding.organisationId ≠ request.credential.organisationId)
    (.resourceConflict "credential binding lineage is inconsistent")

/-- The service of a binding: the new one when the binding names it, else the stored one, archived or not. -/
def serviceOf (binding : ConsumerBinding) : Except Error ConsumerService :=
  match request.setup with
  | some setup =>
    if setup.service.id = binding.serviceId then .ok setup.service
    else getService store request.credential.organisationId binding.serviceId
  | none => getService store request.credential.organisationId binding.serviceId

def telemetryConnection (id : Identifier) : Except Error Connection := do
  let telemetry ← getConnection store request.credential.organisationId id
  raiseIf (.telemetry ∉ telemetry.roles ∨ telemetry.interface ≠ .api ∨ telemetry.archivedAt ≠ none ∨
      telemetry.status ≠ .ready)
    (.resourceConflict "credential consumer requires ready API telemetry connections")
  return telemetry

def consumer (peers : InventoryPeers) (binding : ConsumerBinding) :
    Except Error (ConsumerService × List Connection) := do
  let service ← request.serviceOf store binding
  raiseIf (binding.environmentId ≠ service.environmentId ∨
      binding.runtimeConnectionId ≠ service.runtimeConnectionId ∨ binding.runtimeResource ≠ service.runtimeResource)
    (.resourceConflict "credential binding does not match its consumer service")
  let runtime ← getConnection store request.credential.organisationId binding.runtimeConnectionId
  raiseIf (.runtime ∉ runtime.roles ∨ runtime.interface ≠ .api ∨ runtime.archivedAt ≠ none ∨ runtime.status ≠ .ready)
    (.resourceConflict "credential binding requires an API runtime connection")
  raiseIf (some binding.secretReference ≠ request.generation.secretReference.map Text.value)
    (.resourceConflict "credential binding must use the imported generation")
  peers.runtimeBinding request.credential binding
  let telemetry ← collect service.telemetryConnectionIds (request.telemetryConnection store)
  return (service, runtime :: telemetry)

end ImportRequest

/-- `import_credential` of the service. -/
def importInventory (hashing : Hashing) (fresh : FreshIds) (peers : InventoryPeers) (listing : Listing)
    (store : InventoryStore) (request : ImportRequest) : Except Error InventoryStore := do
  let management ← request.management store
  let secretStore ← request.secretStore store
  request.checkLineage
  let consumers ← collect request.bindings (request.consumer store peers)
  peers.verifyImport request.credential management secretStore
  let active := listing.connections.filter fun connection => unarchived connection.archivedAt
  let (definition, probes) ← compileControls hashing fresh {
    credential := request.credential
    bindings := request.bindings
    services := consumers.map Prod.fst
    connections := active ++ [management, secretStore] ++ consumers.flatMap Prod.snd
    actorId := request.actorId
    now := peers.now } request.preferences
  let (_, store) ← importCredential hashing store {
    credential := request.credential
    generation := request.generation
    bindings := request.bindings
    controls := {
      id := request.credential.controlVersion
      organisationId := request.credential.organisationId
      credentialId := request.credential.id
      number := 1
      definition := definition
      digest := hashing.digest (definitionPayload definition.toControlFields)
      createdBy := request.actorId
      createdAt := peers.now }
    probes := probes
    setup := request.setup }
  return store

section
variable (peers : InventoryPeers) (listing : Listing) (store : InventoryStore)

def Listing.activeEnvironments : List Environment :=
  listing.environments.filter fun environment => unarchived environment.archivedAt

def Listing.activeServices : List ConsumerService :=
  listing.services.filter fun service => unarchived service.archivedAt

def Listing.activeCredentials : Except Error (List ManagedCredential) := do
  let credentials ← listing.credentials
  return credentials.filter fun credential => unarchived credential.archivedAt

-- `_archive` of each kind of resource that is editable.
def archivedApplication (application : Application) : Resource :=
  .application { application with archivedAt := some peers.now, revision := application.revision + 1 }

def archivedEnvironment (environment : Environment) : Resource :=
  .environment { environment with archivedAt := some peers.now, revision := environment.revision + 1 }

def archivedService (service : ConsumerService) : Resource :=
  .service { service with archivedAt := some peers.now, revision := service.revision + 1 }

def archivedCredential (credential : ManagedCredential) : Resource :=
  .credential { credential with
    archivedAt := some peers.now
    updatedAt := peers.now
    revision := credential.revision + 1
    accepted := credential.accepted }

/-- A resource is recorded once, as it came last. -/
def record (resources : List Resource) (resource : Resource) : List Resource :=
  if resources.any fun other => other.family = resource.family ∧ other.id = resource.id then
    resources.map fun other => if other.family = resource.family ∧ other.id = resource.id then resource else other
  else resources ++ [resource]

/-- The credentials that are archived with a resource: the given ones and those of the services. -/
def credentialIds (primary : Resource) (services : List ConsumerService) (credentials : List ManagedCredential) :
    List Identifier :=
  credentials.map (fun credential => credential.id) ++
    (match primary with
      | .credential value => [value.id]
      | _ => []) ++
    (listing.bindings.filter fun binding => (services.map ConsumerService.id).contains binding.serviceId).map
      ConsumerBinding.credentialId

/-- `_archive_inventory`: a resource is archived with environments, services and credentials, with the credentials of
these services and with the bindings of the credentials. -/
def archiveWith (primary : Resource) (environments : List Environment) (services : List ConsumerService)
    (credentials : List ManagedCredential) : Except Error InventoryStore := do
  let ids := credentialIds listing primary services credentials
  let active ← listing.activeCredentials
  let related := active.filter fun credential => ids.contains credential.id
  let dependents := environments.map (archivedEnvironment peers) ++ services.map (archivedService peers) ++
    related.map (archivedCredential peers)
  archiveInventory store (dependents.foldl record [primary])
    (listing.bindings.filter fun binding => ids.contains binding.credentialId)

variable (o id : Identifier) (expected : Nat) (cascade : Bool)

/-- The bindings of the services and the credentials are not read here. -/
def archiveConnection : Except Error InventoryStore := do
  let current ← getConnection store o id
  let active ← listing.activeCredentials
  let services := listing.activeServices.filter fun service =>
    id = service.runtimeConnectionId || service.telemetryConnectionIds.contains id
  let credentials := active.filter fun credential =>
    id = credential.connectionId || id = credential.secretStoreConnectionId
  raiseIf ((services ≠ [] ∨ credentials ≠ []) ∧ ¬ cascade)
    (.resourceConflict "connection is still used by active inventory")
  editable "connection" current.archivedAt current.revision expected
  let archived ← validConnection { current.toConnectionFields with
    status := .disabled
    archivedAt := some peers.now
    revision := expected + 1 }
  archiveWith peers listing store (.connection archived) [] services credentials

def archiveApplication : Except Error InventoryStore := do
  let current ← getApplication store o id
  let environments := listing.activeEnvironments.filter fun environment => environment.applicationId = id
  let services := listing.activeServices.filter fun service => service.applicationId = id
  raiseIf ((environments ≠ [] ∨ services ≠ []) ∧ ¬ cascade)
    (.resourceConflict "application still contains active environments or services")
  editable "application" current.archivedAt current.revision expected
  archiveWith peers listing store (archivedApplication peers current) environments services []

def archiveEnvironment : Except Error InventoryStore := do
  let current ← getEnvironment store o id
  let services := listing.activeServices.filter fun service => service.environmentId = id
  raiseIf (services ≠ [] ∧ ¬ cascade) (.resourceConflict "environment still contains active services")
  editable "environment" current.archivedAt current.revision expected
  archiveWith peers listing store (archivedEnvironment peers current) [] services []

def archiveService : Except Error InventoryStore := do
  let current ← getService store o id
  let bindings := listing.bindings.filter fun binding => binding.serviceId = id
  raiseIf (bindings ≠ [] ∧ ¬ cascade) (.resourceConflict "service still has credential bindings")
  editable "consumerservice" current.archivedAt current.revision expected
  let active ← listing.activeCredentials
  archiveWith peers listing store (archivedService peers current) [] []
    (active.filter fun credential => (bindings.map ConsumerBinding.credentialId).contains credential.id)

def archiveCredential : Except Error InventoryStore := do
  let current ← getCredential store o id
  raiseIf (current.consumerIds ≠ [] ∧ ¬ cascade)
    (.resourceConflict "credential must be disconnected before it can be archived")
  editable "managedcredential" current.archivedAt current.revision expected
  archiveWith peers listing store (archivedCredential peers current) [] [] []

end

inductive Operation where
  | addConnection (connection : Connection)
  | addApplication (application : Application)
  | addEnvironment (environment : Environment)
  | addService (service : ConsumerService)
  | addApplicationSetup (setup : ServiceSetup)
  | importCredential (request : ImportRequest)
  | updateConnection (o id : Identifier) (expected : Nat) (edit : ConnectionEdit)
  | updateApplication (o id : Identifier) (expected : Nat) (described : Bool)
  | updateEnvironment (o id : Identifier) (expected : Nat) (described : Bool)
  | updateService (o id : Identifier) (expected : Nat) (edit : ServiceEdit)
  | updateCredential (o id : Identifier) (expected : Nat) (displayName : Option (Text 1 160))
  | updateControls (o id : Identifier) (expected : Nat) (versionId : Identifier) (preferences : ControlPreferences)
      (actorId : Identifier)
  | recordObservation (o id : Identifier) (expected : Nat) (observation : Observation)
  | archiveConnection (o id : Identifier) (expected : Nat) (cascade : Bool)
  | archiveApplication (o id : Identifier) (expected : Nat) (cascade : Bool)
  | archiveEnvironment (o id : Identifier) (expected : Nat) (cascade : Bool)
  | archiveService (o id : Identifier) (expected : Nat) (cascade : Bool)
  | archiveCredential (o id : Identifier) (expected : Nat) (cascade : Bool)

namespace Operation

def organisationId : Operation → Identifier
  | addConnection connection => connection.organisationId
  | addApplication application => application.organisationId
  | addEnvironment environment => environment.organisationId
  | addService service => service.organisationId
  | addApplicationSetup setup => setup.application.organisationId
  | importCredential request => request.credential.organisationId
  | updateConnection o .. | updateApplication o .. | updateEnvironment o .. | updateService o ..
  | updateCredential o .. | updateControls o .. | recordObservation o .. | archiveConnection o ..
  | archiveApplication o .. | archiveEnvironment o .. | archiveService o .. | archiveCredential o .. => o

variable (hashing : Hashing) (fresh : FreshIds) (peers : InventoryPeers) (listing : Listing) (store : InventoryStore)

def perform : Operation → Except Error InventoryStore
  | addConnection connection => Inventory.addConnection peers store connection
  | addApplication application => Inventory.addApplication store application
  | addEnvironment environment => Inventory.addEnvironment store environment
  | addService service => Inventory.addService store service
  | addApplicationSetup setup => Inventory.addApplicationSetup store setup
  | importCredential request => importInventory hashing fresh peers listing store request
  | updateConnection o id expected edit => Inventory.updateConnection peers listing store o id expected edit
  | updateApplication o id expected described => Inventory.updateApplication store o id expected described
  | updateEnvironment o id expected described => Inventory.updateEnvironment store o id expected described
  | updateService o id expected edit => Inventory.updateService store o id expected edit
  | updateCredential o id expected displayName => Inventory.updateCredential peers store o id expected displayName
  | updateControls o id expected versionId preferences actorId =>
    updateCredentialControls hashing peers listing store o id expected versionId preferences actorId
  | recordObservation o id expected observation => recordCredentialObservation store o id expected observation
  | archiveConnection o id expected cascade => Inventory.archiveConnection peers listing store o id expected cascade
  | archiveApplication o id expected cascade => Inventory.archiveApplication peers listing store o id expected cascade
  | archiveEnvironment o id expected cascade => Inventory.archiveEnvironment peers listing store o id expected cascade
  | archiveService o id expected cascade => Inventory.archiveService peers listing store o id expected cascade
  | archiveCredential o id expected cascade => Inventory.archiveCredential peers listing store o id expected cascade

end Operation
end Uumi.Inventory
