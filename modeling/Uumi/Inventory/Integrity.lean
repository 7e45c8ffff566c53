import Uumi.Inventory.Operations

/-! The references of the inventory over every run of the inventory service: every document in use refers to documents in
use, as long as each operation finds in use what it does not read. -/
namespace Uumi.Inventory
open Uumi.Contracts Uumi.Core Uumi.Foundations Uumi.Foundations.Graph Uumi.Policy Uumi.Storage

/-- The operations on an organisation that was empty, one after another. A failed one changes nothing. -/
structure InventoryRun (hashing : Hashing) (o : Identifier) where
  store : ℕ → InventoryStore
  operation : ℕ → Operation
  fresh : ℕ → FreshIds
  peers : ℕ → InventoryPeers
  listing : ℕ → Listing
  empty : view (store 0) o = fun _ => none
  own : ∀ n, (operation n).organisationId = o
  listed : ∀ n, (listing n).Of (store n) o
  next : ∀ n, store (n + 1) =
    match (operation n).perform hashing (fresh n) (peers n) (listing n) (store n) with
    | .ok after => after
    | .error _ => store n

namespace InventoryRun
variable {hashing : Hashing} {o : Identifier} (run : InventoryRun hashing o)

/-- Something in use refers to the connection. -/
def Referred (store : InventoryStore) (o id : Identifier) : Prop :=
  ∃ node document, view store o node = some document ∧ document.live = true ∧ .connection id ∈ document.refs

/-- Every document in use refers to documents in use; and when a connection is archived here, nothing in use refers to
it afterwards, nor, unless what depends on it was to be archived with it, before. -/
structure Intact (n : ℕ) : Prop where
  sound : Sound (graph (view (run.store n) o))
  disconnected : ∀ id expected cascade after, run.operation n = .archiveConnection o id expected cascade →
    (run.operation n).perform hashing (run.fresh n) (run.peers n) (run.listing n) (run.store n) = .ok after →
    ¬ Referred after o id ∧ (cascade = false → ¬ Referred (run.store n) o id)

/-- A run of admissible operations is consistent after each of them. -/
theorem consistent (h : ∀ n, Admissible (run.store n) (run.operation n)) (n : ℕ) :
    Consistent o (view (run.store n) o) := by
  induction n with
  | zero =>
    rw [run.empty]
    exact consistent_empty o
  | succ n ih =>
    rw [run.next n]
    cases hok : (run.operation n).perform hashing (run.fresh n) (run.peers n) (run.listing n) (run.store n) with
    | ok after => exact perform_consistent ih (run.listed n) (run.own n) (h n) hok
    | error e => exact ih

/-- In a run of admissible operations, every document in use refers to documents in use. -/
theorem intact_of_admissible (h : ∀ n, Admissible (run.store n) (run.operation n)) (n : ℕ) : run.Intact n := by
  have hconsistent := run.consistent h n
  refine ⟨hconsistent.sound, ?_⟩
  intro id expected cascade after hoperation hok
  have hadmissible := h n
  rw [hoperation] at hok hadmissible
  obtain ⟨hafter, hdead, hbefore⟩ := archiveConnection_consistent hconsistent (run.listed n) hadmissible hok
  constructor
  · rintro ⟨node, document, hread, hlive, href⟩
    exact hdead (hafter.sound node document.entry (congrArg (Option.map Document.entry) hread) hlive _ href)
  · rintro halone ⟨node, document, hread, hlive, href⟩
    exact hbefore halone node document hread hlive href

end InventoryRun

def emptyInventory : InventoryStore where
  connections := Collection.empty
  applications := Collection.empty
  environments := Collection.empty
  services := Collection.empty
  credentials := Collection.empty
  generations := Collection.empty
  bindings := Collection.empty
  controls := Collection.empty
  probes := Collection.empty
  reports := Collection.empty

def InventoryPeers.sample : InventoryPeers where
  now := ⟨0, 0⟩
  providerMetadata _ := .ok ()
  runtimeMetadata _ := .ok ()
  secretMetadata _ := .ok ()
  identifies _ := true
  alphanumeric := Char.isAlphanum
  playbookDomains _ _ _ := .ok []
  runtimeBinding _ _ := .ok ()
  verifyImport _ _ _ := .ok ()

def sampleApplication : Application where
  id := applicationOne
  organisationId := sampleCredential.organisationId

def sampleEnvironment : Environment where
  id := environmentOne
  organisationId := sampleCredential.organisationId
  applicationId := sampleApplication.id

def archivedInventory : InventoryStore :=
  put (put emptyInventory (.application sampleApplication)) (archivedApplication .sample sampleApplication)

/-- The stores of a run that adds an application, archives it and then adds an environment. -/
def archivedStores : ℕ → InventoryStore
  | 0 => emptyInventory
  | 1 => put emptyInventory (.application sampleApplication)
  | 2 => archivedInventory
  | _ + 3 => put archivedInventory (.environment sampleEnvironment)

def archivedOperations : ℕ → Operation
  | 0 => .addApplication sampleApplication
  | 1 => .archiveApplication sampleCredential.organisationId sampleApplication.id 0 false
  | _ + 2 => .addEnvironment sampleEnvironment

def Node.id : Node → Identifier
  | connection id => id
  | application id => id
  | environment id => id
  | service id => id
  | credential id => id
  | binding id => id

def Within (ids : List Identifier) (documents : Documents) : Prop := ∀ node, node.id ∉ ids → documents node = none

def Listing.among (ids : List Identifier) (store : InventoryStore) (o : Identifier) : Listing where
  connections := ids.filterMap fun id => store.connections (o, id)
  environments := ids.filterMap fun id => store.environments (o, id)
  services := ids.filterMap fun id => store.services (o, id)
  credentials := collect (ids.filterMap fun id => store.credentials (o, id)) ManagedCredential.modelValidate
  bindings := ids.filterMap fun id => store.bindings (o, id)

section
variable {ids : List Identifier} {store : InventoryStore} {o : Identifier}

private theorem answers_among {δ : Type} {collection : Collection (Identifier × Identifier) δ}
    (h : ∀ id, id ∉ ids → collection (o, id) = none) :
    Answers (ids.filterMap fun id => collection (o, id)) collection o where
  stored document hmem := by
    obtain ⟨id, -, hread⟩ := List.mem_filterMap.mp hmem
    exact ⟨id, hread⟩
  complete _ id document hread := by
    refine List.mem_filterMap.mpr ⟨id, ?_, hread⟩
    by_contra hid
    rw [h id hid] at hread
    cases hread

private theorem Within.collections (h : Within ids (view store o)) {id : Identifier} (hid : id ∉ ids) :
    store.connections (o, id) = none ∧ store.environments (o, id) = none ∧ store.services (o, id) = none ∧
      store.credentials (o, id) = none ∧ store.bindings (o, id) = none :=
  ⟨Option.map_eq_none_iff.mp (h (.connection id) hid), Option.map_eq_none_iff.mp (h (.environment id) hid),
    Option.map_eq_none_iff.mp (h (.service id) hid), Option.map_eq_none_iff.mp (h (.credential id) hid),
    Option.map_eq_none_iff.mp (h (.binding id) hid)⟩

private theorem Within.listed (h : Within ids (view store o)) : (Listing.among ids store o).Of store o where
  connections := answers_among fun _ hid => (h.collections hid).1
  environments := answers_among fun _ hid => (h.collections hid).2.1
  services := answers_among fun _ hid => (h.collections hid).2.2.1
  credentials found hfound := by
    have hsame : found.map ManagedCredential.toCredentialFields = ids.filterMap fun id => store.credentials (o, id) := by
      rw [← List.forall₂_eq_eq_eq, List.forall₂_map_left_iff]
      exact (collect_ok.mp hfound).flip.imp fun _ _ h => (ManagedCredential.modelValidate_ok _ _).mp h
    rw [hsame]
    exact answers_among fun _ hid => (h.collections hid).2.2.2.1
  bindings := answers_among fun _ hid => (h.collections hid).2.2.2.2

private theorem Within.small (h : Within ids (view store o)) (hlength : ids.length ≤ 1000) : Small store o where
  environments := ⟨ids, hlength, fun _ hread => by_contra fun hid => hread (h.collections hid).2.1⟩
  services := ⟨ids, hlength, fun _ hread => by_contra fun hid => hread (h.collections hid).2.2.1⟩
  credentials := ⟨ids, hlength, fun _ hread => by_contra fun hid => hread (h.collections hid).2.2.2.1⟩
  bindings := ⟨ids, hlength, fun _ hread => by_contra fun hid => hread (h.collections hid).2.2.2.2⟩

private theorem within_empty : Within ids (view emptyInventory o) := by
  intro node _
  cases node <;> rfl

private theorem Within.put (h : Within ids (view store o)) {resource : Resource} (ho : resource.organisationId = o)
    (hid : resource.id ∈ ids) : Within ids (view (Inventory.put store resource) o) := by
  intro node hnode
  rw [view_put ho, Function.update_of_ne]
  · exact h node hnode
  · rintro rfl
    refine hnode ?_
    cases resource <;> exact hid

private theorem Within.foldl_put {resources : List Resource} (h : Within ids (view store o))
    (hall : ∀ resource ∈ resources, resource.organisationId = o ∧ resource.id ∈ ids) :
    Within ids (view (resources.foldl Inventory.put store) o) := by
  induction resources generalizing store with
  | nil => exact h
  | cons resource resources ih =>
    obtain ⟨ho, hid⟩ := hall resource List.mem_cons_self
    exact ih (h.put ho hid) fun other hother => hall other (List.mem_cons_of_mem _ hother)

private theorem Within.bindings (h : Within ids (view store o))
    {bindings : Collection (Identifier × Identifier) ConsumerBinding}
    (hbindings : ∀ id, id ∉ ids → bindings (o, id) = none) :
    Within ids (view { store with bindings := bindings } o) := by
  intro node hnode
  cases node with
  | binding id => exact Option.map_eq_none_iff.mpr (hbindings id hnode)
  | connection id => exact h (.connection id) hnode
  | application id => exact h (.application id) hnode
  | environment id => exact h (.environment id) hnode
  | service id => exact h (.service id) hnode
  | credential id => exact h (.credential id) hnode

end

def archivedIds : List Identifier := [sampleApplication.id, sampleEnvironment.id]

private theorem archived_within (n : ℕ) :
    Within archivedIds (view (archivedStores n) sampleCredential.organisationId) := by
  have hadded : Within archivedIds (view (put emptyInventory (.application sampleApplication))
      sampleCredential.organisationId) := within_empty.put rfl List.mem_cons_self
  have harchived : Within archivedIds (view archivedInventory sampleCredential.organisationId) :=
    hadded.put rfl List.mem_cons_self
  rcases n with - | - | - | n
  · exact within_empty
  · exact hadded
  · exact harchived
  · exact @Within.put _ _ _ harchived (.environment sampleEnvironment) rfl (List.mem_cons_of_mem _ List.mem_cons_self)

def archivedRun : InventoryRun Hashing.sample sampleCredential.organisationId where
  store := archivedStores
  operation := archivedOperations
  fresh _ := .sample
  peers _ := .sample
  listing n := .among archivedIds (archivedStores n) sampleCredential.organisationId
  empty := by
    funext node
    cases node <;> rfl
  own n := by rcases n with - | - | n <;> rfl
  listed n := (archived_within n).listed
  next n := by rcases n with - | - | - | n <;> rfl

/-- An environment is added to an archived application. -/
theorem environment_orphaned :
    ¬ ∀ (run : InventoryRun Hashing.sample sampleCredential.organisationId) (n : ℕ), run.Intact n := by
  intro h
  have hsound := (h archivedRun 3).sound
  obtain ⟨entry, hentry, hlive⟩ := hsound (.environment sampleEnvironment.id) (Document.environment sampleEnvironment).entry
    rfl rfl (.application sampleApplication.id) List.mem_cons_self
  have harchived : graph (view (archivedRun.store 3) sampleCredential.organisationId)
      (.application sampleApplication.id) = some ⟨false, []⟩ := rfl
  rw [harchived] at hentry
  cases hentry
  cases hlive

-- The connections, an application, an environment, a service and a credential with a binding are added; then a
-- connection is archived with what depends on it, and another one alone.
def sampleManaging : Connection :=
  { sampleTestedProvider with
    capabilities := {"provider.revokeCredential", "provider.testCredential"}
    accepted := by decide }

def sampleImportRequest : ImportRequest where
  credential := sampleCredential
  generation := sampleGeneration .active
  bindings := [sampleBinding]
  preferences := samplePreferences 7200 (by decide)
  actorId := operatorOne

def sampleConnections : List Connection :=
  [{ sampleManaging with authenticatedAt := some ⟨0, 0⟩, accepted := by decide },
    { sampleSecretStore with authenticatedAt := some ⟨0, 0⟩, accepted := by decide },
    { sampleRuntime with authenticatedAt := some ⟨0, 0⟩, accepted := by decide },
    sampleTelemetry]

def sampleResources : List Resource :=
  sampleConnections.map .connection ++
    [.application sampleApplication, .environment sampleEnvironment, .service sampleConsumer]

def cascadedOperations : ℕ → Operation
  | 0 => .addConnection sampleManaging
  | 1 => .addConnection sampleSecretStore
  | 2 => .addConnection sampleRuntime
  | 3 => .addConnection sampleTelemetry
  | 4 => .addApplication sampleApplication
  | 5 => .addEnvironment sampleEnvironment
  | 6 => .addService sampleConsumer
  | 7 => .importCredential sampleImportRequest
  | 8 => .archiveConnection sampleCredential.organisationId sampleRuntime.id 0 false
  | 9 => .archiveConnection sampleCredential.organisationId sampleRuntime.id 0 true
  | _ + 10 => .archiveConnection sampleCredential.organisationId sampleManaging.id 0 false

def cascadedIds : List Identifier :=
  [sampleManaging.id, sampleSecretStore.id, sampleRuntime.id, sampleTelemetry.id, sampleApplication.id,
    sampleEnvironment.id, sampleConsumer.id, sampleCredential.id, sampleBinding.id]

def addedInventory (n : ℕ) : InventoryStore := (sampleResources.take n).foldl put emptyInventory

def sampleConfiguration : Configuration where
  credential := sampleCredential
  bindings := [sampleBinding]
  services := [sampleConsumer]
  connections := sampleConnections ++ sampleConnections
  actorId := operatorOne
  now := ⟨0, 0⟩

def sampleCompiled : ControlDefinition × List ProbeVersion :=
  match compileControls .sample .sample sampleConfiguration (samplePreferences 7200 (by decide)) with
  | .ok compiled => compiled
  | .error _ => (.sample, [])

def sampleCompiledVersion : ControlVersion :=
  { sampleControls with
    definition := sampleCompiled.1
    digest := Hashing.sample.digest (definitionPayload sampleCompiled.1.toControlFields) }

def importedInventory : InventoryStore :=
  { put (addedInventory 7) (.credential sampleCredential) with
    generations := Collection.empty.set (sampleCredential.organisationId, (sampleGeneration .active).id)
      (sampleGeneration .active)
    bindings := Collection.empty.set (sampleBinding.organisationId, sampleBinding.id) sampleBinding
    controls := Collection.empty.set (sampleCompiledVersion.organisationId, sampleCompiledVersion.credentialId, sampleCompiledVersion.id)
      sampleCompiledVersion
    probes := Collection.empty.setAll
      (sampleCompiled.2.map fun probe => ((probe.organisationId, probe.id), probe)) }

def archivedConnection (connection : Connection) (h : ({ connection.toConnectionFields with
    status := .disabled, archivedAt := some ⟨0, 0⟩, revision := 1 } : ConnectionFields).validateAuthentication = .ok ()) :
    Resource :=
  .connection ⟨_, h⟩

def archivedManaging : Resource :=
  archivedConnection { sampleManaging with authenticatedAt := some ⟨0, 0⟩, accepted := by decide } (by decide)

/-- The inventory after the runtime is archived with the service and the credential, and the binding is removed. -/
def cascadedInventory : InventoryStore :=
  { [archivedConnection { sampleRuntime with authenticatedAt := some ⟨0, 0⟩, accepted := by decide } (by decide),
      archivedService .sample sampleConsumer, archivedCredential .sample sampleCredential].foldl put importedInventory with
    bindings := importedInventory.bindings.delete (sampleBinding.organisationId, sampleBinding.id) }

def cascadedStores : ℕ → InventoryStore
  | 0 => addedInventory 0
  | 1 => addedInventory 1
  | 2 => addedInventory 2
  | 3 => addedInventory 3
  | 4 => addedInventory 4
  | 5 => addedInventory 5
  | 6 => addedInventory 6
  | 7 => addedInventory 7
  | 8 => importedInventory
  | 9 => importedInventory
  | 10 => cascadedInventory
  | _ + 11 => put cascadedInventory archivedManaging

private theorem sampleCompiled_probes :
    ∀ probe ∈ sampleCompiled.2, probe.organisationId = sampleCredential.organisationId ∧
      probe.id ∈ (Stage.all.flatMap fun stage => (sampleCompiled.1.probeVersions stage).getD []) ∧
      probe.state = .active ∧
      probe.digest = Hashing.sample.digest (probePayload probe.definition.toProbeFields) := by
  have hknown : ∀ probe ∈ sampleCompiled.2, probe.organisationId = sampleCredential.organisationId ∧
      probe.id ∈ (Stage.all.flatMap fun stage => (sampleCompiled.1.probeVersions stage).getD []) ∧
      probe.state = .active := by decide +kernel
  have hdigest : sampleCompiled.2.map ProbeVersion.digest = sampleCompiled.2.map fun probe =>
      Hashing.sample.digest (probePayload probe.definition.toProbeFields) := rfl
  intro probe hmem
  obtain ⟨ho, hdeclared, hactive⟩ := hknown probe hmem
  exact ⟨ho, hdeclared, hactive, List.map_inj_left.mp hdigest probe hmem⟩

private theorem importInventory_sample :
    importInventory .sample .sample .sample (.among cascadedIds (addedInventory 7) sampleCredential.organisationId)
      (addedInventory 7) sampleImportRequest = .ok importedInventory := by
  have hcompiled : compileControls .sample .sample sampleConfiguration (samplePreferences 7200 (by decide)) =
      .ok sampleCompiled := rfl
  have hcommit : CredentialImport.commit ⟨sampleCredential, sampleGeneration .active, [sampleBinding], sampleCompiledVersion,
      sampleCompiled.2, none⟩ (addedInventory 7) = .ok importedInventory := rfl
  unfold importInventory
  simp only [bind_ok]
  refine ⟨sampleConnections[0], rfl, sampleConnections[1], rfl, (), rfl,
    [(sampleConsumer, [sampleConnections[2], sampleConnections[3]])], rfl, (), rfl, sampleCompiled, hcompiled,
    (sampleCredential, importedInventory), ?_, rfl⟩
  unfold importCredential
  simp only [unit_bind_ok, required_bind_ok]
  refine ⟨?_, sampleConnections[0], rfl, sampleConnections[1], rfl,
    [(sampleBinding, sampleConsumer, sampleConnections[2])], rfl, ?_, ?_, ?_, ?_, rfl, rfl, rfl, ?_⟩
  · simp only [CredentialImport.checkFresh, unit_bind_ok, raiseIf_ok]
    refine ⟨?_, ?_, ?_, ?_⟩
    · rintro (h | h | h) <;> exact Bool.false_ne_true h
    · rintro ⟨probe, -, h⟩
      exact Bool.false_ne_true h
    · rintro ⟨binding, -, h⟩
      exact Bool.false_ne_true h
    · rintro ⟨setup, ⟨⟩, -⟩
  · exact (raiseIf_ok ..).mpr (by decide)
  · exact (raiseIf_ok ..).mpr (by decide)
  · refine (raiseIf_ok ..).mpr ?_
    rintro (h | h | h | h | h | h | h | h | h) <;> exact h rfl
  · refine (raiseIf_ok ..).mpr ?_
    rintro ⟨probe, hmem, hfault⟩
    obtain ⟨ho, hdeclared, hactive, hdigest⟩ := sampleCompiled_probes probe hmem
    rcases hfault with hfault | hfault | hfault | hfault
    · exact hfault ho
    · exact hfault hdeclared
    · exact hfault hactive
    · exact hfault hdigest
  · rw [bind_ok]
    exact ⟨importedInventory, hcommit, rfl⟩

private theorem cascaded_next (n : ℕ) : cascadedStores (n + 1) =
    match (cascadedOperations n).perform .sample .sample .sample
      (.among cascadedIds (cascadedStores n) sampleCredential.organisationId) (cascadedStores n) with
    | .ok after => after
    | .error _ => cascadedStores n := by
  rcases n with - | - | - | - | - | - | - | - | - | - | - | n
  all_goals try rfl
  simp only [cascadedStores, cascadedOperations, Operation.perform, importInventory_sample]

private theorem added_within (n : ℕ) : Within cascadedIds (view (addedInventory n) sampleCredential.organisationId) := by
  refine within_empty.foldl_put fun resource hmem => ?_
  have hall : ∀ resource ∈ sampleResources, resource.organisationId = sampleCredential.organisationId ∧
      resource.id ∈ cascadedIds := by
    simp only [sampleResources, sampleConnections, List.map_cons, List.map_nil, List.cons_append, List.nil_append,
      List.forall_mem_cons, List.not_mem_nil, false_imp_iff, implies_true, and_true]
    decide
  exact hall resource (List.mem_of_mem_take hmem)

private theorem importedInventory_bindings {id : Identifier} {binding : ConsumerBinding}
    (h : importedInventory.bindings (sampleCredential.organisationId, id) = some binding) :
    id = sampleBinding.id ∧ binding = sampleBinding := by
  rcases Collection.set_eq_some.mp h with ⟨hkey, rfl⟩ | ⟨-, hnone⟩
  · exact ⟨congrArg Prod.snd hkey, rfl⟩
  · cases hnone

private theorem cascadedInventory_bindings (id : Identifier) :
    cascadedInventory.bindings (sampleCredential.organisationId, id) = none := by
  by_contra hsome
  obtain ⟨binding, hread⟩ := Option.ne_none_iff_exists'.mp hsome
  obtain ⟨hne, hread⟩ := Collection.delete_eq_some.mp hread
  exact hne (Prod.ext rfl (importedInventory_bindings hread).1)

private theorem imported_within : Within cascadedIds (view importedInventory sampleCredential.organisationId) := by
  refine (@Within.put _ _ _ (added_within 7) (.credential sampleCredential) rfl (by decide)).bindings fun id hid => ?_
  by_contra hsome
  obtain ⟨binding, hread⟩ := Option.ne_none_iff_exists'.mp hsome
  obtain ⟨rfl, -⟩ := importedInventory_bindings hread
  exact hid (by decide)

private theorem cascaded_within (n : ℕ) :
    Within cascadedIds (view (cascadedStores n) sampleCredential.organisationId) := by
  have harchived : Within cascadedIds (view cascadedInventory sampleCredential.organisationId) := by
    refine (@Within.foldl_put _ _ _ [_, _, _] imported_within ?_).bindings fun id _ => cascadedInventory_bindings id
    simp only [List.forall_mem_cons, List.not_mem_nil, false_imp_iff, implies_true, and_true]
    decide
  rcases n with - | - | - | - | - | - | - | - | - | - | - | n
  · exact added_within 0
  · exact added_within 1
  · exact added_within 2
  · exact added_within 3
  · exact added_within 4
  · exact added_within 5
  · exact added_within 6
  · exact added_within 7
  · exact imported_within
  · exact imported_within
  · exact harchived
  · exact @Within.put _ _ _ harchived archivedManaging rfl (by decide)

def cascadedRun : InventoryRun Hashing.sample sampleCredential.organisationId where
  store := cascadedStores
  operation := cascadedOperations
  fresh _ := .sample
  peers _ := .sample
  listing n := .among cascadedIds (cascadedStores n) sampleCredential.organisationId
  empty := by
    funext node
    cases node <;> rfl
  own n := by rcases n with - | - | - | - | - | - | - | - | - | - | n <;> rfl
  listed n := (cascaded_within n).listed
  next := cascaded_next

private theorem cascaded_admissible (n : ℕ) : Admissible (cascadedRun.store n) (cascadedRun.operation n) := by
  have hsmall : Small (cascadedStores n) sampleCredential.organisationId := (cascaded_within n).small (by decide)
  -- the service of the only binding names the runtime of the binding
  have himported : ∀ id, ∀ binding ∈ importedInventory.bindings (sampleCredential.organisationId, id),
      binding.runtimeConnectionId = sampleRuntime.id →
      (∃ service ∈ importedInventory.services (sampleCredential.organisationId, binding.serviceId),
        sampleRuntime.id = service.runtimeConnectionId ∨ sampleRuntime.id ∈ service.telemetryConnectionIds) ∨
      ∃ credential ∈ importedInventory.credentials (sampleCredential.organisationId, binding.credentialId),
        sampleRuntime.id = credential.connectionId ∨ sampleRuntime.id = credential.secretStoreConnectionId := by
    intro id binding hread _
    obtain ⟨-, rfl⟩ := importedInventory_bindings hread
    exact .inl ⟨sampleConsumer, rfl, .inl rfl⟩
  rcases n with - | - | - | - | - | - | - | - | - | - | - | n
  · trivial
  · trivial
  · trivial
  · trivial
  · trivial
  · intro _ application hread
    obtain rfl := Option.some.inj hread
    rfl
  · refine fun _ => ⟨fun environment hread => ?_, fun id hmem connection hread => ?_⟩
    · obtain rfl := Option.some.inj hread
      rfl
    · rcases List.mem_cons.mp hmem with rfl | hmem
      · obtain rfl := Option.some.inj hread
        rfl
      · obtain rfl := List.mem_singleton.mp hmem
        obtain rfl := Option.some.inj hread
        rfl
  · refine ⟨fun _ => rfl, fun binding hmem service hread => ?_, nofun⟩
    obtain rfl := List.mem_singleton.mp hmem
    obtain rfl := Except.ok.inj hread
    rfl
  · exact ⟨hsmall, himported⟩
  · exact ⟨hsmall, himported⟩
  · refine ⟨hsmall, fun id binding hread => ?_⟩
    rw [show (cascadedRun.store 10).bindings (_, id) = none from cascadedInventory_bindings id] at hread
    cases hread
  · refine ⟨hsmall, fun id binding hread => ?_⟩
    rw [show (cascadedRun.store (n + 11)).bindings (_, id) = none from cascadedInventory_bindings id] at hread
    cases hread

/-- A connection in use is not archived alone; it is archived with what depends on it, and then another one alone. -/
theorem cascaded_intact :
    (cascadedRun.operation 9 = .archiveConnection sampleCredential.organisationId sampleRuntime.id 0 true ∧
      InventoryRun.Referred (cascadedRun.store 9) sampleCredential.organisationId sampleRuntime.id ∧
      (cascadedRun.operation 9).perform .sample (cascadedRun.fresh 9) (cascadedRun.peers 9) (cascadedRun.listing 9)
        (cascadedRun.store 9) = .ok (cascadedRun.store 10)) ∧
    (cascadedRun.operation 10 = .archiveConnection sampleCredential.organisationId sampleManaging.id 0 false ∧
      (cascadedRun.operation 10).perform .sample (cascadedRun.fresh 10) (cascadedRun.peers 10) (cascadedRun.listing 10)
        (cascadedRun.store 10) = .ok (cascadedRun.store 11)) ∧
    ∀ n, cascadedRun.Intact n := by
  refine ⟨⟨rfl, ?_, rfl⟩, ⟨rfl, rfl⟩, InventoryRun.intact_of_admissible cascadedRun cascaded_admissible⟩
  exact ⟨.service sampleConsumer.id, .service sampleConsumer, rfl, rfl,
    (Document.connection_mem_service _ _).mpr (.inl rfl)⟩

end Uumi.Inventory
