import Uumi.Inventory.Archiving

/-! What each operation of the inventory service keeps: the references between the documents in use, as long as it finds
in use what it does not read. -/
namespace Uumi.Inventory
open Uumi.Contracts Uumi.Core Uumi.Foundations Uumi.Foundations.Graph Uumi.Policy Uumi.Storage

/-- The connections are not archived. -/
def ConnectionsActive (store : InventoryStore) (o : Identifier) (ids : List Identifier) : Prop :=
  ∀ id ∈ ids, ∀ connection ∈ store.connections (o, id), connection.archivedAt = none

/-- Nothing of a setup in use has an archived parent in it. -/
def SetupActive (setup : ServiceSetup) : Prop :=
  (setup.environment.archivedAt = none → setup.application.archivedAt = none) ∧
  (setup.service.archivedAt = none → setup.application.archivedAt = none ∧ setup.environment.archivedAt = none)

/-- What an operation leaves unread is in use: the parents and the connections of what is added, edited or imported, and
for a connection that is archived, the services or the credentials of the bindings that refer to it. -/
def Admissible (store : InventoryStore) : Operation → Prop
  | .addEnvironment value => value.archivedAt = none →
      ∀ application ∈ store.applications (value.organisationId, value.applicationId), application.archivedAt = none
  | .addService value => value.archivedAt = none →
      (∀ environment ∈ store.environments (value.organisationId, value.environmentId), environment.archivedAt = none) ∧
      ConnectionsActive store value.organisationId (value.runtimeConnectionId :: value.telemetryConnectionIds)
  | .addApplicationSetup setup => SetupActive setup ∧ (setup.service.archivedAt = none →
      ConnectionsActive store setup.service.organisationId
        (setup.service.runtimeConnectionId :: setup.service.telemetryConnectionIds))
  | .importCredential request =>
      (request.bindings ≠ [] → request.credential.archivedAt = none) ∧
      (∀ binding ∈ request.bindings, ∀ service, request.serviceOf store binding = .ok service →
        service.archivedAt = none) ∧
      ∀ setup ∈ request.setup, SetupActive setup ∧ (setup.service.archivedAt = none →
        (∀ id ∈ setup.service.runtimeConnectionId :: setup.service.telemetryConnectionIds,
          store.connections (setup.service.organisationId, id) ≠ none) ∧
        ConnectionsActive store setup.service.organisationId
          (setup.service.runtimeConnectionId :: setup.service.telemetryConnectionIds))
  | .updateService o _ _ edit =>
      ConnectionsActive store o (edit.runtimeConnectionId.toList ++ edit.telemetryConnectionIds.getD [])
  | .archiveConnection o id _ _ => Small store o ∧
      ∀ bindingId, ∀ binding ∈ store.bindings (o, bindingId), binding.runtimeConnectionId = id →
        (∃ service ∈ store.services (o, binding.serviceId),
          id = service.runtimeConnectionId ∨ id ∈ service.telemetryConnectionIds) ∨
        ∃ credential ∈ store.credentials (o, binding.credentialId),
          id = credential.connectionId ∨ id = credential.secretStoreConnectionId
  | .archiveApplication o .. | .archiveEnvironment o .. | .archiveService o .. | .archiveCredential o .. => Small store o
  | _ => True

section
variable {peers : InventoryPeers} {listing : Listing} {store store' : InventoryStore} {o : Identifier}

private theorem validConnection_ok {fields : ConnectionFields} {connection : Connection}
    (h : validConnection fields = .ok connection) : connection.toConnectionFields = fields := by
  unfold validConnection at h
  split at h
  · cases h
    rfl
  · cases h

private theorem readied_organisation {role : ConnectionRole} {check : Connection → Except Error Unit}
    {connection ready : Connection} (h : readied peers role check connection = .ok ready) :
    ready.organisationId = connection.organisationId := by
  unfold readied at h
  split at h
  · rw [unit_bind_ok] at h
    rw [validConnection_ok h.2]
  · cases h
    rfl

private theorem addConnection_consistent (h : Consistent o (view store o)) {connection : Connection}
    (ho : connection.organisationId = o) (hok : addConnection peers store connection = .ok store') :
    Consistent o (view store' o) := by
  unfold addConnection at hok
  rw [unit_bind_ok, unit_bind_ok, unit_bind_ok, bind_ok] at hok
  obtain ⟨-, -, -, first, hfirst, hok⟩ := hok
  rw [bind_ok] at hok
  obtain ⟨second, hsecond, hok⟩ := hok
  rw [bind_ok] at hok
  obtain ⟨third, hthird, hok⟩ := hok
  refine h.create hok ?_ trivial fun _ node hmem => absurd hmem List.not_mem_nil
  exact (readied_organisation hthird).trans ((readied_organisation hsecond).trans
    ((readied_organisation hfirst).trans ho))

private theorem addApplication_consistent (h : Consistent o (view store o)) {application : Application}
    (ho : application.organisationId = o) (hok : addApplication store application = .ok store') :
    Consistent o (view store' o) :=
  h.create hok ho trivial fun _ _ hmem => absurd hmem List.not_mem_nil

private theorem addEnvironment_consistent (h : Consistent o (view store o)) {value : Environment}
    (ho : value.organisationId = o) (hadmissible : Admissible store (.addEnvironment value))
    (hok : addEnvironment store value = .ok store') : Consistent o (view store' o) := by
  subst ho
  unfold addEnvironment getApplication at hok
  rw [required_bind_ok] at hok
  obtain ⟨application, hread, hok⟩ := hok
  rw [unit_bind_ok] at hok
  refine h.create hok.2 rfl trivial ?_
  intro hlive node hmem
  obtain rfl := List.mem_singleton.mp hmem
  refine live_iff.mpr ⟨.application application, congrArg (Option.map _) hread, ?_⟩
  exact Option.isNone_iff_eq_none.mpr (hadmissible (Option.isNone_iff_eq_none.mp hlive) application hread)

private theorem validateServiceConnections_ok {service : ConsumerService}
    (h : validateServiceConnections store service = .ok ()) :
    ∀ id ∈ service.runtimeConnectionId :: service.telemetryConnectionIds,
      ∃ connection, store.connections (service.organisationId, id) = some connection := by
  unfold validateServiceConnections getConnection at h
  simp only [required_bind_ok, unit_bind_ok, forEach_ok] at h
  obtain ⟨runtime, hruntime, -, -, htelemetry⟩ := h
  intro id hid
  rcases List.mem_cons.mp hid with rfl | hid
  · exact ⟨runtime, hruntime⟩
  · have h := htelemetry id hid
    unfold validateTelemetry getConnection at h
    rw [required_bind_ok] at h
    obtain ⟨telemetry, hread, -⟩ := h
    exact ⟨telemetry, hread⟩

private theorem live_connection {id : Identifier} {connection : Connection}
    (hread : store.connections (o, id) = some connection) (hactive : connection.archivedAt = none) :
    Live (graph (view store o)) (.connection id) :=
  live_iff.mpr ⟨.connection connection, congrArg (Option.map _) hread, Option.isNone_iff_eq_none.mpr hactive⟩

private theorem addService_consistent (h : Consistent o (view store o)) {value : ConsumerService}
    (ho : value.organisationId = o) (hadmissible : Admissible store (.addService value))
    (hok : addService store value = .ok store') : Consistent o (view store' o) := by
  unfold addService getEnvironment at hok
  simp only [required_bind_ok, unit_bind_ok, raiseIf_ok, not_not] at hok
  obtain ⟨environment, hread, happlication, hconnections, hok⟩ := hok
  rw [ho] at hread
  have hplaced : Placed (view store o) (.service value) := ⟨environment, congrArg (Option.map _) hread, happlication⟩
  refine h.create hok ho hplaced ?_
  intro hlive node hmem
  obtain ⟨henvironment, hactive⟩ := hadmissible (Option.isNone_iff_eq_none.mp hlive)
  have hin : Live (graph (view store o)) (.environment value.environmentId) :=
    live_iff.mpr ⟨.environment environment, congrArg (Option.map _) hread,
      Option.isNone_iff_eq_none.mpr (henvironment environment (ho ▸ hread))⟩
  rcases List.mem_cons.mp hmem with rfl | hmem
  · -- the application is that of the environment
    obtain ⟨entry, hentry, hl⟩ := hin
    obtain ⟨found, hfound, rfl⟩ := Option.map_eq_some_iff.mp hentry
    obtain rfl := Option.some.inj (hfound.symm.trans (congrArg (Option.map Document.environment) hread))
    exact h.sound _ _ hentry hl _ (by simp [Document.entry, Document.refs, happlication])
  rcases List.mem_cons.mp hmem with rfl | hmem
  · exact hin
  · obtain ⟨id, hid, rfl⟩ := List.mem_map.mp hmem
    obtain ⟨connection, hconnection⟩ := validateServiceConnections_ok hconnections id hid
    exact live_connection (ho ▸ hconnection) (hactive id hid connection hconnection)

private theorem setup_consistent (h : Consistent o (view store o)) {setup : ServiceSetup}
    (ho : ∀ resource ∈ setupResources setup, resource.organisationId = o)
    (hfresh : ∀ resource ∈ setupResources setup, stored store resource = none)
    (henvironment : setup.environment.applicationId = setup.application.id)
    (hservice : setup.service.applicationId = setup.application.id ∧ setup.service.environmentId = setup.environment.id)
    (hactive : SetupActive setup)
    (hconnections : setup.service.archivedAt = none →
      ∀ id ∈ setup.service.runtimeConnectionId :: setup.service.telemetryConnectionIds,
        Live (graph (view store o)) (.connection id)) :
    Consistent o (view ((setupResources setup).foldl put store) o) ∧
      ∀ node, Live (graph (view store o)) node →
        Live (graph (view ((setupResources setup).foldl put store) o)) node := by
  simp only [setupResources, List.forall_mem_cons, List.not_mem_nil, false_implies, implies_true, and_true] at ho hfresh
  obtain ⟨hoa, hoe, hos⟩ := ho
  have hfa := fresh_view hoa hfresh.1
  have hfe : view (put store (.application setup.application)) o (.environment setup.environment.id) = none := by
    rw [view_put hoa, Function.update_of_ne (by nofun)]
    exact fresh_view hoe hfresh.2.1
  have hfs : view (put (put store (.application setup.application)) (.environment setup.environment)) o
      (.service setup.service.id) = none := by
    rw [view_put hoe, Function.update_of_ne (by nofun), view_put hoa, Function.update_of_ne (by nofun)]
    exact fresh_view hos hfresh.2.2
  have hfirst := h.add (.application setup.application) hoa hfa trivial
    fun _ _ hmem => absurd hmem List.not_mem_nil
  have hsecond := hfirst.add (.environment setup.environment) hoe hfe trivial (by
    intro hlive node hmem
    obtain rfl := List.mem_singleton.mp hmem
    rw [henvironment]
    exact live_added (.application setup.application) hoa
      (Option.isNone_iff_eq_none.mpr (hactive.1 (Option.isNone_iff_eq_none.mp hlive))))
  have hplaced : Placed (view (put (put store (.application setup.application)) (.environment setup.environment)) o)
      (.service setup.service) := by
    refine ⟨setup.environment, ?_, henvironment.trans hservice.1.symm⟩
    rw [hservice.2, view_put hoe]
    exact Function.update_self ..
  have hthird := hsecond.add (.service setup.service) hos hfs hplaced (by
    intro hlive node hmem
    have harchived := Option.isNone_iff_eq_none.mp hlive
    obtain ⟨hla, hle⟩ := hactive.2 harchived
    rcases List.mem_cons.mp hmem with rfl | hmem
    · rw [hservice.1]
      exact live_add hoe hfe (live_added (.application setup.application) hoa
        (Option.isNone_iff_eq_none.mpr hla))
    rcases List.mem_cons.mp hmem with rfl | hmem
    · rw [hservice.2]
      exact live_added (.environment setup.environment) hoe (Option.isNone_iff_eq_none.mpr hle)
    · obtain ⟨id, hid, rfl⟩ := List.mem_map.mp hmem
      exact live_add hoe hfe (live_add hoa hfa (hconnections harchived id hid)))
  exact ⟨hthird, fun node hlive => live_add hos hfs (live_add hoe hfe (live_add hoa hfa hlive))⟩

private theorem addApplicationSetup_consistent (h : Consistent o (view store o)) {setup : ServiceSetup}
    (ho : setup.application.organisationId = o) (hadmissible : Admissible store (.addApplicationSetup setup))
    (hok : addApplicationSetup store setup = .ok store') : Consistent o (view store' o) := by
  unfold addApplicationSetup checkSetup at hok
  simp only [unit_bind_ok, raiseIf_ok, not_not, not_or, not_exists, not_and, pure_ok] at hok
  obtain ⟨⟨hoe, hos, henvironment, hservice⟩, hconnections, hfresh, rfl⟩ := hok
  refine (setup_consistent h ?_ ?_ henvironment hservice hadmissible.1 ?_).1
  · simp only [setupResources, List.forall_mem_cons, List.not_mem_nil, false_implies, implies_true, and_true]
    exact ⟨ho, hoe.symm.trans ho, hos.symm.trans ho⟩
  · intro resource hmem
    exact Option.not_isSome_iff_eq_none.mp (hfresh resource hmem)
  · intro harchived id hid
    have hso := hos.symm.trans ho
    obtain ⟨connection, hread⟩ := validateServiceConnections_ok hconnections id hid
    exact live_connection (hso ▸ hread) (hadmissible.2 harchived id hid connection hread)

private theorem bindings_consistent (h : Consistent o (view store o)) (e : Identifier × Identifier → Error)
    (bindings : List ConsumerBinding) {written : Collection (Identifier × Identifier) ConsumerBinding}
    (hok : store.bindings.createAll e (bindings.map fun binding => ((binding.organisationId, binding.id), binding)) =
      .ok written)
    (ho : ∀ binding ∈ bindings, binding.organisationId = o)
    (hplaced : ∀ binding ∈ bindings, Placed (view store o) (.binding binding))
    (hrefs : ∀ binding ∈ bindings, ∀ node ∈ (Document.binding binding).refs, Live (graph (view store o)) node) :
    Consistent o (view { store with bindings := written } o) := by
  induction bindings generalizing store with
  | nil =>
    cases hok
    exact h
  | cons binding bindings ih =>
    rw [List.forall_mem_cons] at ho hplaced hrefs
    rw [List.map_cons, Collection.createAll] at hok
    cases hfresh : store.bindings (binding.organisationId, binding.id) with
    | some _ =>
      simp only [hfresh] at hok
      cases hok
    | none =>
      simp only [hfresh] at hok
      have hview : view { store with
          bindings := store.bindings.set (binding.organisationId, binding.id) binding } o =
          Function.update (view store o) (Document.binding binding).node (some (.binding binding)) := by
        funext node
        by_cases hn : node = (Document.binding binding).node
        · subst hn
          rw [Function.update_self]
          simp [view, Document.node, ho.1]
        · rw [Function.update_of_ne hn]
          cases node <;> simp_all [view, Document.node]
      apply @ih { store with bindings := store.bindings.set (binding.organisationId, binding.id) binding } _ hok
        ho.2 hplaced.2
      · intro other hother node hmem
        have hlive := hrefs.2 other hother node hmem
        simp only [Document.refs, List.mem_cons, List.not_mem_nil, or_false] at hmem
        rcases hmem with rfl | rfl | rfl | rfl <;> exact hlive
      · rw [hview]
        refine h.put ho.1 ?_ hplaced.1 fun _ => hrefs.1
        intro before hread
        have hnone : view store o (Document.binding binding).node = none := by
          simp [view, Document.node, ← ho.1, hfresh]
        rw [hnone] at hread
        cases hread

private theorem consumers_ok {item : CredentialImport} {bindings : List ConsumerBinding}
    {consumers : List (ConsumerBinding × ConsumerService × Connection)}
    (h : item.consumers store bindings = some consumers) : ∀ binding ∈ bindings, ∃ service runtime,
      (binding, service, runtime) ∈ consumers ∧ item.serviceOf store binding = some service ∧
        store.connections (binding.organisationId, binding.runtimeConnectionId) = some runtime := by
  induction bindings generalizing consumers with
  | nil => exact fun _ hmem => absurd hmem List.not_mem_nil
  | cons first rest ih =>
    simp only [CredentialImport.consumers, Option.bind_eq_bind, Option.bind_eq_some_iff, Option.pure_def,
      Option.some.injEq] at h
    obtain ⟨service, hservice, runtime, hruntime, others, hothers, rfl⟩ := h
    intro binding hmem
    rcases List.mem_cons.mp hmem with rfl | hmem
    · exact ⟨service, runtime, List.mem_cons_self, hservice, hruntime⟩
    · obtain ⟨service, runtime, hin, hs, hr⟩ := ih hothers binding hmem
      exact ⟨service, runtime, List.mem_cons_of_mem _ hin, hs, hr⟩

/-- The store after the inventory of a new service is written, if there is one. -/
private def setupWritten (store : InventoryStore) (setup : Option ServiceSetup) : InventoryStore :=
  setup.elim store fun setup => (setupResources setup).foldl put store

private theorem setupWritten_consistent (h : Consistent o (view store o)) {item : CredentialImport}
    (ho : item.credential.organisationId = o) (hfresh : item.checkFresh store = .ok ())
    (hsetup : item.checkSetup = .ok ())
    (hactive : ∀ setup ∈ item.setup, SetupActive setup ∧ (setup.service.archivedAt = none →
      (∀ id ∈ setup.service.runtimeConnectionId :: setup.service.telemetryConnectionIds,
        store.connections (setup.service.organisationId, id) ≠ none) ∧
      ConnectionsActive store setup.service.organisationId
        (setup.service.runtimeConnectionId :: setup.service.telemetryConnectionIds))) :
    Consistent o (view (setupWritten store item.setup) o) ∧
      ∀ node, Live (graph (view store o)) node → Live (graph (view (setupWritten store item.setup) o)) node := by
  cases hs : item.setup with
  | none => exact ⟨h, fun _ hlive => hlive⟩
  | some setup =>
    simp only [CredentialImport.checkFresh, unit_bind_ok, raiseIf_ok, hs, Option.mem_def, Option.some.injEq,
      exists_eq_left', not_or, Option.not_isSome_iff_eq_none] at hfresh
    simp only [CredentialImport.checkSetup, raiseIf_ok, hs, Option.mem_def, Option.some.injEq, exists_eq_left', not_or,
      not_not] at hsetup
    obtain ⟨-, -, -, hfa, hfe, hfs⟩ := hfresh
    obtain ⟨hoa, hoe, hos, henvironment, hservice⟩ := hsetup
    obtain ⟨hsetupActive, hconnections⟩ := hactive setup hs
    refine setup_consistent h ?_ ?_ henvironment hservice hsetupActive ?_
    · simp only [setupResources, List.forall_mem_cons, List.not_mem_nil, false_implies, implies_true, and_true]
      exact ⟨hoa.trans ho, hoe.trans ho, hos.trans ho⟩
    · simp [setupResources, stored, hfa, hfe, hfs]
    · intro harchived id hid
      obtain ⟨hexist, hopen⟩ := hconnections harchived
      obtain ⟨connection, hread⟩ := Option.ne_none_iff_exists'.mp (hexist id hid)
      exact live_connection (hos.trans ho ▸ hread) (hopen id hid connection hread)

private theorem serviceOf_written {item : CredentialImport} {binding : ConsumerBinding} {service : ConsumerService}
    (hsetup : ∀ setup ∈ item.setup, setup.service.organisationId = o) (ho : binding.organisationId = o)
    (h : item.serviceOf store binding = some service) :
    (setupWritten store item.setup).services (o, binding.serviceId) = some service := by
  unfold CredentialImport.serviceOf at h
  cases hs : item.setup with
  | none =>
    rw [hs] at h
    exact ho ▸ h
  | some setup =>
    simp only [hs] at h
    have hso := hsetup setup hs
    by_cases hid : binding.serviceId = setup.service.id
    · rw [if_pos hid] at h
      simp only [setupWritten, Option.elim, setupResources, List.foldl_cons, List.foldl_nil, put, hso, hid,
        Collection.set_same]
      exact h
    · rw [if_neg hid, ho] at h
      simp only [setupWritten, Option.elim, setupResources, List.foldl_cons, List.foldl_nil, put, hso]
      rw [Collection.set_of_ne fun hkey => hid (congrArg Prod.snd hkey)]
      exact h

private theorem importCredential_consistent (h : Consistent o (view store o)) {hashing : Hashing}
    {item : CredentialImport} {credential : ManagedCredential} (ho : item.credential.organisationId = o)
    (hused : item.bindings ≠ [] → item.credential.archivedAt = none)
    (hservices : ∀ binding ∈ item.bindings, ∀ service, item.serviceOf store binding = some service →
      service.archivedAt = none)
    (hactive : ∀ setup ∈ item.setup, SetupActive setup ∧ (setup.service.archivedAt = none →
      (∀ id ∈ setup.service.runtimeConnectionId :: setup.service.telemetryConnectionIds,
        store.connections (setup.service.organisationId, id) ≠ none) ∧
      ConnectionsActive store setup.service.organisationId
        (setup.service.runtimeConnectionId :: setup.service.telemetryConnectionIds)))
    (hok : importCredential hashing store item = .ok (credential, store')) : Consistent o (view store' o) := by
  unfold importCredential at hok
  simp only [unit_bind_ok, required_bind_ok] at hok
  obtain ⟨hfresh, management, hmanagement, secretStore, hsecretStore, consumers, hconsumers, hcheckManagement,
    hcheckSecretStore, -, -, -, hsetup, hchecked, hok⟩ := hok
  rw [bind_ok] at hok
  obtain ⟨committed, hcommit, hok⟩ := hok
  cases hok
  unfold CredentialImport.commit at hcommit
  rw [bind_ok] at hcommit
  obtain ⟨probes, -, hcommit⟩ := hcommit
  rw [bind_ok] at hcommit
  obtain ⟨bindings, hbindings, hcommit⟩ := hcommit
  rw [pure_ok] at hcommit
  obtain ⟨hwritten, hkept⟩ := setupWritten_consistent h ho hfresh hsetup hactive
  rw [forEach_ok] at hchecked
  -- the credential refers to connections that the import has checked
  have hfreshCredential : view (setupWritten store item.setup) o (.credential item.credential.id) = none := by
    have hnone : store.credentials (o, item.credential.id) = none := by
      simp only [CredentialImport.checkFresh, unit_bind_ok, raiseIf_ok, not_or, Option.not_isSome_iff_eq_none] at hfresh
      exact ho ▸ hfresh.1.1
    have hsame : (setupWritten store item.setup).credentials = store.credentials := by cases item.setup <;> rfl
    simp [view, hsame, hnone]
  have hcredential := hwritten.add (.credential item.credential) ho hfreshCredential trivial (by
    intro _ node hmem
    simp only [CredentialImport.checkManagement, CredentialImport.checkSecretStore, raiseIf_ok, not_or, not_not]
      at hcheckManagement hcheckSecretStore
    rcases List.mem_cons.mp hmem with rfl | hmem
    · exact hkept _ (live_connection (ho ▸ hmanagement) hcheckManagement.2.2.2.1)
    · obtain rfl := List.mem_singleton.mp hmem
      exact hkept _ (live_connection (ho ▸ hsecretStore) hcheckSecretStore.2.2.2.1))
  have hconsumer : ∀ binding ∈ item.bindings, binding.organisationId = o ∧ binding.credentialId = item.credential.id ∧
      ∃ service, view (setupWritten store item.setup) o (.service binding.serviceId) = some (.service service) ∧
        service.environmentId = binding.environmentId ∧ service.archivedAt = none ∧
        Live (graph (view store o)) (.connection binding.runtimeConnectionId) := by
    intro binding hmem
    obtain ⟨service, runtime, hin, hservice, hruntime⟩ := consumers_ok hconsumers binding hmem
    have hcheck := hchecked _ hin
    simp only [CredentialImport.checkConsumer, raiseIf_ok, not_or, not_not] at hcheck
    obtain ⟨hbo, hbc, -, -, -, henvironment, -, -, -, -, -, hopen, -⟩ := hcheck
    have hsetupOwn : ∀ setup ∈ item.setup, setup.service.organisationId = o := by
      intro setup hs
      simp only [CredentialImport.checkSetup, raiseIf_ok, not_exists, not_and, not_or, not_not] at hsetup
      exact (hsetup setup hs).2.2.1.trans ho
    have hstored := serviceOf_written (o := o) hsetupOwn (hbo.trans ho) hservice
    exact ⟨hbo.trans ho, hbc, service, congrArg (Option.map Document.service) hstored, henvironment.symm,
      hservices binding hmem service hservice, live_connection (hbo.trans ho ▸ hruntime) hopen⟩
  have hview : view store' o = view { put (setupWritten store item.setup) (.credential item.credential) with
      bindings := bindings } o := by
    rw [← hcommit]
    funext node
    cases item.setup <;> cases node <;> rfl
  rw [hview]
  have hro : (Resource.credential item.credential).organisationId = o := ho
  have hsame : (put (setupWritten store item.setup) (.credential item.credential)).bindings = store.bindings := by
    cases item.setup <;> rfl
  refine bindings_consistent hcredential (fun key => .alreadyExists key.2.text) item.bindings ?_
    (fun binding hmem => (hconsumer binding hmem).1) ?_ ?_
  · rw [hsame]
    cases hs : item.setup <;> simpa [hs] using hbindings
  · intro binding hmem
    obtain ⟨-, -, service, hservice, henvironment, -⟩ := hconsumer binding hmem
    refine ⟨service, ?_, henvironment⟩
    rw [view_put hro, Function.update_of_ne (by rintro ⟨⟩)]
    exact hservice
  · intro binding hmem node hnode
    obtain ⟨-, hcredentialId, service, hservice, henvironment, hopen, hruntime⟩ := hconsumer binding hmem
    have hin : Live (graph (view (setupWritten store item.setup) o)) (.service binding.serviceId) :=
      live_iff.mpr ⟨_, hservice, Option.isNone_iff_eq_none.mpr hopen⟩
    simp only [Document.refs, List.mem_cons, List.not_mem_nil, or_false] at hnode
    rcases hnode with rfl | rfl | rfl | rfl
    · rw [hcredentialId]
      exact live_added (.credential item.credential) ho
        (Option.isNone_iff_eq_none.mpr (hused (List.ne_nil_of_mem hmem)))
    · exact live_add hro hfreshCredential hin
    · -- the environment of the binding is that of its service
      apply live_add hro hfreshCredential
      refine hwritten.sound (.service binding.serviceId) (Document.service service).entry
        (congrArg (Option.map Document.entry) hservice) (Option.isNone_iff_eq_none.mpr hopen) _ ?_
      simp [Document.entry, Document.refs, henvironment]
    · exact live_add hro hfreshCredential (hkept _ hruntime)

private theorem importInventory_consistent (h : Consistent o (view store o)) {hashing : Hashing} {fresh : FreshIds}
    {request : ImportRequest} (ho : request.credential.organisationId = o)
    (hadmissible : Admissible store (.importCredential request))
    (hok : importInventory hashing fresh peers listing store request = .ok store') : Consistent o (view store' o) := by
  unfold importInventory at hok
  rw [bind_ok] at hok
  obtain ⟨management, -, hok⟩ := hok
  rw [bind_ok] at hok
  obtain ⟨secretStore, -, hok⟩ := hok
  rw [unit_bind_ok, bind_ok] at hok
  obtain ⟨hlineage, consumers, hconsumers, hok⟩ := hok
  rw [unit_bind_ok, bind_ok] at hok
  obtain ⟨-, compiled, -, hok⟩ := hok
  rw [bind_ok] at hok
  obtain ⟨⟨credential, written⟩, himport, hok⟩ := hok
  rw [pure_ok] at hok
  subst hok
  simp only [ImportRequest.checkLineage, unit_bind_ok, raiseIf_ok, not_exists, not_and, not_or, not_not] at hlineage
  refine importCredential_consistent h ho hadmissible.1 ?_ hadmissible.2.2 himport
  intro binding hmem service hservice
  apply hadmissible.2.1 binding hmem service
  have hown := (hlineage.2.2.2.2.2.2 binding hmem).2.2
  unfold CredentialImport.serviceOf at hservice
  unfold ImportRequest.serviceOf getService
  cases hs : request.setup with
  | none =>
    simp only [hs] at hservice ⊢
    rw [required_ok]
    exact hown ▸ hservice
  | some setup =>
    simp only [hs] at hservice ⊢
    by_cases hid : setup.service.id = binding.serviceId
    · rw [if_pos hid]
      rw [if_pos hid.symm] at hservice
      exact congrArg _ (Option.some.inj hservice)
    · rw [if_neg hid, required_ok]
      rw [if_neg (Ne.symm hid)] at hservice
      exact hown ▸ hservice

private theorem read_connection {id : Identifier} {connection : Connection}
    (hread : store.connections (o, id) = some connection) :
    view store o (.connection id) = some (.connection connection) := congrArg (Option.map _) hread

private theorem updateConnection_consistent (h : Consistent o (view store o)) {id : Identifier} {expected : Nat}
    {edit : ConnectionEdit} (hok : updateConnection peers listing store o id expected edit = .ok store') :
    Consistent o (view store' o) := by
  unfold updateConnection getConnection at hok
  rw [required_bind_ok] at hok
  obtain ⟨current, hread, hok⟩ := hok
  rw [unit_bind_ok, unit_bind_ok, bind_ok] at hok
  obtain ⟨hactive, -, changed, hchanged, hok⟩ := hok
  rw [unit_bind_ok, unit_bind_ok] at hok
  rw [raiseIf_ok, not_not] at hactive
  have hfields := validConnection_ok hchanged
  have hview := read_connection hread
  obtain ⟨ho, hid⟩ := h.keyed _ _ hview
  have hsame : changed.id = current.id ∧ changed.organisationId = current.organisationId ∧
      changed.archivedAt = current.archivedAt := by rw [hfields]; exact ⟨rfl, rfl, rfl⟩
  refine h.replace hok.2.2 (.connection current) (hid ▸ hview) ⟨?_, trivial⟩ (hsame.2.1.trans ho) ?_
    fun node hmem => absurd hmem List.not_mem_nil
  · exact congrArg Node.connection hsame.1
  · exact Option.isNone_iff_eq_none.mpr (hsame.2.2.trans hactive)

private theorem updateApplication_consistent (h : Consistent o (view store o)) {id : Identifier} {expected : Nat}
    {described : Bool} (hok : updateApplication store o id expected described = .ok store') :
    Consistent o (view store' o) := by
  unfold updateApplication getApplication changeable editable at hok
  simp only [required_bind_ok, unit_bind_ok, raiseIf_ok, not_not] at hok
  obtain ⟨current, hread, ⟨⟨hactive, -⟩, -⟩, hok⟩ := hok
  have hview : view store o (.application id) = some (.application current) := congrArg (Option.map _) hread
  obtain ⟨ho, hid⟩ := h.keyed _ _ hview
  exact h.replace hok (.application current) (hid ▸ hview) ⟨rfl, trivial⟩ ho
    (Option.isNone_iff_eq_none.mpr hactive) fun node hmem => absurd hmem List.not_mem_nil

private theorem updateEnvironment_consistent (h : Consistent o (view store o)) {id : Identifier} {expected : Nat}
    {described : Bool} (hok : updateEnvironment store o id expected described = .ok store') :
    Consistent o (view store' o) := by
  unfold updateEnvironment getEnvironment changeable editable at hok
  simp only [required_bind_ok, unit_bind_ok, raiseIf_ok, not_not] at hok
  obtain ⟨current, hread, ⟨⟨hactive, -⟩, -⟩, hok⟩ := hok
  have hview : view store o (.environment id) = some (.environment current) := congrArg (Option.map _) hread
  obtain ⟨ho, hid⟩ := h.keyed _ _ hview
  exact h.replace hok (.environment current) (hid ▸ hview) ⟨rfl, rfl⟩ ho
    (Option.isNone_iff_eq_none.mpr hactive) fun node hmem => .inl ⟨hmem, Option.isNone_iff_eq_none.mpr hactive⟩

private theorem given_or_kept (given : Option Identifier) {kept : Identifier} {others ids : List Identifier} :
    given.getD kept ∈ given.toList ++ others ∨ given.getD kept ∈ kept :: ids := by
  cases given <;> simp

private theorem apply_ok {edit : ServiceEdit} {current changed : ConsumerService} {revision : Nat}
    (h : edit.apply current revision = .ok changed) :
    (changed.id = current.id ∧ changed.organisationId = current.organisationId ∧
      changed.applicationId = current.applicationId ∧ changed.environmentId = current.environmentId ∧
      changed.archivedAt = current.archivedAt) ∧
    ∀ id ∈ changed.runtimeConnectionId :: changed.telemetryConnectionIds,
      id ∈ edit.runtimeConnectionId.toList ++ edit.telemetryConnectionIds.getD [] ∨
        id ∈ current.runtimeConnectionId :: current.telemetryConnectionIds := by
  unfold ServiceEdit.apply at h
  dsimp only at h
  split at h
  · cases h
    refine ⟨⟨rfl, rfl, rfl, rfl, rfl⟩, ?_⟩
    intro id hid
    rcases List.mem_cons.mp hid with rfl | hid
    · exact given_or_kept edit.runtimeConnectionId
    · cases htelemetry : edit.telemetryConnectionIds with
      | none => exact .inr (List.mem_cons_of_mem _ (by simpa [htelemetry] using hid))
      | some ids => exact .inl (List.mem_append_right _ (by simpa [htelemetry] using hid))
  · cases h

private theorem updateService_consistent (h : Consistent o (view store o)) {id : Identifier} {expected : Nat}
    {edit : ServiceEdit} (hadmissible : Admissible store (.updateService o id expected edit))
    (hok : updateService store o id expected edit = .ok store') : Consistent o (view store' o) := by
  unfold updateService getService changeable editable at hok
  simp only [required_bind_ok, unit_bind_ok, raiseIf_ok, not_not] at hok
  obtain ⟨current, hread, ⟨⟨hactive, -⟩, -⟩, hok⟩ := hok
  rw [bind_ok] at hok
  obtain ⟨changed, hchanged, hok⟩ := hok
  rw [unit_bind_ok] at hok
  obtain ⟨hconnections, hok⟩ := hok
  have hview : view store o (.service id) = some (.service current) := congrArg (Option.map _) hread
  obtain ⟨ho, hid⟩ := h.keyed _ _ hview
  obtain ⟨⟨hsame, horganisation, happlication, henvironment, harchived⟩, hids⟩ := apply_ok hchanged
  have hlive : (Document.service current).live = true := Option.isNone_iff_eq_none.mpr hactive
  refine h.replace hok (.service current) (hid ▸ hview) ⟨congrArg Node.service hsame, henvironment, happlication⟩
    (horganisation.trans ho) (Option.isNone_iff_eq_none.mpr (harchived.trans hactive)) ?_
  intro node hmem
  rcases List.mem_cons.mp hmem with rfl | hmem
  · exact .inl ⟨by simp [Document.refs, happlication], hlive⟩
  rcases List.mem_cons.mp hmem with rfl | hmem
  · exact .inl ⟨by simp [Document.refs, henvironment], hlive⟩
  · obtain ⟨connectionId, hconnection, rfl⟩ := List.mem_map.mp hmem
    rcases hids connectionId hconnection with hgiven | hold
    · obtain ⟨connection, hstored⟩ := validateServiceConnections_ok hconnections connectionId hconnection
      rw [horganisation.trans ho] at hstored
      exact .inr (live_connection hstored (hadmissible connectionId hgiven connection hstored))
    · exact .inl ⟨List.mem_cons_of_mem _ (List.mem_cons_of_mem _ (List.mem_map_of_mem hold)), hlive⟩

private theorem credential_rewritten (h : Consistent o (view store o)) {id : Identifier}
    {current : CredentialFields} (changed : CredentialFields) (hread : store.credentials (o, id) = some current)
    (hview : view store' o = view { store with credentials := store.credentials.set (o, id) changed } o)
    (hsame : changed.id = current.id ∧ changed.organisationId = current.organisationId ∧
      changed.connectionId = current.connectionId ∧ changed.secretStoreConnectionId = current.secretStoreConnectionId ∧
      changed.archivedAt = current.archivedAt) : Consistent o (view store' o) := by
  have hbefore : view store o (.credential id) = some (.credential current) := congrArg (Option.map _) hread
  obtain ⟨ho, hid⟩ := h.keyed _ _ hbefore
  have hkey : changed.id = id := hsame.1.trans (Node.credential.inj hid)
  have hupdate : view { store with credentials := store.credentials.set (o, id) changed } o =
      Function.update (view store o) (Document.credential changed).node (some (.credential changed)) := by
    funext node
    by_cases hn : node = (Document.credential changed).node
    · subst hn
      rw [Function.update_self]
      simp [view, Document.node, hkey]
    · rw [Function.update_of_ne hn]
      cases node <;> simp_all [view, Document.node]
  rw [hview, hupdate]
  refine h.put (hsame.2.1.trans ho) ?_ trivial ?_
  · intro before hb
    rw [show (Document.credential changed).node = .credential id from congrArg Node.credential hkey, hbefore] at hb
    obtain rfl := Option.some.inj hb
    refine ⟨⟨congrArg Node.credential hsame.1, trivial⟩, fun hlive => ?_⟩
    simpa [Document.live, hsame.2.2.2.2] using hlive
  · intro hlive node hmem
    refine h.sound _ (Document.credential current).entry (congrArg (Option.map Document.entry) hbefore) ?_ node ?_
    · simpa [Document.live, Document.entry, hsame.2.2.2.2] using hlive
    · simpa [Document.refs, Document.entry, hsame.2.2.1, hsame.2.2.2.1] using hmem

private theorem updateCredential_consistent (h : Consistent o (view store o)) {id : Identifier} {expected : Nat}
    {displayName : Option (Text 1 160)} (hok : updateCredential peers store o id expected displayName = .ok store') :
    Consistent o (view store' o) := by
  unfold updateCredential at hok
  rw [bind_ok] at hok
  obtain ⟨current, hread, hok⟩ := hok
  rw [unit_bind_ok, bind_ok] at hok
  obtain ⟨-, changed, hchanged, hok⟩ := hok
  rw [bind_ok] at hok
  obtain ⟨⟨result, after⟩, hreplace, hok⟩ := hok
  rw [pure_ok] at hok
  subst hok
  have hfields := (ManagedCredential.modelValidate_ok _ _).mp hchanged
  have hstored := getCredential_ok.mp hread
  have hkeyed := h.keyed (.credential id) (.credential current.toCredentialFields) (congrArg (Option.map _) hstored)
  have hkey : (changed.organisationId, changed.id) = (o, id) := by
    rw [hfields]
    exact Prod.ext hkeyed.1 (Node.credential.inj hkeyed.2)
  obtain ⟨-, -, -, -, hwritten⟩ := replaceCredential_writes hreplace
  rw [hkey] at hwritten
  refine credential_rewritten h changed.toCredentialFields hstored ?_ (by rw [hfields]; exact ⟨rfl, rfl, rfl, rfl, rfl⟩)
  rw [replaceCredential_frame hreplace, hwritten]

private theorem updateControls_consistent (h : Consistent o (view store o)) {hashing : Hashing} {id : Identifier}
    {expected : Nat} {versionId : Identifier} {preferences : ControlPreferences} {actorId : Identifier}
    (hok : updateCredentialControls hashing peers listing store o id expected versionId preferences actorId = .ok store') :
    Consistent o (view store' o) := by
  unfold updateCredentialControls at hok
  rw [bind_ok] at hok
  obtain ⟨current, hread, hok⟩ := hok
  rw [unit_bind_ok, unit_bind_ok, bind_ok] at hok
  obtain ⟨-, -, previous, -, hok⟩ := hok
  rw [bind_ok] at hok
  obtain ⟨definition, -, hok⟩ := hok
  rw [bind_ok] at hok
  obtain ⟨changed, hchanged, hok⟩ := hok
  rw [bind_ok] at hok
  obtain ⟨⟨result, after⟩, hreplace, hok⟩ := hok
  rw [pure_ok] at hok
  subst hok
  have hfields := (ManagedCredential.modelValidate_ok _ _).mp hchanged
  have hstored := getCredential_ok.mp hread
  have hkeyed := h.keyed (.credential id) (.credential current.toCredentialFields) (congrArg (Option.map _) hstored)
  have hkey : (changed.organisationId, changed.id) = (o, id) := by
    rw [hfields]
    exact Prod.ext hkeyed.1 (Node.credential.inj hkeyed.2)
  obtain ⟨-, -, -, -, hwritten⟩ := replaceControls_writes hreplace
  rw [hkey] at hwritten
  refine credential_rewritten h changed.toCredentialFields hstored ?_ (by rw [hfields]; exact ⟨rfl, rfl, rfl, rfl, rfl⟩)
  rw [replaceControls_frame hreplace, hwritten]
  funext node
  cases node <;> rfl

private theorem recordObservation_consistent (h : Consistent o (view store o)) {id : Identifier} {expected : Nat}
    {observation : Observation}
    (hok : recordCredentialObservation store o id expected observation = .ok store') : Consistent o (view store' o) := by
  unfold recordCredentialObservation at hok
  rw [bind_ok] at hok
  obtain ⟨⟨result, after⟩, hrecord, hok⟩ := hok
  rw [pure_ok] at hok
  subst hok
  obtain ⟨current, hstored, -, hwritten⟩ := recordObservation_writes hrecord
  refine credential_rewritten h (observation.observed current) hstored ?_ ⟨rfl, rfl, rfl, rfl, rfl⟩
  rw [recordObservation_frame hrecord, hwritten]
  funext node
  cases node <;> rfl

/-- A connection is archived after what it is used for; nothing in use refers to it before it is archived alone. -/
theorem archiveConnection_consistent (h : Consistent o (view store o)) (hlisting : listing.Of store o)
    {id : Identifier} {expected : Nat} {cascade : Bool}
    (hadmissible : Admissible store (.archiveConnection o id expected cascade))
    (hok : archiveConnection peers listing store o id expected cascade = .ok store') :
    Consistent o (view store' o) ∧ ¬ Live (graph (view store' o)) (.connection id) ∧
      (cascade = false → ∀ node document, view store o node = some document → document.live = true →
        .connection id ∉ document.refs) := by
  obtain ⟨hsmall, hbindings⟩ := hadmissible
  unfold archiveConnection getConnection editable at hok
  rw [required_bind_ok] at hok
  obtain ⟨current, hread, hok⟩ := hok
  rw [bind_ok] at hok
  obtain ⟨active, hactive, hok⟩ := hok
  have hsnapshot := snapshot_of h hlisting hsmall hactive
  simp only [unit_bind_ok, raiseIf_ok, not_and, not_not] at hok
  obtain ⟨hcascade, -, hok⟩ := hok
  rw [bind_ok] at hok
  obtain ⟨archived, harchived, hok⟩ := hok
  have hfields := validConnection_ok harchived
  have hview := read_connection hread
  obtain ⟨ho, hid⟩ := h.keyed _ _ hview
  have hkey : current.id = id := Node.connection.inj hid
  have hsame : archived.id = id ∧ archived.organisationId = o := by
    rw [hfields]
    exact ⟨hkey, ho⟩
  -- every document in use that refers to the connection is among the dependents
  have hservice : ∀ value ∈ listing.activeServices, Node.connection id ∈ (Document.service value).refs →
      value ∈ listing.activeServices.filter fun service =>
        id = service.runtimeConnectionId || service.telemetryConnectionIds.contains id := by
    intro value hmem href
    refine List.mem_filter.mpr ⟨hmem, ?_⟩
    simpa using href
  have hcredential : ∀ value ∈ active,
      Node.connection id ∈ (Document.credential value.toCredentialFields).refs →
      value ∈ active.filter fun credential =>
        id = credential.connectionId || id = credential.secretStoreConnectionId := by
    intro value hmem href
    refine List.mem_filter.mpr ⟨hmem, ?_⟩
    simpa using href
  have hbinding : ∀ value ∈ listing.bindings, Node.connection id ∈ (Document.binding value).refs →
      (∃ service ∈ listing.activeServices, service.id = value.serviceId ∧
        Node.connection id ∈ (Document.service service).refs) ∨
      ∃ credential ∈ active, credential.id = value.credentialId ∧
        Node.connection id ∈ (Document.credential credential.toCredentialFields).refs := by
    intro value hmem href
    have hbound := (hsnapshot.bindings value).mp hmem
    obtain ⟨found, hstored, hfound⟩ := Option.map_eq_some_iff.mp hbound
    cases hfound
    have hruntime : value.runtimeConnectionId = id := ((Document.connection_mem_binding id value).mp href).symm
    have hused : ∀ node ∈ (Document.binding value).refs, Live (graph (view store o)) node :=
      h.sound _ _ (congrArg (Option.map Document.entry) hbound) rfl
    rcases hbindings _ value hstored hruntime with ⟨service, hs, hrefers⟩ | ⟨credential, hc, hrefers⟩
    · obtain ⟨found, hfound, hl⟩ := live_iff.mp (hused (.service value.serviceId) (by simp))
      have hsview : view store o (.service value.serviceId) = some (.service service) := congrArg (Option.map _) hs
      obtain rfl := Option.some.inj (hsview.symm.trans hfound)
      have hsid : service.id = value.serviceId := Node.service.inj (h.keyed _ _ hsview).2
      refine .inl ⟨service, (hsnapshot.services service).mpr ⟨hsid ▸ hsview, Option.isNone_iff_eq_none.mp hl⟩, hsid, ?_⟩
      exact (Document.connection_mem_service id service).mpr hrefers
    · obtain ⟨found, hfound, hl⟩ := live_iff.mp (hused (.credential value.credentialId) (by simp))
      have hcview : view store o (.credential value.credentialId) = some (.credential credential) :=
        congrArg (Option.map _) hc
      obtain rfl := Option.some.inj (hcview.symm.trans hfound)
      have hcid : credential.id = value.credentialId := Node.credential.inj (h.keyed _ _ hcview).2
      obtain ⟨managed, hmanaged, rfl⟩ :=
        (hsnapshot.credentials credential).mpr ⟨hcid ▸ hcview, Option.isNone_iff_eq_none.mp hl⟩
      refine .inr ⟨managed, hmanaged, hcid, ?_⟩
      exact (Document.connection_mem_credential id _).mpr hrefers
  have hnode : (Resource.connection archived).document.node = .connection id := congrArg Node.connection hsame.1
  obtain ⟨hconsistent, hdead⟩ := h.archiveWith hactive hsnapshot hok hsame.2 (.connection current) (hid ▸ hview)
    ⟨hnode.trans hid.symm, trivial⟩ {
      listed_environments := by rintro _ ⟨⟩
      listed_services := fun value hmem => (List.mem_filter.mp hmem).1
      environment := fun value _ href => by simp [hnode, Document.refs] at href
      service := by
        intro value hmem href
        rw [hnode] at href
        rcases href with href | ⟨environment, henvironment, -⟩
        · exact hservice value hmem href
        · cases henvironment
      credential := by
        intro value hmem href
        rw [hnode] at href
        apply List.mem_append_left
        apply List.mem_append_left
        exact List.mem_map_of_mem (hcredential value hmem href)
      binding := by
        intro value hmem href
        rw [hnode] at href
        rcases hbinding value hmem href with ⟨service, hs, hsid, hsrefs⟩ | ⟨credential, hc, hcid, hcrefs⟩
        · exact mem_credentialIds hmem (hservice service hs hsrefs) hsid.symm
        · rw [← hcid]
          apply List.mem_append_left
          apply List.mem_append_left
          exact List.mem_map_of_mem (hcredential credential hc hcrefs) }
  refine ⟨hconsistent, hnode ▸ hdead, ?_⟩
  intro halone node document hstored hlive href
  subst halone
  simp only [Bool.false_eq_true, imp_false, not_or, not_not] at hcascade
  obtain ⟨hservices, hcredentials⟩ := hcascade
  obtain rfl := (h.keyed node document hstored).2
  have hnoService : ∀ value ∈ listing.activeServices, Node.connection id ∉ (Document.service value).refs :=
    fun value hmem href => List.ne_nil_of_mem (hservice value hmem href) hservices
  have hnoCredential : ∀ value ∈ active,
      Node.connection id ∉ (Document.credential value.toCredentialFields).refs :=
    fun value hmem href => List.ne_nil_of_mem (hcredential value hmem href) hcredentials
  cases document with
  | connection value => cases href
  | application value => cases href
  | environment value => simp [Document.refs] at href
  | service value =>
    exact hnoService value ((hsnapshot.services value).mpr ⟨hstored, Option.isNone_iff_eq_none.mp hlive⟩) href
  | credential value =>
    obtain ⟨managed, hmanaged, rfl⟩ := (hsnapshot.credentials value).mpr ⟨hstored, Option.isNone_iff_eq_none.mp hlive⟩
    exact hnoCredential managed hmanaged href
  | binding value =>
    rcases hbinding value ((hsnapshot.bindings value).mpr hstored) href with
      ⟨service, hs, -, hsrefs⟩ | ⟨credential, hc, -, hcrefs⟩
    · exact hnoService service hs hsrefs
    · exact hnoCredential credential hc hcrefs

private theorem archiveApplication_consistent (h : Consistent o (view store o)) (hlisting : listing.Of store o)
    (hsmall : Small store o) {id : Identifier} {expected : Nat} {cascade : Bool}
    (hok : archiveApplication peers listing store o id expected cascade = .ok store') :
    Consistent o (view store' o) := by
  unfold archiveApplication getApplication at hok
  simp only [required_bind_ok, unit_bind_ok] at hok
  obtain ⟨current, hread, -, -, hok⟩ := hok
  obtain ⟨active, hactive⟩ := archiveWith_active hok
  have hsnapshot := snapshot_of h hlisting hsmall hactive
  have hview : view store o (.application id) = some (.application current) := congrArg (Option.map _) hread
  obtain ⟨ho, hid⟩ := h.keyed _ _ hview
  have hnode : (archivedApplication peers current).document.node = .application id := hid
  refine (h.archiveWith hactive hsnapshot hok ho (.application current) (hid ▸ hview) ⟨rfl, trivial⟩ {
    listed_environments := fun value hmem => (List.mem_filter.mp hmem).1
    listed_services := fun value hmem => (List.mem_filter.mp hmem).1
    environment := ?_
    service := ?_
    credential := fun value _ href => by simp [hnode, Document.refs] at href
    binding := fun value _ href => by simp [hnode, Document.refs] at href }).1
  · intro value hmem href
    rw [hnode] at href
    refine List.mem_filter.mpr ⟨hmem, ?_⟩
    simpa [Document.refs, eq_comm] using href
  · intro value hmem href
    refine List.mem_filter.mpr ⟨hmem, decide_eq_true ?_⟩
    rcases href with href | ⟨environment, henvironment, hin⟩
    · rw [hnode] at href
      simpa [Document.refs, eq_comm] using href
    · -- the environment of the service is one of the application
      obtain ⟨hmem', happlication⟩ := List.mem_filter.mp henvironment
      obtain ⟨found, hfound, hsame⟩ := h.placed _ _ ((hsnapshot.services value).mp hmem).1
      have hstored := ((hsnapshot.environments environment).mp hmem').1
      rw [hin, hfound] at hstored
      cases hstored
      exact hsame.symm.trans (of_decide_eq_true happlication)

private theorem service_of_binding (h : Consistent o (view store o)) {active : List ManagedCredential}
    (hsnapshot : Snapshot listing active (view store o)) {binding : ConsumerBinding} (hmem : binding ∈ listing.bindings) : ∃ service ∈ listing.activeServices,
      service.id = binding.serviceId ∧ service.environmentId = binding.environmentId := by
  have hview := (hsnapshot.bindings binding).mp hmem
  obtain ⟨service, hservice, henvironment⟩ := h.placed _ _ hview
  obtain ⟨found, hfound, hlive⟩ := live_iff.mp (h.sound _ _ (congrArg (Option.map Document.entry) hview) rfl
    (.service binding.serviceId) ((Document.service_mem_binding _ _).mpr rfl))
  obtain rfl := Option.some.inj (hservice.symm.trans hfound)
  have hid : service.id = binding.serviceId := Node.service.inj (h.keyed _ _ hservice).2
  exact ⟨service, (hsnapshot.services service).mpr ⟨hid ▸ hservice, Option.isNone_iff_eq_none.mp hlive⟩, hid,
    henvironment⟩

private theorem archiveEnvironment_consistent (h : Consistent o (view store o)) (hlisting : listing.Of store o)
    (hsmall : Small store o) {id : Identifier} {expected : Nat} {cascade : Bool}
    (hok : archiveEnvironment peers listing store o id expected cascade = .ok store') :
    Consistent o (view store' o) := by
  unfold archiveEnvironment getEnvironment at hok
  simp only [required_bind_ok, unit_bind_ok] at hok
  obtain ⟨current, hread, -, -, hok⟩ := hok
  obtain ⟨active, hactive⟩ := archiveWith_active hok
  have hsnapshot := snapshot_of h hlisting hsmall hactive
  have hview : view store o (.environment id) = some (.environment current) := congrArg (Option.map _) hread
  obtain ⟨ho, hid⟩ := h.keyed _ _ hview
  have hnode : (archivedEnvironment peers current).document.node = .environment id := hid
  refine (h.archiveWith hactive hsnapshot hok ho (.environment current) (hid ▸ hview) ⟨rfl, rfl⟩ {
    listed_environments := fun _ hmem => absurd hmem List.not_mem_nil
    listed_services := fun value hmem => (List.mem_filter.mp hmem).1
    environment := fun value _ href => by simp [hnode, Document.refs] at href
    service := ?_
    credential := fun value _ href => by simp [hnode, Document.refs] at href
    binding := ?_ }).1
  · intro value hmem href
    refine List.mem_filter.mpr ⟨hmem, decide_eq_true ?_⟩
    rcases href with href | ⟨environment, henvironment, -⟩
    · rw [hnode] at href
      simpa [Document.refs, eq_comm] using href
    · cases henvironment
  · intro value hmem href
    rw [hnode, Document.environment_mem_binding] at href
    obtain ⟨service, hactive, hsid, hin⟩ := service_of_binding h hsnapshot hmem
    have hlisted : service ∈ listing.activeServices.filter fun service => service.environmentId = id :=
      List.mem_filter.mpr ⟨hactive, decide_eq_true (hin.trans href.symm)⟩
    exact mem_credentialIds hmem hlisted hsid.symm

private theorem archiveService_consistent (h : Consistent o (view store o)) (hlisting : listing.Of store o)
    (hsmall : Small store o) {id : Identifier} {expected : Nat} {cascade : Bool}
    (hok : archiveService peers listing store o id expected cascade = .ok store') :
    Consistent o (view store' o) := by
  unfold archiveService getService at hok
  simp only [required_bind_ok, unit_bind_ok] at hok
  obtain ⟨current, hread, -, -, hok⟩ := hok
  rw [bind_ok] at hok
  obtain ⟨active, hactive, hok⟩ := hok
  have hsnapshot := snapshot_of h hlisting hsmall hactive
  have hview : view store o (.service id) = some (.service current) := congrArg (Option.map _) hread
  obtain ⟨ho, hid⟩ := h.keyed _ _ hview
  have hnode : (archivedService peers current).document.node = .service id := hid
  refine (h.archiveWith hactive hsnapshot hok ho (.service current) (hid ▸ hview) ⟨rfl, rfl, rfl⟩ {
    listed_environments := fun _ hmem => absurd hmem List.not_mem_nil
    listed_services := fun _ hmem => absurd hmem List.not_mem_nil
    environment := fun value _ href => by simp [hnode, Document.refs] at href
    service := ?_
    credential := fun value _ href => by simp [hnode, Document.refs] at href
    binding := ?_ }).1
  · intro value hmem href
    rcases href with href | ⟨environment, henvironment, -⟩
    · simp [hnode, Document.refs] at href
    · cases henvironment
  · intro value hmem href
    rw [hnode, Document.service_mem_binding] at href
    -- the credential of the binding is in use, and archived with the service
    have hbound := (hsnapshot.bindings value).mp hmem
    obtain ⟨found, hfound, hlive⟩ := live_iff.mp (h.sound _ _ (congrArg (Option.map Document.entry) hbound) rfl
      (.credential value.credentialId) ((Document.credential_mem_binding _ _).mpr rfl))
    obtain ⟨credential, hcredential, rfl⟩ := Option.map_eq_some_iff.mp hfound
    have hcid : credential.id = value.credentialId := Node.credential.inj (h.keyed _ _ hfound).2
    obtain ⟨managed, hmanaged, rfl⟩ :=
      (hsnapshot.credentials credential).mpr ⟨hcid ▸ hfound, Option.isNone_iff_eq_none.mp hlive⟩
    rw [← hcid]
    apply List.mem_append_left
    apply List.mem_append_left
    refine List.mem_map_of_mem (List.mem_filter.mpr ⟨hmanaged, List.contains_iff_mem.mpr ?_⟩)
    rw [hcid]
    exact List.mem_map_of_mem (List.mem_filter.mpr ⟨hmem, decide_eq_true href.symm⟩)

private theorem archiveCredential_consistent (h : Consistent o (view store o)) (hlisting : listing.Of store o)
    (hsmall : Small store o) {id : Identifier} {expected : Nat} {cascade : Bool}
    (hok : archiveCredential peers listing store o id expected cascade = .ok store') :
    Consistent o (view store' o) := by
  unfold archiveCredential at hok
  rw [bind_ok] at hok
  obtain ⟨current, hread, hok⟩ := hok
  simp only [unit_bind_ok] at hok
  obtain ⟨-, -, hok⟩ := hok
  obtain ⟨active, hactive⟩ := archiveWith_active hok
  have hsnapshot := snapshot_of h hlisting hsmall hactive
  have hview : view store o (.credential id) = some (.credential current.toCredentialFields) :=
    congrArg (Option.map _) (getCredential_ok.mp hread)
  obtain ⟨ho, hid⟩ := h.keyed _ _ hview
  have hnode : (archivedCredential peers current).document.node = .credential id := hid
  refine (h.archiveWith hactive hsnapshot hok ho (.credential current.toCredentialFields) (hid ▸ hview) ⟨rfl, trivial⟩ {
    listed_environments := fun _ hmem => absurd hmem List.not_mem_nil
    listed_services := fun _ hmem => absurd hmem List.not_mem_nil
    environment := fun value _ href => by simp [hnode, Document.refs] at href
    service := ?_
    credential := fun value _ href => by simp [hnode, Document.refs] at href
    binding := ?_ }).1
  · intro value hmem href
    rcases href with href | ⟨environment, henvironment, -⟩
    · simp [hnode, Document.refs] at href
    · cases henvironment
  · intro value hmem href
    rw [hnode, Document.credential_mem_binding] at href
    apply List.mem_append_left
    apply List.mem_append_right
    rw [← href]
    exact List.mem_singleton.mpr (Node.credential.inj hid).symm

/-- One operation of the service keeps the invariant when it finds in use what it does not read. -/
theorem perform_consistent (h : Consistent o (view store o)) (hlisting : listing.Of store o) {hashing : Hashing}
    {fresh : FreshIds} {operation : Operation} (ho : operation.organisationId = o)
    (hadmissible : Admissible store operation)
    (hok : operation.perform hashing fresh peers listing store = .ok store') : Consistent o (view store' o) := by
  cases operation with
  | addConnection connection => exact addConnection_consistent h ho hok
  | addApplication application => exact addApplication_consistent h ho hok
  | addEnvironment environment => exact addEnvironment_consistent h ho hadmissible hok
  | addService service => exact addService_consistent h ho hadmissible hok
  | addApplicationSetup setup => exact addApplicationSetup_consistent h ho hadmissible hok
  | importCredential request => exact importInventory_consistent h ho hadmissible hok
  | updateConnection _ id expected edit =>
    subst ho
    exact updateConnection_consistent h hok
  | updateApplication _ id expected described =>
    subst ho
    exact updateApplication_consistent h hok
  | updateEnvironment _ id expected described =>
    subst ho
    exact updateEnvironment_consistent h hok
  | updateService _ id expected edit =>
    subst ho
    exact updateService_consistent h hadmissible hok
  | updateCredential _ id expected displayName =>
    subst ho
    exact updateCredential_consistent h hok
  | updateControls _ id expected versionId preferences actorId =>
    subst ho
    exact updateControls_consistent h hok
  | recordObservation _ id expected observation =>
    subst ho
    exact recordObservation_consistent h hok
  | archiveConnection _ id expected cascade =>
    subst ho
    exact (archiveConnection_consistent h hlisting hadmissible hok).1
  | archiveApplication _ id expected cascade =>
    subst ho
    exact archiveApplication_consistent h hlisting hadmissible hok
  | archiveEnvironment _ id expected cascade =>
    subst ho
    exact archiveEnvironment_consistent h hlisting hadmissible hok
  | archiveService _ id expected cascade =>
    subst ho
    exact archiveService_consistent h hlisting hadmissible hok
  | archiveCredential _ id expected cascade =>
    subst ho
    exact archiveCredential_consistent h hlisting hadmissible hok

end

end Uumi.Inventory
