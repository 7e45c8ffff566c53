import Uumi.Inventory.References

/-! Archiving a resource with what depends on it. -/
namespace Uumi.Inventory
open Uumi.Contracts Uumi.Core Uumi.Foundations Uumi.Foundations.Graph Uumi.Policy Uumi.Storage

section
variable {store store' : InventoryStore} {o : Identifier}

private theorem record_mem {resources : List Resource} {resource found : Resource}
    (h : found ∈ record resources resource) : found ∈ resources ∨ found = resource := by
  unfold record at h
  split at h
  · obtain ⟨other, hother, rfl⟩ := List.mem_map.mp h
    split
    · exact .inr rfl
    · exact .inl hother
  · rcases List.mem_append.mp h with h | h
    · exact .inl h
    · exact .inr (List.mem_singleton.mp h)

private theorem node_of_key {first second : Resource} (hfamily : first.family = second.family)
    (hid : first.id = second.id) : first.document.node = second.document.node := by
  cases first <;> cases second <;> simp_all [Resource.family, Resource.id, Resource.document, Document.node]

private theorem record_covers {resources : List Resource} {resource : Resource} {node : Node}
    (h : resource.document.node = node ∨ ∃ other ∈ resources, other.document.node = node) :
    ∃ other ∈ record resources resource, other.document.node = node := by
  unfold record
  split
  · rename_i hany
    simp only [List.any_eq_true, decide_eq_true_eq] at hany
    obtain ⟨found, hfound, hfamily, hid⟩ := hany
    rcases h with rfl | ⟨other, hother, rfl⟩
    · exact ⟨resource, List.mem_map.mpr ⟨found, hfound, if_pos ⟨hfamily, hid⟩⟩, rfl⟩
    · refine ⟨_, List.mem_map.mpr ⟨other, hother, rfl⟩, ?_⟩
      split
      · rename_i hkey
        exact (node_of_key hkey.1 hkey.2).symm
      · rfl
  · rcases h with rfl | ⟨other, hother, rfl⟩
    · exact ⟨resource, List.mem_append_right _ (List.mem_singleton.mpr rfl), rfl⟩
    · exact ⟨other, List.mem_append_left _ hother, rfl⟩

private theorem recorded_mem {resources dependents : List Resource} {found : Resource}
    (h : found ∈ dependents.foldl record resources) : found ∈ resources ∨ found ∈ dependents := by
  induction dependents generalizing resources with
  | nil => exact .inl h
  | cons dependent dependents ih =>
    rcases ih h with h | h
    · rcases record_mem h with h | rfl
      · exact .inl h
      · exact .inr List.mem_cons_self
    · exact .inr (List.mem_cons_of_mem _ h)

private theorem recorded_covers {resources dependents : List Resource} {resource : Resource}
    (h : resource ∈ resources ∨ resource ∈ dependents) :
    ∃ other ∈ dependents.foldl record resources, other.document.node = resource.document.node := by
  have hkeep : ∀ (dependents resources : List Resource), (∃ other ∈ resources, other.document.node = resource.document.node) →
      ∃ other ∈ dependents.foldl record resources, other.document.node = resource.document.node := by
    intro dependents
    induction dependents with
    | nil => exact fun _ h => h
    | cons dependent dependents ih => exact fun resources h => ih _ (record_covers (.inr h))
  induction dependents generalizing resources with
  | nil => exact ⟨resource, h.resolve_right List.not_mem_nil, rfl⟩
  | cons dependent dependents ih =>
    rcases h with h | h
    · exact hkeep (dependent :: dependents) resources ⟨resource, h, rfl⟩
    · rcases List.mem_cons.mp h with rfl | h
      · exact hkeep dependents _ (record_covers (.inl rfl))
      · exact ih (.inr h)

private theorem view_foldl_put (store : InventoryStore) {resources : List Resource}
    (h : ∀ resource ∈ resources, resource.organisationId = o) (node : Node) :
    (∃ resource ∈ resources, resource.document.node = node ∧
      view (resources.foldl put store) o node = some resource.document) ∨
    ((∀ resource ∈ resources, resource.document.node ≠ node) ∧
      view (resources.foldl put store) o node = view store o node) := by
  induction resources generalizing store with
  | nil => exact .inr ⟨fun _ hmem => absurd hmem List.not_mem_nil, rfl⟩
  | cons resource resources ih =>
    rcases @ih (put store resource) (fun other hother => h other (List.mem_cons_of_mem _ hother)) with
      ⟨other, hother, hnode, hfound⟩ | ⟨hnone, hfound⟩
    · exact .inl ⟨other, List.mem_cons_of_mem _ hother, hnode, hfound⟩
    · rw [view_put (h resource List.mem_cons_self)] at hfound
      by_cases hn : node = resource.document.node
      · subst hn
        rw [Function.update_self] at hfound
        exact .inl ⟨resource, List.mem_cons_self, rfl, hfound⟩
      · rw [Function.update_of_ne hn] at hfound
        refine .inr ⟨fun other hother => ?_, hfound⟩
        rcases List.mem_cons.mp hother with rfl | hother
        · exact Ne.symm hn
        · exact hnone other hother

private theorem bindings_foldl_put (resources : List Resource) :
    (resources.foldl put store).bindings = store.bindings := by
  induction resources generalizing store with
  | nil => rfl
  | cons resource resources ih =>
    rw [List.foldl_cons, ih]
    cases resource <;> rfl

private theorem archiveInventory_ok {resources : List Resource} {bindings : List ConsumerBinding}
    (h : archiveInventory store resources bindings = .ok store')
    (hbindings : ∀ binding ∈ bindings, binding.organisationId = o) :
    (∀ resource ∈ resources, resource.document.live = false) ∧
    (∀ id, view store' o (.binding id) =
      if id ∈ bindings.map ConsumerBinding.id then none else view store o (.binding id)) ∧
    ∀ node, (∀ id, node ≠ .binding id) → view store' o node = view (resources.foldl put store) o node := by
  simp only [archiveInventory, unit_bind_ok, raiseIf_ok, not_exists, not_and, not_or, pure_ok] at h
  obtain ⟨hexists, -, hchanged, -, rfl⟩ := h
  refine ⟨?_, ?_, ?_⟩
  · intro resource hresource
    obtain ⟨current, hcurrent⟩ := Option.ne_none_iff_exists'.mp (hexists resource hresource)
    have harchived := (hchanged resource hresource current hcurrent).2.2
    rw [← ne_eq, ← Option.isSome_iff_ne_none] at harchived
    cases resource <;> simpa [Resource.document, Document.live, unarchived, Resource.archivedAt] using harchived
  · intro id
    simp only [view, bindings_foldl_put]
    rw [Collection.foldl_delete]
    by_cases hid : id ∈ bindings.map ConsumerBinding.id
    · obtain ⟨binding, hb, rfl⟩ := List.mem_map.mp hid
      rw [if_pos hid, if_pos (List.mem_map.mpr ⟨binding, hb, by rw [hbindings binding hb]⟩)]
      rfl
    · rw [if_neg hid, if_neg]
      intro hmem
      obtain ⟨binding, hb, hkey⟩ := List.mem_map.mp hmem
      exact hid (List.mem_map.mpr ⟨binding, hb, congrArg Prod.snd hkey⟩)
  · intro node hnot
    cases node with
    | binding id => exact absurd rfl (hnot id)
    | _ => rfl

end

/-- The lists that an archiving reads are complete. -/
structure Small (store : InventoryStore) (o : Identifier) : Prop where
  environments : Few store.environments o
  services : Few store.services o
  credentials : Few store.credentials o
  bindings : Few store.bindings o

/-- The listing has the documents in use. -/
structure Snapshot (listing : Listing) (active : List ManagedCredential) (documents : Documents) : Prop where
  environments : ∀ value, value ∈ listing.activeEnvironments ↔
    documents (.environment value.id) = some (.environment value) ∧ value.archivedAt = none
  services : ∀ value, value ∈ listing.activeServices ↔
    documents (.service value.id) = some (.service value) ∧ value.archivedAt = none
  credentials : ∀ value : CredentialFields, (∃ credential ∈ active, credential.toCredentialFields = value) ↔
    documents (.credential value.id) = some (.credential value) ∧ value.archivedAt = none
  bindings : ∀ value, value ∈ listing.bindings ↔ documents (.binding value.id) = some (.binding value)

section
variable {peers : InventoryPeers} {listing : Listing} {active : List ManagedCredential}
  {store store' : InventoryStore} {o : Identifier}

private theorem mem_activeCredentials (h : listing.activeCredentials = .ok active) :
    ∃ found, listing.credentials = .ok found ∧
      ∀ credential, credential ∈ active ↔ credential ∈ found ∧ credential.archivedAt = none := by
  unfold Listing.activeCredentials at h
  rw [bind_ok] at h
  obtain ⟨found, hfound, h⟩ := h
  rw [pure_ok] at h
  subst h
  refine ⟨found, hfound, fun credential => ?_⟩
  rw [List.mem_filter, unarchived, Option.isNone_iff_eq_none]

/-- A listing of a small and consistent store is a snapshot of it. -/
theorem snapshot_of (h : Consistent o (view store o)) (hlisting : listing.Of store o) (hsmall : Small store o)
    (hactive : listing.activeCredentials = .ok active) : Snapshot listing active (view store o) := by
  obtain ⟨found, hfound, hmem⟩ := mem_activeCredentials hactive
  have hanswers := hlisting.credentials found hfound
  constructor
  · intro value
    rw [Listing.activeEnvironments, List.mem_filter, unarchived, Option.isNone_iff_eq_none, and_congr_left_iff]
    intro _
    constructor
    · intro hmem
      obtain ⟨id, hread⟩ := hlisting.environments.stored value hmem
      have hview : view store o (.environment id) = some (.environment value) := congrArg (Option.map _) hread
      rwa [← (h.keyed _ _ hview).2] at hview
    · intro hview
      obtain ⟨found, hread, hfound⟩ := Option.map_eq_some_iff.mp hview
      cases hfound
      exact hlisting.environments.complete hsmall.environments _ _ hread
  · intro value
    rw [Listing.activeServices, List.mem_filter, unarchived, Option.isNone_iff_eq_none, and_congr_left_iff]
    intro _
    constructor
    · intro hmem
      obtain ⟨id, hread⟩ := hlisting.services.stored value hmem
      have hview : view store o (.service id) = some (.service value) := congrArg (Option.map _) hread
      rwa [← (h.keyed _ _ hview).2] at hview
    · intro hview
      obtain ⟨found, hread, hfound⟩ := Option.map_eq_some_iff.mp hview
      cases hfound
      exact hlisting.services.complete hsmall.services _ _ hread
  · intro value
    constructor
    · rintro ⟨credential, hcredential, rfl⟩
      rw [hmem] at hcredential
      obtain ⟨id, hread⟩ := hanswers.stored _ (List.mem_map_of_mem hcredential.1)
      have hview : view store o (.credential id) = some (.credential credential.toCredentialFields) :=
        congrArg (Option.map _) hread
      rw [← (h.keyed _ _ hview).2] at hview
      exact ⟨hview, hcredential.2⟩
    · rintro ⟨hview, harchived⟩
      obtain ⟨stored, hread, hstored⟩ := Option.map_eq_some_iff.mp hview
      cases hstored
      obtain ⟨credential, hcredential, rfl⟩ :=
        List.mem_map.mp (hanswers.complete hsmall.credentials _ _ hread)
      exact ⟨credential, (hmem credential).mpr ⟨hcredential, harchived⟩, rfl⟩
  · intro value
    constructor
    · intro hmem
      obtain ⟨id, hread⟩ := hlisting.bindings.stored value hmem
      have hview : view store o (.binding id) = some (.binding value) := congrArg (Option.map _) hread
      rwa [← (h.keyed _ _ hview).2] at hview
    · intro hview
      obtain ⟨found, hread, hfound⟩ := Option.map_eq_some_iff.mp hview
      cases hfound
      exact hlisting.bindings.complete hsmall.bindings _ _ hread

/-- What is in use and refers to an archived resource is archived with it. -/
structure Dependents (listing : Listing) (active : List ManagedCredential) (primary : Resource) (environments : List Environment)
    (services : List ConsumerService) (credentials : List ManagedCredential) : Prop where
  listed_environments : ∀ value ∈ environments, value ∈ listing.activeEnvironments
  listed_services : ∀ value ∈ services, value ∈ listing.activeServices
  environment : ∀ value ∈ listing.activeEnvironments, primary.document.node ∈ (Document.environment value).refs →
    value ∈ environments
  service : ∀ value ∈ listing.activeServices,
    (primary.document.node ∈ (Document.service value).refs ∨
      ∃ environment ∈ environments, environment.id = value.environmentId) → value ∈ services
  credential : ∀ value ∈ active,
    primary.document.node ∈ (Document.credential value.toCredentialFields).refs →
    value.id ∈ credentialIds listing primary services credentials
  binding : ∀ value ∈ listing.bindings, primary.document.node ∈ (Document.binding value).refs →
    value.credentialId ∈ credentialIds listing primary services credentials

private theorem resource_not_binding (resource : Resource) (id : Identifier) : resource.document.node ≠ .binding id := by
  cases resource <;> nofun

private def dependentResources (peers : InventoryPeers) (listing : Listing) (active : List ManagedCredential)
    (primary : Resource) (environments : List Environment) (services : List ConsumerService)
    (credentials : List ManagedCredential) : List Resource :=
  environments.map (archivedEnvironment peers) ++ services.map (archivedService peers) ++
    (active.filter fun credential =>
      (credentialIds listing primary services credentials).contains credential.id).map (archivedCredential peers)

private theorem mem_dependentResources {primary : Resource} {environments : List Environment}
    {services : List ConsumerService} {credentials : List ManagedCredential} {resource : Resource} :
    resource ∈ dependentResources peers listing active primary environments services credentials ↔
      (∃ value ∈ environments, archivedEnvironment peers value = resource) ∨
      (∃ value ∈ services, archivedService peers value = resource) ∨
      ∃ value ∈ active, value.id ∈ credentialIds listing primary services credentials ∧
        archivedCredential peers value = resource := by
  simp only [dependentResources, List.mem_append, List.mem_map, List.mem_filter, List.contains_iff_mem, or_assoc,
    and_assoc]

/-- The credential of a binding to a service at hand is among those that are looked at. -/
theorem mem_credentialIds {primary : Resource} {services : List ConsumerService}
    {credentials : List ManagedCredential} {binding : ConsumerBinding} (hb : binding ∈ listing.bindings)
    {service : ConsumerService} (hs : service ∈ services) (hid : binding.serviceId = service.id) :
    binding.credentialId ∈ credentialIds listing primary services credentials := by
  apply List.mem_append_right
  refine List.mem_map_of_mem (List.mem_filter.mpr ⟨hb, List.contains_iff_mem.mpr ?_⟩)
  rw [hid]
  exact List.mem_map_of_mem hs

private theorem dependents_closed (peers : InventoryPeers) (h : Consistent o (view store o))
    (hsnapshot : Snapshot listing active (view store o)) {primary : Resource} {environments : List Environment}
    {services : List ConsumerService} {credentials : List ManagedCredential}
    (hdependents : Dependents listing active primary environments services credentials)
    {node referred : Node} {document : Document} (hread : view store o node = some document)
    (hlive : document.live = true) (href : referred ∈ document.refs)
    (hreferred : referred = primary.document.node ∨ (∃ value ∈ environments, referred = .environment value.id) ∨
      (∃ value ∈ services, referred = .service value.id) ∨
      ∃ id ∈ credentialIds listing primary services credentials, referred = .credential id) :
    (∃ resource ∈ dependentResources peers listing active primary environments services credentials,
      resource.document.node = node) ∨
    ∃ binding ∈ listing.bindings, binding.credentialId ∈ credentialIds listing primary services credentials ∧
      node = .binding binding.id := by
  obtain rfl := (h.keyed node document hread).2
  cases document with
  | connection value => cases href
  | application value => cases href
  | environment value =>
    have hactive := (hsnapshot.environments value).mpr ⟨hread, Option.isNone_iff_eq_none.mp hlive⟩
    obtain rfl := List.mem_singleton.mp href
    rcases hreferred with hprimary | ⟨_, _, hnode⟩ | ⟨_, _, hnode⟩ | ⟨_, _, hnode⟩
    · have hmem := hdependents.environment value hactive (hprimary ▸ href)
      exact .inl ⟨_, mem_dependentResources.mpr (.inl ⟨value, hmem, rfl⟩), rfl⟩
    all_goals cases hnode
  | service value =>
    have hactive := (hsnapshot.services value).mpr ⟨hread, Option.isNone_iff_eq_none.mp hlive⟩
    have hmem : value ∈ services := by
      rcases hreferred with hprimary | ⟨environment, henvironment, hnode⟩ | ⟨_, _, hnode⟩ | ⟨_, _, hnode⟩
      · exact hdependents.service value hactive (.inl (hprimary ▸ href))
      · subst hnode
        simp only [Document.refs, List.mem_cons, List.mem_map, reduceCtorEq, Node.environment.injEq, false_or,
          List.map_cons, and_false, exists_false, or_false] at href
        exact hdependents.service value hactive (.inr ⟨environment, henvironment, href⟩)
      all_goals
        subst hnode
        simp [Document.refs] at href
    exact .inl ⟨_, mem_dependentResources.mpr (.inr (.inl ⟨value, hmem, rfl⟩)), rfl⟩
  | credential value =>
    obtain ⟨credential, hactive, rfl⟩ := (hsnapshot.credentials value).mpr ⟨hread, Option.isNone_iff_eq_none.mp hlive⟩
    have hmem : credential.id ∈ credentialIds listing primary services credentials := by
      rcases hreferred with hprimary | ⟨_, _, hnode⟩ | ⟨_, _, hnode⟩ | ⟨_, _, hnode⟩
      · exact hdependents.credential credential hactive (hprimary ▸ href)
      all_goals
        subst hnode
        simp [Document.refs] at href
    exact .inl ⟨_, mem_dependentResources.mpr (.inr (.inr ⟨credential, hactive, hmem, rfl⟩)), rfl⟩
  | binding value =>
    have hlisted := (hsnapshot.bindings value).mpr hread
    refine .inr ⟨value, hlisted, ?_, rfl⟩
    rcases hreferred with hprimary | ⟨environment, henvironment, hnode⟩ | ⟨service, hservice, hnode⟩ | ⟨id, hid, hnode⟩
    · exact hdependents.binding value hlisted (hprimary ▸ href)
    · -- the service of the binding lies in the environment, and is archived with it
      subst hnode
      simp only [Document.refs, List.mem_cons, reduceCtorEq, Node.environment.injEq, List.not_mem_nil, or_false,
        false_or] at href
      obtain ⟨service, hservice, hplace⟩ := h.placed _ _ hread
      obtain ⟨found, hfound, hl⟩ := live_iff.mp (h.sound _ _ (congrArg (Option.map _) hread) rfl
        (.service value.serviceId) (by simp [Document.entry, Document.refs]))
      obtain rfl := Option.some.inj (hservice.symm.trans hfound)
      have hkey : service.id = value.serviceId := Node.service.inj (h.keyed _ _ hservice).2
      have hactive := (hsnapshot.services service).mpr ⟨hkey ▸ hservice, Option.isNone_iff_eq_none.mp hl⟩
      have hmem := hdependents.service service hactive (.inr ⟨environment, henvironment, href.trans hplace.symm⟩)
      exact mem_credentialIds hlisted hmem hkey.symm
    · subst hnode
      simp only [Document.refs, List.mem_cons, reduceCtorEq, Node.service.injEq, List.not_mem_nil, or_false,
        false_or] at href
      exact mem_credentialIds hlisted hservice href.symm
    · subst hnode
      simp only [Document.refs, List.mem_cons, reduceCtorEq, Node.credential.injEq, List.not_mem_nil, or_false] at href
      exact href ▸ hid

/-- Nothing is archived when the credentials cannot be read. -/
theorem archiveWith_active {primary : Resource} {environments : List Environment} {services : List ConsumerService}
    {credentials : List ManagedCredential}
    (h : Inventory.archiveWith peers listing store primary environments services credentials = .ok store') :
    ∃ active, listing.activeCredentials = .ok active := by
  unfold Inventory.archiveWith at h
  rw [bind_ok] at h
  obtain ⟨active, hactive, -⟩ := h
  exact ⟨active, hactive⟩

/-- A resource is archived with its dependents, and everything in use still refers to what is in use. -/
theorem Consistent.archiveWith (h : Consistent o (view store o)) (hactive : listing.activeCredentials = .ok active)
    (hsnapshot : Snapshot listing active (view store o))
    {primary : Resource} {environments : List Environment} {services : List ConsumerService}
    {credentials : List ManagedCredential}
    (hok : Inventory.archiveWith peers listing store primary environments services credentials = .ok store')
    (horganisation : primary.organisationId = o) (current : Document)
    (hread : view store o current.node = some current) (hcopy : current.Copy primary.document)
    (hdependents : Dependents listing active primary environments services credentials) :
    Consistent o (view store' o) ∧ ¬ Live (graph (view store' o)) primary.document.node := by
  unfold Inventory.archiveWith at hok
  rw [hactive, ok_bind] at hok
  have hresource : ∀ resource ∈ (dependentResources peers listing active primary environments services credentials).foldl record
      [primary], resource.organisationId = o ∧
        ∃ before, view store o resource.document.node = some before ∧ before.Copy resource.document := by
    intro resource hmem
    rcases recorded_mem hmem with hmem | hmem
    · obtain rfl := List.mem_singleton.mp hmem
      exact ⟨horganisation, current, hcopy.1 ▸ hread, hcopy⟩
    · rcases mem_dependentResources.mp hmem with ⟨value, hvalue, rfl⟩ | ⟨value, hvalue, rfl⟩ | ⟨value, hvalue, -, rfl⟩
      · have hview := ((hsnapshot.environments value).mp (hdependents.listed_environments value hvalue)).1
        exact ⟨(h.keyed _ _ hview).1, _, hview, rfl, rfl⟩
      · have hview := ((hsnapshot.services value).mp (hdependents.listed_services value hvalue)).1
        exact ⟨(h.keyed _ _ hview).1, _, hview, rfl, rfl, rfl⟩
      · have hview := ((hsnapshot.credentials value.toCredentialFields).mp ⟨value, hvalue, rfl⟩).1
        exact ⟨(h.keyed _ _ hview).1, _, hview, rfl, trivial⟩
  obtain ⟨hdead, hbinding, hrest⟩ := archiveInventory_ok (o := o) hok fun binding hb =>
    (h.keyed _ _ ((hsnapshot.bindings binding).mp (List.mem_filter.mp hb).1)).1
  have hput := view_foldl_put store fun resource hmem => (hresource resource hmem).1
  have hprimary : ∃ other ∈ (dependentResources peers listing active primary environments services credentials).foldl record
      [primary], other.document.node = primary.document.node := recorded_covers (.inl List.mem_cons_self)
  constructor
  · apply h.retire (fun node =>
      (∃ resource ∈ (dependentResources peers listing active primary environments services credentials).foldl record [primary],
        resource.document.node = node) ∨
      ∃ binding ∈ listing.bindings, binding.credentialId ∈ credentialIds listing primary services credentials ∧
        node = .binding binding.id)
    · intro node hnot
      by_cases hb : ∃ id, node = .binding id
      · obtain ⟨id, rfl⟩ := hb
        rw [hbinding, if_neg]
        intro hmem
        obtain ⟨binding, hb, rfl⟩ := List.mem_map.mp hmem
        rw [List.mem_filter, List.contains_iff_mem] at hb
        exact hnot (.inr ⟨binding, hb.1, hb.2, rfl⟩)
      · rw [hrest node fun id hid => hb ⟨id, hid⟩]
        rcases hput node with ⟨resource, hmem, hnode, -⟩ | ⟨-, hsame⟩
        · exact absurd (.inl ⟨resource, hmem, hnode⟩) hnot
        · exact hsame
    · rintro id (⟨resource, -, hnode⟩ | ⟨binding, hb, hid, hnode⟩)
      · exact absurd hnode (resource_not_binding resource id)
      · cases hnode
        rw [hbinding, if_pos]
        exact List.mem_map_of_mem (List.mem_filter.mpr ⟨hb, List.contains_iff_mem.mpr hid⟩)
    · rintro node (⟨resource, hmem, hnode⟩ | ⟨binding, -, -, hnode⟩) hnot
      · rcases hput node with ⟨archived, hmem', hnode', hfound⟩ | ⟨hnone, -⟩
        · obtain ⟨horganisation', before, hbefore, hcopied⟩ := hresource archived hmem'
          refine ⟨before, archived.document, hnode' ▸ hbefore, (hrest node hnot).trans hfound, ?_, hcopied,
            hdead archived hmem'⟩
          cases archived <;> exact horganisation'
        · exact absurd hnode (hnone resource hmem)
      · exact absurd hnode (hnot _)
    · intro node document hread' hlive referred href hretired
      have hnamed : referred = primary.document.node ∨ (∃ value ∈ environments, referred = .environment value.id) ∨
          (∃ value ∈ services, referred = .service value.id) ∨
          ∃ id ∈ credentialIds listing primary services credentials, referred = .credential id := by
        rcases hretired with ⟨resource, hmem, rfl⟩ | ⟨binding, -, -, rfl⟩
        · rcases recorded_mem hmem with hmem | hmem
          · exact .inl (congrArg (fun resource : Resource => resource.document.node) (List.mem_singleton.mp hmem))
          · rcases mem_dependentResources.mp hmem with ⟨value, hv, rfl⟩ | ⟨value, hv, rfl⟩ | ⟨value, -, hid, rfl⟩
            · exact .inr (.inl ⟨value, hv, rfl⟩)
            · exact .inr (.inr (.inl ⟨value, hv, rfl⟩))
            · exact .inr (.inr (.inr ⟨value.id, hid, rfl⟩))
        · cases document <;> simp [Document.refs] at href
      rcases dependents_closed peers h hsnapshot hdependents hread' hlive href hnamed with
        ⟨resource, hmem, rfl⟩ | hbinding
      · exact .inl (recorded_covers (.inr hmem))
      · exact .inr hbinding
  · intro hlive
    obtain ⟨document, hfound, hl⟩ := live_iff.mp hlive
    obtain ⟨other, hother, hnode⟩ := hprimary
    rw [hrest _ (resource_not_binding primary)] at hfound
    rcases hput primary.document.node with ⟨archived, hmem, -, hfound'⟩ | ⟨hnone, -⟩
    · obtain rfl := Option.some.inj (hfound'.symm.trans hfound)
      rw [hdead archived hmem] at hl
      cases hl
    · exact hnone other hother hnode

end

end Uumi.Inventory
