import Uumi.Foundations.References
import Uumi.Inventory.Registry

/-! The inventory documents of an organisation and their references: what keeps every reference of a document in use to
a document in use. -/
namespace Uumi.Inventory
open Uumi.Contracts Uumi.Core Uumi.Foundations Uumi.Foundations.Graph Uumi.Policy Uumi.Storage

inductive Node where
  | connection (id : Identifier)
  | application (id : Identifier)
  | environment (id : Identifier)
  | service (id : Identifier)
  | credential (id : Identifier)
  | binding (id : Identifier)
  deriving DecidableEq

inductive Document where
  | connection (value : Connection)
  | application (value : Application)
  | environment (value : Environment)
  | service (value : ConsumerService)
  | credential (value : CredentialFields)
  | binding (value : ConsumerBinding)

namespace Document

def organisationId : Document → Identifier
  | connection value => value.organisationId
  | application value => value.organisationId
  | environment value => value.organisationId
  | service value => value.organisationId
  | credential value => value.organisationId
  | binding value => value.organisationId

def node : Document → Node
  | connection value => .connection value.id
  | application value => .application value.id
  | environment value => .environment value.id
  | service value => .service value.id
  | credential value => .credential value.id
  | binding value => .binding value.id

/-- A binding is in use as long as it exists. -/
def live : Document → Bool
  | connection value => unarchived value.archivedAt
  | application value => unarchived value.archivedAt
  | environment value => unarchived value.archivedAt
  | service value => unarchived value.archivedAt
  | credential value => unarchived value.archivedAt
  | binding _ => true

def refs : Document → List Node
  | connection _ | application _ => []
  | environment value => [.application value.applicationId]
  | service value => .application value.applicationId :: .environment value.environmentId ::
      (value.runtimeConnectionId :: value.telemetryConnectionIds).map .connection
  | credential value => [.connection value.connectionId, .connection value.secretStoreConnectionId]
  | binding value => [.credential value.credentialId, .service value.serviceId, .environment value.environmentId,
      .connection value.runtimeConnectionId]

def entry (document : Document) : Entry Node := ⟨document.live, document.refs⟩

@[simp] theorem connection_mem_service (id : Identifier) (value : ConsumerService) :
    .connection id ∈ (service value).refs ↔ id = value.runtimeConnectionId ∨ id ∈ value.telemetryConnectionIds := by
  simp [refs]

@[simp] theorem connection_mem_credential (id : Identifier) (value : CredentialFields) :
    .connection id ∈ (credential value).refs ↔ id = value.connectionId ∨ id = value.secretStoreConnectionId := by
  simp [refs]

@[simp] theorem connection_mem_binding (id : Identifier) (value : ConsumerBinding) :
    .connection id ∈ (binding value).refs ↔ id = value.runtimeConnectionId := by
  simp [refs]

@[simp] theorem environment_mem_binding (id : Identifier) (value : ConsumerBinding) :
    .environment id ∈ (binding value).refs ↔ id = value.environmentId := by
  simp [refs]

@[simp] theorem service_mem_binding (id : Identifier) (value : ConsumerBinding) :
    .service id ∈ (binding value).refs ↔ id = value.serviceId := by
  simp [refs]

@[simp] theorem credential_mem_binding (id : Identifier) (value : ConsumerBinding) :
    .credential id ∈ (binding value).refs ↔ id = value.credentialId := by
  simp [refs]

private theorem node_notMem_refs (document : Document) : document.node ∉ document.refs := by
  cases document <;> simp [node, refs]

/-- A document with the same name and, below its application, the same place. -/
def Copy (document copy : Document) : Prop :=
  copy.node = document.node ∧
    match document, copy with
    | environment value, environment value' => value'.applicationId = value.applicationId
    | service value, service value' =>
      value'.environmentId = value.environmentId ∧ value'.applicationId = value.applicationId
    | binding value, binding value' => value' = value
    | _, _ => True

end Document

def Resource.document : Resource → Document
  | .connection value => .connection value
  | .application value => .application value
  | .environment value => .environment value
  | .service value => .service value
  | .credential value => .credential value.toCredentialFields

abbrev Documents := Node → Option Document

def view (store : InventoryStore) (o : Identifier) : Documents
  | .connection id => (store.connections (o, id)).map .connection
  | .application id => (store.applications (o, id)).map .application
  | .environment id => (store.environments (o, id)).map .environment
  | .service id => (store.services (o, id)).map .service
  | .credential id => (store.credentials (o, id)).map .credential
  | .binding id => (store.bindings (o, id)).map .binding

def graph (documents : Documents) : Graph Node := fun node => (documents node).map Document.entry

section
variable {documents : Documents}

/-- A document is live when it is stored and in use. -/
theorem live_iff {node : Node} :
    Live (graph documents) node ↔ ∃ document, documents node = some document ∧ document.live = true := by
  simp only [Live, graph, Option.map_eq_some_iff]
  constructor
  · rintro ⟨_, ⟨document, hd, rfl⟩, hl⟩
    exact ⟨document, hd, hl⟩
  · rintro ⟨document, hd, hl⟩
    exact ⟨_, ⟨document, hd, rfl⟩, hl⟩

private theorem graph_update (document : Document) :
    graph (Function.update documents document.node (some document)) =
      Function.update (graph documents) document.node (some document.entry) := by
  funext node
  by_cases h : node = document.node
  · subst h
    simp [graph]
  · simp [graph, h]

end

/-- A service lies in an environment of its application, a binding in the environment of its service. -/
def Placed (documents : Documents) : Document → Prop
  | .service value => ∃ environment, documents (.environment value.environmentId) = some (.environment environment) ∧
      environment.applicationId = value.applicationId
  | .binding value => ∃ service, documents (.service value.serviceId) = some (.service service) ∧
      service.environmentId = value.environmentId
  | _ => True

/-- Documents lie under their names and in their places, and what is in use refers to what is in use. -/
structure Consistent (o : Identifier) (documents : Documents) : Prop where
  keyed : ∀ node document, documents node = some document → document.organisationId = o ∧ document.node = node
  placed : ∀ node document, documents node = some document → Placed documents document
  sound : Sound (graph documents)

/-- A store without documents is consistent. -/
theorem consistent_empty (o : Identifier) : Consistent o fun _ => none where
  keyed _ _ h := absurd h (Option.some_ne_none _).symm
  placed _ _ h := absurd h (Option.some_ne_none _).symm
  sound := sound_empty

section
variable {o : Identifier} {documents documents' : Documents} {document document' : Document}

private theorem Placed.grow (h : Placed documents document)
    (hcopy : ∀ node before, documents node = some before → (∀ id, node ≠ .binding id) →
      ∃ copy, documents' node = some copy ∧ before.Copy copy) : Placed documents' document := by
  cases document with
  | service value =>
    obtain ⟨environment, hread, happlication⟩ := h
    obtain ⟨copy, hafter, hnode, hsame⟩ := hcopy _ _ hread nofun
    cases copy with
    | environment value' => exact ⟨value', hafter, hsame.trans happlication⟩
    | _ => cases hnode
  | binding value =>
    obtain ⟨service, hread, henvironment⟩ := h
    obtain ⟨copy, hafter, hnode, hsame⟩ := hcopy _ _ hread nofun
    cases copy with
    | service value' => exact ⟨value', hafter, hsame.1.trans henvironment⟩
    | _ => cases hnode
  | _ => trivial

private theorem Placed.of_copy (h : Placed documents document) (hcopy : document.Copy document') :
    Placed documents document' := by
  obtain ⟨hnode, hsame⟩ := hcopy
  cases document <;> cases document' <;> simp only [Document.node, reduceCtorEq] at hnode <;> try trivial
  · obtain ⟨environment, hread, happlication⟩ := h
    exact ⟨environment, hsame.1 ▸ hread, happlication.trans hsame.2.symm⟩
  · exact hsame ▸ h

private theorem copy_refl (document : Document) : document.Copy document := by
  cases document <;> simp [Document.Copy]

/-- One document is written: a new one, or a copy of an old one that stays in use if it was. -/
theorem Consistent.put (h : Consistent o documents) (horganisation : document.organisationId = o)
    (hold : ∀ before, documents document.node = some before → before.Copy document ∧
      (before.live = true → document.live = true))
    (hplaced : Placed documents document)
    (hrefs : document.live = true → ∀ node ∈ document.refs, Live (graph documents) node) :
    Consistent o (Function.update documents document.node (some document)) := by
  have hcopy : ∀ node before, documents node = some before → (∀ id, node ≠ .binding id) →
      ∃ copy, Function.update documents document.node (some document) node = some copy ∧ before.Copy copy := by
    intro node before hread _
    by_cases hn : node = document.node
    · subst hn
      exact ⟨document, Function.update_self .., (hold before hread).1⟩
    · exact ⟨before, (Function.update_of_ne hn ..).trans hread, copy_refl before⟩
  constructor
  · intro node found hfound
    by_cases hn : node = document.node
    · subst hn
      rw [Function.update_self] at hfound
      obtain rfl := Option.some.inj hfound
      exact ⟨horganisation, rfl⟩
    · rw [Function.update_of_ne hn] at hfound
      exact h.keyed node found hfound
  · intro node found hfound
    by_cases hn : node = document.node
    · subst hn
      rw [Function.update_self] at hfound
      obtain rfl := Option.some.inj hfound
      exact hplaced.grow hcopy
    · rw [Function.update_of_ne hn] at hfound
      exact (h.placed node found hfound).grow hcopy
  · rw [graph_update]
    apply h.sound.put _ (fun hlive node hmem _ => hrefs hlive node hmem) document.node_notMem_refs
    intro before hbefore hlive
    obtain ⟨found, hfound, rfl⟩ := Option.map_eq_some_iff.mp hbefore
    exact (hold found hfound).2 hlive

/-- Documents are archived, and bindings removed, together with what is in use and refers to them. -/
theorem Consistent.retire (h : Consistent o documents) (retired : Node → Prop)
    (hsame : ∀ node, ¬ retired node → documents' node = documents node)
    (hbinding : ∀ id, retired (.binding id) → documents' (.binding id) = none)
    (harchived : ∀ node, retired node → (∀ id, node ≠ .binding id) → ∃ before copy, documents node = some before ∧
      documents' node = some copy ∧ copy.organisationId = o ∧ before.Copy copy ∧ copy.live = false)
    (hclosed : ∀ node document, documents node = some document → document.live = true →
      ∀ referred ∈ document.refs, retired referred → retired node) : Consistent o documents' := by
  have hcopy : ∀ node before, documents node = some before → (∀ id, node ≠ .binding id) →
      ∃ copy, documents' node = some copy ∧ before.Copy copy := by
    intro node before hread hnot
    by_cases hr : retired node
    · obtain ⟨found, copy, hfound, hafter, -, hc, -⟩ := harchived node hr hnot
      obtain rfl := Option.some.inj (hread.symm.trans hfound)
      exact ⟨copy, hafter, hc⟩
    · exact ⟨before, (hsame node hr).trans hread, copy_refl before⟩
  -- what is found afterwards is what was there, or the archived copy of it
  have hafter : ∀ node found, documents' node = some found → found.organisationId = o ∧
      ∃ before, documents node = some before ∧ before.Copy found ∧ (retired node → found.live = false) := by
    intro node found hfound
    by_cases hr : retired node
    · by_cases hb : ∃ id, node = .binding id
      · obtain ⟨id, rfl⟩ := hb
        rw [hbinding id hr] at hfound
        cases hfound
      · obtain ⟨before, copy, hread, hcopied, horganisation, hc, hlive⟩ :=
          harchived node hr fun id hid => hb ⟨id, hid⟩
        obtain rfl := Option.some.inj (hcopied.symm.trans hfound)
        exact ⟨horganisation, before, hread, hc, fun _ => hlive⟩
    · rw [hsame node hr] at hfound
      exact ⟨(h.keyed node found hfound).1, found, hfound, copy_refl found, fun hr' => absurd hr' hr⟩
  constructor
  · intro node found hfound
    obtain ⟨horganisation, before, hread, hc, -⟩ := hafter node found hfound
    exact ⟨horganisation, hc.1.trans (h.keyed node before hread).2⟩
  · intro node found hfound
    obtain ⟨-, before, hread, hc, -⟩ := hafter node found hfound
    exact ((h.placed node before hread).of_copy hc).grow hcopy
  · apply h.sound.retire retired
    · intro node hr
      simp [graph, hsame node hr]
    · intro node hr entry hentry
      obtain ⟨found, hfound, rfl⟩ := Option.map_eq_some_iff.mp hentry
      obtain ⟨-, -, -, -, hlive⟩ := hafter node found hfound
      exact hlive hr
    · intro node entry hentry hlive referred hmem hr
      obtain ⟨document, hread, rfl⟩ := Option.map_eq_some_iff.mp hentry
      exact hclosed node document hread hlive referred hmem hr

end

section
variable {store store' : InventoryStore} {o : Identifier}

/-- A resource is put under its own name. -/
theorem view_put {resource : Resource} (h : resource.organisationId = o) :
    view (put store resource) o = Function.update (view store o) resource.document.node (some resource.document) := by
  subst h
  funext node
  by_cases hn : node = resource.document.node
  · subst hn
    rw [Function.update_self]
    cases resource <;> simp [put, view, Resource.document, Document.node, Resource.organisationId]
  · rw [Function.update_of_ne hn]
    cases resource <;> cases node <;> simp_all [put, view, Resource.document, Document.node, Resource.organisationId]

private theorem view_stored (store : InventoryStore) {resource : Resource} (h : resource.organisationId = o) :
    (stored store resource).map (fun current => unarchived current.2) =
      (view store o resource.document.node).map Document.live := by
  subst h
  cases resource <;>
    simp [stored, view, Resource.document, Document.node, Resource.organisationId, Document.live, Function.comp_def]

/-- A creation puts what is not stored yet. -/
theorem create_ok {resource : Resource} :
    create store resource = .ok store' ↔ stored store resource = none ∧ put store resource = store' := by
  unfold create
  rw [unit_bind_ok, raiseIf_ok, pure_ok, Option.not_isSome_iff_eq_none]

/-- A replacement puts the resource. -/
theorem replace_ok {resource : Resource} {expected : Nat} (h : replace store resource expected = .ok store') :
    put store resource = store' := by
  unfold replace at h
  simp only [required_bind_ok, unit_bind_ok, pure_ok] at h
  obtain ⟨-, -, -, -, h⟩ := h
  exact h

/-- A document that did not exist is written. -/
theorem Consistent.add (h : Consistent o (view store o)) (resource : Resource) (horganisation : resource.organisationId = o)
    (hfresh : view store o resource.document.node = none) (hplaced : Placed (view store o) resource.document)
    (hrefs : resource.document.live = true → ∀ node ∈ resource.document.refs, Live (graph (view store o)) node) :
    Consistent o (view (Inventory.put store resource) o) := by
  rw [view_put horganisation]
  apply h.put (by cases resource <;> exact horganisation) _ hplaced hrefs
  intro before hread
  rw [hfresh] at hread
  cases hread

/-- What was in use stays in use when a new document is written. -/
theorem live_add {resource : Resource} (horganisation : resource.organisationId = o)
    (hfresh : view store o resource.document.node = none) {node : Node} (hlive : Live (graph (view store o)) node) :
    Live (graph (view (put store resource) o)) node := by
  obtain ⟨document, hread, hl⟩ := live_iff.mp hlive
  have hne : node ≠ resource.document.node := by
    rintro rfl
    rw [hfresh] at hread
    cases hread
  refine live_iff.mpr ⟨document, ?_, hl⟩
  rwa [view_put horganisation, Function.update_of_ne hne]

/-- A resource in use is live where it is put. -/
theorem live_added (resource : Resource) (horganisation : resource.organisationId = o)
    (hlive : resource.document.live = true) :
    Live (graph (view (put store resource) o)) resource.document.node :=
  live_iff.mpr ⟨resource.document, by rw [view_put horganisation, Function.update_self], hlive⟩

/-- A resource that is not stored has no document. -/
theorem fresh_view {resource : Resource} (horganisation : resource.organisationId = o)
    (hfresh : stored store resource = none) : view store o resource.document.node = none := by
  have hstored := view_stored store horganisation
  rw [hfresh, Option.map_none] at hstored
  exact Option.map_eq_none_iff.mp hstored.symm

/-- A document that did not exist is created. -/
theorem Consistent.create (h : Consistent o (view store o)) {resource : Resource}
    (hcreate : Inventory.create store resource = .ok store') (horganisation : resource.organisationId = o)
    (hplaced : Placed (view store o) resource.document)
    (hrefs : resource.document.live = true → ∀ node ∈ resource.document.refs, Live (graph (view store o)) node) :
    Consistent o (view store' o) := by
  obtain ⟨hfresh, rfl⟩ := create_ok.mp hcreate
  exact h.add resource horganisation (fresh_view horganisation hfresh) hplaced hrefs

/-- A document that is in use is replaced by a copy in use. -/
theorem Consistent.replace (h : Consistent o (view store o)) {resource : Resource} {expected : Nat}
    (hreplace : Inventory.replace store resource expected = .ok store') (current : Document)
    (hread : view store o current.node = some current) (hcopy : current.Copy resource.document)
    (horganisation : resource.organisationId = o) (hlive : resource.document.live = true)
    (hrefs : ∀ node ∈ resource.document.refs, node ∈ current.refs ∧ current.live = true ∨ Live (graph (view store o)) node) :
    Consistent o (view store' o) := by
  obtain rfl := replace_ok hreplace
  rw [view_put horganisation]
  apply h.put (by cases resource <;> exact horganisation)
  · intro before hbefore
    rw [hcopy.1, hread] at hbefore
    obtain rfl := Option.some.inj hbefore
    exact ⟨hcopy, fun _ => hlive⟩
  · exact (h.placed _ current hread).of_copy hcopy
  · intro _ node hmem
    rcases hrefs node hmem with ⟨hold, hl⟩ | hnew
    · exact h.sound current.node current.entry (by simp [graph, hread]) hl node hold
    · exact hnew

end
end Uumi.Inventory
