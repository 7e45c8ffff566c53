import Uumi.Foundations.Transactions
import Uumi.Incidents.Service
import Uumi.Workflow.Sources

/-! The requests that incident programs serve, the documents that they share, and what a program has learnt when it
makes a call. -/
namespace Uumi.Incidents
open Uumi.Contracts Uumi.Coordinator Uumi.Core Uumi.Foundations Uumi.Policy Uumi.Storage Uumi.Workflow
open Uumi.Foundations.Program

/-- What callers ask of the service, and of its automation. -/
inductive Request where
  | ingest (ingestor incidentId : Identifier) (event : IngestionEvent)
  | automate (ingestor automation : Identifier) (event : IngestionEvent)
  | confirm (organisationId : Identifier) (incidentId : String) (expectedRevision : Nat) (credentialId actorId : Identifier)
  | startRotation (organisationId : Identifier) (incidentId : String) (commandId actorId controlVersion : Identifier)
      (reason urgency : String) (receivedAt : AwareDatetime)
  | advanceRun (organisationId runId : Identifier) (status : IncidentStatus)
  | dismiss (organisationId : Identifier) (incidentId : String) (expectedRevision : Nat) (reason : String)
      (actorId : Identifier)

namespace IncidentService
variable (service : IncidentService)

def serve : Request → IncidentM Unit
  | .ingest ingestor incidentId event => do
    let _ ← service.ingest ingestor incidentId event
  | .automate ingestor automation event => do
    let _ ← service.automate ingestor automation event
  | .confirm organisationId incidentId expectedRevision credentialId actorId => do
    let _ ← service.confirm organisationId incidentId expectedRevision credentialId actorId
  | .startRotation organisationId incidentId commandId actorId controlVersion reason urgency receivedAt => do
    let _ ← service.startRotation organisationId incidentId commandId actorId controlVersion reason urgency receivedAt
  | .advanceRun organisationId runId status => do
    let _ ← advanceRun organisationId runId status
  | .dismiss organisationId incidentId expectedRevision reason actorId => do
    let _ ← service.dismiss organisationId incidentId expectedRevision reason actorId

end IncidentService

/-- The documents of incidents and of runs. -/
structure Documents where
  incidents : IncidentStore
  runs : Store

/-- What other programs do to the documents of runs: a call of the run repository, or new control versions. -/
inductive Passes (hashing : Hashing) : Documents → Documents → Prop
  | call {s : Documents} {call : Call} {result : MutationResult} {runs : Store}
      (h : (repository hashing).perform s.runs call = .ok (result, runs)) : Passes hashing s { s with runs }
  | controls (s : Documents) (controls : Collection (Identifier × Identifier × Identifier) ControlVersion) :
      Passes hashing s { s with runs := { s.runs with controls } }

def onIncidents {α : Type} (s : Documents) (result : Except Error (α × IncidentStore)) : Except Error (α × Documents) :=
  result.map fun done => (done.1, { s with incidents := done.2 })

def onRuns {α : Type} (s : Documents) (result : Except Error (α × Store)) : Except Error (α × Documents) :=
  result.map fun done => (done.1, { s with runs := done.2 })

def answers (hashing : Hashing) : World IncidentCall IncidentCall.Answer Error Documents := fun s op answer t =>
  match op, answer with
  | .ingest incident event, answer => Commits (onIncidents s (s.incidents.ingest hashing incident event)) answer s t
  | .incident organisationId incidentId, answer =>
    t = s ∧ ∀ incident, answer = .ok incident → s.incidents.get organisationId incidentId = .ok incident
  | .update organisationId incidentId expectedRevision values, answer =>
    Commits (onIncidents s (s.incidents.update organisationId incidentId expectedRevision values)) answer s t
  | .incidentsOf organisationId runId, answer => t = s ∧ ∀ documents, answer = .ok documents → ∀ incident,
    incident ∈ documents ↔ incident.runId = some runId ∧ ∃ id, s.incidents.incidents (organisationId, id) = some incident
  | .createRun command, answer => ∃ newId now, Commits (onRuns s (createRun hashing s.runs command newId now)) answer s t
  | _, _ => t = s

def world (hashing : Hashing) : World IncidentCall IncidentCall.Answer Error Documents := fun s op answer t =>
  ∃ m, Relation.ReflTransGen (Passes hashing) s m ∧ answers hashing m op answer t

inductive Fact where
  /-- An incident was read. -/
  | read (organisationId : Identifier) (incident : Incident)
  /-- A run was created, or had been before. -/
  | created (command : CreateRunCommand) (run : RotationRun)

/-- What a program learns from the answers to its calls. -/
def learning : World IncidentCall IncidentCall.Answer Error (Set Fact) := fun known op answer after =>
  match op, answer with
  | .ingest incident event, .ok (stored, applied) =>
    after = insert (.read event.organisationId stored) known ∧ (applied = true → stored = incident)
  | .incident organisationId incidentId, .ok incident =>
    after = insert (.read organisationId incident) known ∧ incident.id.text = incidentId
  | .incidentsOf organisationId _, .ok documents =>
    after = known ∪ {fact | ∃ document ∈ documents, ∃ incident, document.modelValidate = .ok incident ∧
      fact = .read organisationId incident}
  | .createRun command, .ok result => after = insert (.created command result.run) known
  | _, _ => after = known

def verified (candidates : List CorrelationCandidate) : List Identifier :=
  (candidates.filter fun candidate => candidate.confidence = .verified).map (·.credentialId)

/-- A run is started for an incident: for its credential, and on its event. -/
structure StartedFor (incident : Incident) (credentialId : Identifier) (trigger : Trigger) : Prop where
  credentialId : incident.credentialId = some credentialId
  source : trigger.source = incident.source
  kind : trigger.kind = incident.kind
  eventId : Text.build 1 256 "event_id" incident.eventId.text = .ok trigger.eventId

/-- What may become of an incident in an update by a program that has learnt this much. -/
inductive Moves (known : Set Fact) (organisationId : Identifier) (incident : Incident) : Incident → Prop
  | correlates (candidates : List CorrelationCandidate) (credentialId : Option Identifier) (now : AwareDatetime)
      (status : incident.status ∈ [.new, .correlating, .action]) (chosen : verified candidates = credentialId.toList)
      (confirmed : incident.status ≠ .new → credentialId ≠ none) :
      Moves known organisationId incident (correlated candidates credentialId now incident)
  | links (command : CreateRunCommand) (run : RotationRun) (now : AwareDatetime)
      (created : .created command run ∈ known) (organisation : command.organisationId = organisationId)
      (status : incident.status = .action) (started : StartedFor incident command.credentialId command.trigger) :
      Moves known organisationId incident (linked command.credentialId run.id now incident)
  | advances (status : IncidentStatus) (now : AwareDatetime)
      (ahead : incident.status = .rotating ∧ status ∈ [.contained, .resolved] ∨
        incident.status = .contained ∧ status = .resolved) :
      Moves known organisationId incident (advanced status now incident)
  | dismisses (reason : String) (now : AwareDatetime) (status : incident.status ∈ [.new, .correlating, .action]) :
      Moves known organisationId incident (dismissed reason now incident)

/-- An incident as an event leads to it. -/
structure Arises (incident : Incident) (event : IngestionEvent) : Prop where
  organisationId : incident.organisationId = event.organisationId
  source : incident.source = event.source
  sourceEventId : incident.sourceEventId = event.sourceEventId
  kind : incident.kind = event.kind
  status : incident.status = .new
  candidates : incident.candidates = []
  credentialId : incident.credentialId = none
  runId : incident.runId = none
  dismissalReason : incident.dismissalReason = none

/-- The calls that a program may make when it has learnt this much. -/
def Justified (known : Set Fact) : IncidentCall → Prop
  | .ingest incident event => Arises incident event
  | .update organisationId incidentId expectedRevision values => ∃ incident, .read organisationId incident ∈ known ∧
    incident.id.text = incidentId ∧ incident.revision = expectedRevision ∧ Moves known organisationId incident (values incident)
  | _ => True

/-- Whatever a program calls is justified by what it has learnt. -/
abbrev Follows {α : Type} (p : IncidentM α) (known : Set Fact) : Prop :=
  p.Spec learning Justified known fun _ _ => True

def Plain : IncidentCall → Prop
  | .ingest .. | .incident .. | .update .. | .incidentsOf .. | .createRun .. => False
  | _ => True

-- derived texts are not to be computed while programs are unfolded
attribute [local irreducible] derivedId Text.build

variable {known : Set Fact} {α β : Type}

/-- A program that only makes plain calls has learnt nothing when it returns. -/
theorem plain_learns {p : IncidentM α} (h : p.Calls Plain) : p.Spec learning Justified known fun _ t => t = known := by
  refine h.keeps (fun op hp => ?_) fun op answer t hp learnt => ?_
  · cases op <;> trivial
  · cases op <;> first | exact hp.elim | (cases answer <;> exact learnt)

/-- A program that only reads. -/
theorem Follows.plain {p : IncidentM α} (h : p.Calls Plain) : Follows p known :=
  (plain_learns h).mono fun _ _ _ => trivial

/-- A plain part leaves its continuation what was known. -/
theorem Follows.afterPlain {p : IncidentM α} {f : α → IncidentM β} (h : p.Calls Plain)
    (rest : ∀ a, Follows (f a) known) : Follows (p >>= f) known := by
  refine (plain_learns h).andThen (fun a t ht => ?_) fun _ _ _ => trivial
  subst ht
  exact rest a

/-- A sequence, whatever its first part has learnt. -/
theorem Follows.andThen {p : IncidentM α} {f : α → IncidentM β} (h : Follows p known)
    (rest : ∀ a after, Follows (f a) after) : Follows (p >>= f) known :=
  Spec.andThen h (fun a after _ => rest a after) fun _ _ _ => trivial

/-- A computation that calls nothing, and what follows it. -/
theorem Follows.lifted {outcome : Except Error α} {f : α → IncidentM β}
    (rest : ∀ a, outcome = .ok a → Follows (f a) known) : Follows (lift outcome >>= f) known :=
  Spec.liftThen rest fun _ _ => trivial

section
variable (service : IncidentService)

private theorem announce_calls (announcement : Announcement) : (incidentCall (.emit announcement)).Calls Plain :=
  calls_perform trivial

private theorem notify_calls (incident : Incident) (event : IngestionEvent) :
    (service.notify incident event).Calls Plain := by
  unfold IncidentService.notify
  refine Calls.choice (calls_pure _) (Calls.choice (announce_calls _) (Calls.choice (announce_calls _) ?_))
  exact Calls.choice (announce_calls _) (calls_pure _)

private theorem record_calls (incident : Incident) (action : String) (actorId : Identifier) (runId : Option Identifier) :
    (service.record incident action actorId runId).Calls Plain := by
  unfold IncidentService.record
  split
  · exact calls_pure _
  · exact Calls.bind (calls_lift _) fun _ => calls_perform trivial

private theorem scored_calls (event : IngestionEvent) (services : List RepositoryService)
    (bindings : List ConsumerBinding) (credentials : List ManagedCredential) :
    (scored event services bindings credentials).Calls Plain := by
  induction credentials with
  | nil => exact calls_pure _
  | cons credential credentials ih =>
    rw [scored]
    split
    · refine Calls.bind (Calls.bind (calls_perform trivial) fun _ => calls_pure _) fun controls => ?_
      exact Calls.bind ih fun others => calls_pure _
    · exact Calls.bind (calls_pure _) fun controls => Calls.bind ih fun others => calls_pure _

private theorem candidates_calls (event : IngestionEvent) : (candidates event).Calls Plain :=
  Calls.bind (calls_perform trivial) fun credentials => Calls.bind (calls_perform trivial) fun services =>
    Calls.bind (calls_perform trivial) fun bindings =>
      Calls.bind (scored_calls event services bindings credentials) fun _ => calls_pure _

private theorem credentialOf_calls (organisationId credentialId : Identifier) :
    (IncidentService.credentialOf organisationId credentialId).Calls Plain := by
  refine Calls.bind (calls_perform trivial) fun credentials => ?_
  split
  · exact calls_pure _
  · exact calls_lift _

private theorem chosen_verified {candidates : List CorrelationCandidate}
    (one : ¬ 1 < (candidates.filter fun candidate => candidate.confidence = .verified).length) :
    verified candidates = ((candidates.filter fun candidate => candidate.confidence = .verified).head?.map
      (·.credentialId)).toList := by
  unfold verified
  generalize candidates.filter (fun candidate => candidate.confidence = .verified) = found at one ⊢
  match found with
  | [] => rfl
  | [_] => rfl
  | _ :: _ :: _ => simp at one

/-- A read incident that is still open may be correlated at the revision that was read. -/
theorem correlate_follows {organisationId : Identifier} {incident : Incident} {candidates : List CorrelationCandidate}
    (read : .read organisationId incident ∈ known) (status : incident.status ∈ [.new, .correlating, .action])
    (confirmed : incident.status ≠ .new → verified candidates ≠ []) :
    Follows (IncidentService.correlate organisationId incident.id.text incident.revision candidates) known := by
  refine Follows.lifted fun _ hone => Follows.afterPlain (calls_perform trivial) fun now => ?_
  have chosen := chosen_verified ((raiseIf_ok _ _ ()).mp hone)
  refine ⟨⟨incident, read, rfl, rfl, .correlates candidates _ now status chosen fun hn hnone => ?_⟩,
    fun _ _ _ => trivial⟩
  rw [hnone] at chosen
  exact confirmed hn chosen

private theorem verified_confirmed {candidates : List CorrelationCandidate} {credentialId : Identifier}
    (h : credentialId ∈ candidates.map (·.credentialId)) :
    verified (candidates.map fun item => { item with confidence :=
      if item.credentialId = credentialId then .verified
      else if item.confidence = .verified then .high else item.confidence }) ≠ [] := by
  obtain ⟨item, hm, rfl⟩ := List.mem_map.mp h
  refine List.ne_nil_of_mem (a := item.credentialId) ?_
  simp only [verified, List.mem_map, List.mem_filter, decide_eq_true_eq]
  exact ⟨_, ⟨⟨item, hm, rfl⟩, if_pos rfl⟩, rfl⟩

private theorem confirm_follows (organisationId : Identifier) (incidentId : String) (expectedRevision : Nat)
    (credentialId actorId : Identifier) :
    Follows (service.confirm organisationId incidentId expectedRevision credentialId actorId) known := by
  refine Spec.callThen trivial (fun (incident : Incident) after learnt => ?_) fun _ _ _ => trivial
  obtain ⟨hafter, hid⟩ := learnt
  subst hafter hid
  refine Follows.lifted fun _ hrevision => Follows.lifted fun _ hstatus => Follows.lifted fun _ hmem => ?_
  rw [raiseIf_ok, not_not] at hrevision hstatus hmem
  subst hrevision
  refine Follows.andThen (correlate_follows (Set.mem_insert ..) ?_ fun _ => verified_confirmed hmem) fun confirmed after =>
    Follows.afterPlain (record_calls service _ _ _ _) fun _ => trivial
  exact List.mem_cons_of_mem _ hstatus

private theorem dismiss_follows (organisationId : Identifier) (incidentId : String) (expectedRevision : Nat) (reason : String)
    (actorId : Identifier) :
    Follows (service.dismiss organisationId incidentId expectedRevision reason actorId) known := by
  refine Spec.callThen trivial (fun (incident : Incident) after learnt => ?_) fun _ _ _ => trivial
  obtain ⟨hafter, hid⟩ := learnt
  subst hafter hid
  refine Follows.lifted fun _ hrevision => ?_
  rw [raiseIf_ok, not_not] at hrevision
  subst hrevision
  split
  · exact trivial
  refine Follows.lifted fun _ hstatus => Follows.afterPlain (calls_perform trivial) fun now => ?_
  rw [raiseIf_ok, not_not] at hstatus
  refine Spec.callThen trivial (fun (current : Incident) after learnt => ?_) fun _ _ _ => trivial
  obtain ⟨hafter, -⟩ := learnt
  subst hafter
  have rest (result : Incident) (after : Set Fact) : Follows (do
      service.record result "incident.dismissed" actorId result.runId
      return result) after :=
    Follows.afterPlain (record_calls service _ _ _ _) fun _ => trivial
  split
  · exact rest current _
  refine Follows.lifted fun _ _ => Follows.andThen ⟨⟨incident, ?_, rfl, rfl, .dismisses reason now hstatus⟩,
    fun _ _ _ => trivial⟩ rest
  exact Set.mem_insert_of_mem _ (Set.mem_insert ..)

private theorem startRotation_follows (organisationId : Identifier) (incidentId : String)
    (commandId actorId controlVersion : Identifier) (reason urgency : String) (receivedAt : AwareDatetime) :
    Follows (service.startRotation organisationId incidentId commandId actorId controlVersion reason urgency receivedAt)
      known := by
  refine Follows.lifted fun _ _ => Spec.callThen trivial (fun (incident : Incident) after learnt => ?_) fun _ _ _ => trivial
  obtain ⟨hafter, hid⟩ := learnt
  subst hafter hid
  refine Follows.lifted fun credentialId hcredential => Follows.lifted fun runId _ => Follows.lifted fun _ _ =>
    Follows.lifted fun eventId hevent => Follows.lifted fun reason _ => Follows.lifted fun urgency _ => ?_
  refine Spec.callThen trivial (fun (result : MutationResult) after learnt => ?_) fun _ _ _ => trivial
  subst learnt
  split
  · exact trivial
  rename_i hrotating
  rw [required_ok] at hcredential
  split at hcredential
  · rename_i hstatus
    refine Follows.afterPlain (calls_perform trivial) fun now => Follows.andThen ?_ fun started after =>
      Follows.afterPlain (record_calls service _ _ _ _) fun _ => trivial
    refine ⟨⟨incident, Set.mem_insert_of_mem _ (Set.mem_insert ..), rfl, rfl, ?_⟩, fun _ _ _ => trivial⟩
    refine .links _ result.run now (Set.mem_insert ..) rfl ?_ ⟨hcredential, rfl, rfl, hevent⟩
    simpa [hrotating] using hstatus
  · cases hcredential

private theorem advanceEach_follows {organisationId : Identifier} {status : IncidentStatus}
    (target : status ∈ [.contained, .resolved]) (now : AwareDatetime) (documents : List Incident)
    (read : ∀ document ∈ documents, ∀ incident, document.modelValidate = .ok incident →
      .read organisationId incident ∈ known) :
    Follows (IncidentService.advanceEach organisationId status now documents) known := by
  induction documents with
  | nil => exact trivial
  | cons document documents ih =>
    have rest := ih fun other ho => read other (List.mem_cons_of_mem _ ho)
    refine Follows.lifted fun current hcurrent => ?_
    have hread := read document List.mem_cons_self current hcurrent
    split
    · exact Follows.andThen rest fun _ _ => trivial
    · refine Follows.lifted fun _ hahead => ?_
      rw [raiseIf_ok, not_not] at hahead
      refine Spec.callThen ⟨current, hread, rfl, rfl, .advances status now ?_⟩ (fun changed after learnt => ?_)
        fun _ _ _ => trivial
      · exact hahead.imp (⟨·, target⟩) And.symm
      · subst learnt
        exact Follows.andThen rest fun _ _ => trivial

private theorem advanceRun_follows (organisationId runId : Identifier) (status : IncidentStatus) :
    Follows (IncidentService.advanceRun organisationId runId status) known := by
  refine Follows.lifted fun _ htarget => Follows.afterPlain (calls_perform trivial) fun now => ?_
  rw [raiseIf_ok, not_not] at htarget
  refine Spec.callThen trivial (fun (documents : List Incident) after learnt => ?_) fun _ _ _ => trivial
  subst learnt
  refine advanceEach_follows htarget now documents fun document hd incident hi => ?_
  exact .inr ⟨document, hd, incident, hi, rfl⟩

private theorem ingest_follows (ingestor incidentId : Identifier) (event : IngestionEvent) :
    Follows (service.ingest ingestor incidentId event) known := by
  refine Follows.afterPlain (calls_perform trivial) fun createdAt => Follows.afterPlain (calls_perform trivial)
    fun updatedAt => ?_
  refine Spec.callThen ⟨rfl, rfl, rfl, rfl, rfl, rfl, rfl, rfl, rfl⟩ (fun (answer : Incident × Bool) after learnt => ?_)
    fun _ _ _ => trivial
  obtain ⟨stored, applied⟩ := answer
  obtain ⟨hafter, hnew⟩ := learnt
  subst hafter
  change Follows (if applied = false ∨ service.inventory = false then _ else _) _
  split
  · exact Follows.afterPlain (notify_calls service _ _) fun _ => trivial
  · rename_i happlied
    have hstatus : stored.status = .new := by
      rw [hnew (by simpa using fun h => happlied (.inl h))]
    refine Follows.afterPlain (candidates_calls event) fun found => ?_
    refine Follows.andThen (correlate_follows (Set.mem_insert ..) (by simp [hstatus]) fun hn => absurd hstatus hn) ?_
    exact fun incident after => Follows.afterPlain (notify_calls service _ _) fun _ =>
      Follows.afterPlain (record_calls service _ _ _ _) fun _ => trivial

private theorem confirmAutomatically_follows (ingestor : Identifier) (event : IngestionEvent) (incident : Incident) :
    Follows (service.confirmAutomatically ingestor event incident) known := by
  unfold IncidentService.confirmAutomatically
  split
  · refine Follows.afterPlain (credentialOf_calls _ _) fun credential => Follows.afterPlain (calls_perform trivial)
      fun controls => ?_
    split
    · exact confirm_follows service _ _ _ _ _
    · exact trivial
  · exact trivial

private theorem rotateAutomatically_follows (automation : Identifier) (event : IngestionEvent) (incident : Incident)
    (applied : Bool) : Follows (service.rotateAutomatically automation event incident applied) known := by
  unfold IncidentService.rotateAutomatically
  split
  · refine Follows.afterPlain (credentialOf_calls _ _) fun credential => Follows.afterPlain (calls_perform trivial)
      fun controls => ?_
    split
    · exact trivial
    · refine Follows.lifted fun commandId _ => ?_
      refine Spec.orElse (Follows.andThen (startRotation_follows service _ _ _ _ _ _ _ _) fun _ _ => trivial)
        (fun _ _ _ => trivial) fun e after _ => ?_
      · cases e with
        | resourceConflict message =>
          refine Spec.callThen trivial (fun (current : Incident) after _ => ?_) fun _ _ _ => trivial
          split <;> exact trivial
        | _ => exact trivial
  · exact trivial

private theorem automate_follows (ingestor automation : Identifier) (event : IngestionEvent) :
    Follows (service.automate ingestor automation event) known := by
  refine Follows.lifted fun incidentId _ => Follows.andThen (ingest_follows service _ _ _) fun answer after => ?_
  obtain ⟨incident, applied⟩ := answer
  change Follows (if incident.status = .rotating then _ else _) _
  split
  · exact trivial
  · exact Follows.andThen (confirmAutomatically_follows service _ _ _) fun incident after =>
      rotateAutomatically_follows service _ _ _ _

/-- Whatever is asked, the program that serves it follows what it has learnt. -/
theorem serve_follows (request : Request) : Follows (service.serve request) known := by
  cases request with
  | ingest => exact Follows.andThen (ingest_follows service _ _ _) fun _ _ => trivial
  | automate => exact Follows.andThen (automate_follows service _ _ _) fun _ _ => trivial
  | confirm => exact Follows.andThen (confirm_follows service _ _ _ _ _) fun _ _ => trivial
  | startRotation => exact Follows.andThen (startRotation_follows service _ _ _ _ _ _ _ _) fun _ _ => trivial
  | advanceRun => exact Follows.andThen (advanceRun_follows _ _ _) fun _ _ => trivial
  | dismiss => exact Follows.andThen (dismiss_follows service _ _ _ _ _) fun _ _ => trivial

end

end Uumi.Incidents
