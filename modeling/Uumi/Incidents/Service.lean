import Uumi.Coordinator.Context
import Uumi.Contracts.Inventory
import Uumi.Foundations.Interaction
import Uumi.Storage.Incidents
import Uumi.Storage.Runs

/-! The incident service, and the automation that ingests events and starts rotations. -/
namespace Uumi.Incidents
open Uumi.Contracts Uumi.Coordinator Uumi.Core Uumi.Foundations Uumi.Storage
open Uumi.Foundations.Program (lift)

/-- A consumer service with its repository. -/
structure RepositoryService extends ConsumerService where
  repository : Option (Text 0 256) := none

/-- What a notifier emits. -/
structure Announcement where
  eventId : Identifier
  organisationId : Identifier
  kind : NotificationKind
  severity : Severity
  title : String
  body : String
  linkPath : String
  resourceId : Identifier
  runId : Option Identifier
  incidentId : Option Identifier

/-- What is appended to the audit log. -/
structure AuditEntry where
  id : Identifier
  organisationId : Identifier
  action : String
  actorId : Identifier
  resource : String
  runId : Option Identifier := none
  occurredAt : AwareDatetime

inductive IncidentCall where
  | clock
  | ingest (incident : Incident) (event : IngestionEvent)
  | incident (organisationId : Identifier) (incidentId : String)
  | update (organisationId : Identifier) (incidentId : String) (expectedRevision : Nat) (values : Incident → Incident)
  | incidentsOf (organisationId runId : Identifier)
  | credentials (organisationId : Identifier)
  | services (organisationId : Identifier)
  | bindings (organisationId : Identifier)
  | controlVersion (organisationId credentialId versionId : Identifier)
  | createRun (command : CreateRunCommand)
  | emit (announcement : Announcement)
  | append (entry : AuditEntry)

abbrev IncidentCall.Answer : IncidentCall → Type
  | .clock => AwareDatetime
  | .ingest .. => Incident × Bool
  | .incident .. => Incident
  | .update .. => Incident
  | .incidentsOf .. => List Incident
  | .credentials .. => List ManagedCredential
  | .services .. => List RepositoryService
  | .bindings .. => List ConsumerBinding
  | .controlVersion .. => ControlVersion
  | .createRun .. => MutationResult
  | .emit .. => Unit
  | .append .. => Unit

abbrev IncidentM := Program IncidentCall IncidentCall.Answer Error

abbrev incidentCall (op : IncidentCall) : IncidentM op.Answer := .perform op

/-- How well a credential matches an event. -/
structure Score where
  score : Nat := 0
  exact : Bool := false
  reasons : List String := []

def Score.add (current : Score) (applies : Bool) (points : Nat) (exact : Bool) (reason : String) : Score :=
  if applies then
    { score := current.score + points, exact := current.exact || exact, reasons := current.reasons ++ [reason] }
  else current

def serviceOf (services : List RepositoryService) (id : Identifier) : Option RepositoryService :=
  services.reverse.find? fun service => service.id = id

def scoreOf (event : IngestionEvent) (services : List RepositoryService) (bindings : List ConsumerBinding)
    (controls : Option ControlVersion) (credential : ManagedCredential) : Score :=
  let resource := event.resource
  let own := bindings.filter fun binding => binding.credentialId = credential.id
  let consumers := own.filterMap fun binding => serviceOf services binding.serviceId
  let terms := (resource.project.map (·.value)).toList ++ (resource.service.map (·.value)).toList
  ({} : Score)
    |>.add (controls.any fun controls => controls.definition.exposureSources.any fun source =>
        some source.connectionId = resource.connectionId ∧
          some source.resource.value = resource.repository.map (·.value))
      200 true "configured exposure source matches exactly"
    |>.add (resource.credentialId = some credential.id) 200 true "managed credential identifier matches exactly"
    |>.add (resource.provider.map (·.value) = some credential.provider.value) 20 false "provider matches inventory"
    |>.add (resource.providerId ≠ none ∧ resource.providerId = credential.providerId) 100 true
      "provider identifier matches exactly"
    |>.add (resource.providerId.any fun providerId => own.any fun binding =>
        secretResourceOf binding.secretReference = providerId.value)
      100 true "secret resource matches consumer binding exactly"
    |>.add (resource.repository.any fun repository => repository.value ≠ "" ∧
        consumers.any fun service => service.repository.map (·.value) = some repository.value)
      50 false "repository consumes credential"
    |>.add (consumers.any fun service => terms.any fun term =>
        term.toList <:+: service.runtimeResource.value.toList)
      30 false "runtime resource matches incident"

section
variable (event : IngestionEvent)

def scored (services : List RepositoryService) (bindings : List ConsumerBinding) :
    List ManagedCredential → IncidentM (List (ManagedCredential × Score))
  | [] => return []
  | credential :: credentials => do
    let controls ← if event.resource.connectionId ≠ none ∧ event.resource.repository ≠ none then
        some <$> incidentCall (.controlVersion event.organisationId credential.id credential.controlVersion)
      else pure none
    let score := scoreOf event services bindings controls credential
    let others ← scored services bindings credentials
    return if score.score ≠ 0 then (credential, score) :: others else others

def candidateOf (exact : List Identifier) (credential : ManagedCredential) (score : Score) : CorrelationCandidate where
  credentialId := credential.id
  confidence := if score.exact ∧ exact.dedup.length = 1 then .verified else if 50 ≤ score.score then .high else .medium
  reasons := score.reasons
  consumerIds := credential.consumerIds

def candidates : IncidentM (List CorrelationCandidate) := do
  let credentials ← incidentCall (.credentials event.organisationId)
  let services ← incidentCall (.services event.organisationId)
  let bindings ← incidentCall (.bindings event.organisationId)
  let found ← scored event services bindings credentials
  let exact := (found.filter fun item => item.2.exact).map fun item => item.1.id
  let ordered := found.mergeSort fun a b => b.2.score ≤ a.2.score
  return ordered.map fun item => candidateOf exact item.1 item.2

end

/-- The values of `correlate`. -/
def correlated (candidates : List CorrelationCandidate) (credentialId : Option Identifier) (now : AwareDatetime)
    (current : Incident) : Incident :=
  { current with
    candidates
    credentialId
    status := if credentialId.isSome then .action else .correlating
    updatedAt := now }

/-- The values of `link_run`. -/
def linked (credentialId runId : Identifier) (now : AwareDatetime) (current : Incident) : Incident :=
  { current with credentialId := some credentialId, runId := some runId, status := .rotating, updatedAt := now }

/-- The values of `advance_run`. -/
def advanced (status : IncidentStatus) (now : AwareDatetime) (current : Incident) : Incident :=
  { current with status, updatedAt := now }

/-- The values of `dismiss`. -/
def dismissed (reason : String) (now : AwareDatetime) (current : Incident) : Incident :=
  { current with status := .dismissed, dismissalReason := some reason, updatedAt := now }

/-- What the service was configured with. -/
structure IncidentService where
  hashes : Hashes
  inventory : Bool := true
  workflow : Bool := true
  notifier : Bool := true
  audit : Bool := true

def derivedId (hashes : Hashes) (word text : String) : Except Error Identifier :=
  Identifier.build (word ++ "_" ++ (hashes.checksum text).text)

namespace IncidentService
variable (service : IncidentService)

def notify (incident : Incident) (event : IngestionEvent) : IncidentM Unit := do
  if service.notifier = false then return
  let announce (kind : NotificationKind) (title body : String) : IncidentM Unit :=
    incidentCall (.emit {
      eventId := event.id
      organisationId := incident.organisationId
      kind
      severity := incident.severity
      title
      body
      linkPath := s!"/organisations/{incident.organisationId.text}/incidents/{incident.id.text}"
      resourceId := incident.id
      runId := incident.runId
      incidentId := some incident.id })
  if event.source.value = "schedule" then
    announce .rotationDue "Scheduled credential rotation is due"
      s!"Uumi incident {incident.id.text} is ready for its scheduled rotation."
  else if incident.status = .correlating then
    announce .incidentConfirmation "Credential incident needs confirmation"
      s!"Uumi incident {incident.id.text} has ambiguous credential matches."
  else if incident.severity ∈ [.critical, .high] ∧ incident.confidence ∈ [.high, .verified] then
    announce .incident "Credential incident detected"
      s!"Uumi incident {incident.id.text} requires review and containment."

def record (incident : Incident) (action : String) (actorId : Identifier) (runId : Option Identifier) : IncidentM Unit := do
  if service.audit = false then return
  let id ← lift (derivedId service.hashes "audit" (joined [incident.id.text, toString incident.revision]))
  incidentCall (.append {
    id
    organisationId := incident.organisationId
    action
    actorId
    resource := s!"incidents/{incident.id.text}"
    runId
    occurredAt := incident.updatedAt })

section
variable (organisationId : Identifier) (incidentId : String) (expectedRevision : Nat)

def correlate (candidates : List CorrelationCandidate) : IncidentM Incident := do
  let verified := candidates.filter fun candidate => candidate.confidence = .verified
  lift (raiseIf (1 < verified.length) (.resourceConflict "an incident cannot have multiple verified credentials"))
  let now ← incidentCall .clock
  incidentCall (.update organisationId incidentId expectedRevision
    (correlated candidates (verified.head?.map (·.credentialId)) now))

def confirm (credentialId actorId : Identifier) : IncidentM Incident := do
  let incident ← incidentCall (.incident organisationId incidentId)
  lift (raiseIf (incident.revision ≠ expectedRevision)
    (.resourceConflict s!"incident expected revision {expectedRevision}, found {incident.revision}"))
  lift (raiseIf (incident.status ∉ [.correlating, .action])
    (.resourceConflict "incident cannot be confirmed in its current state"))
  lift (raiseIf (credentialId ∉ incident.candidates.map (·.credentialId))
    (.resourceConflict "credential is not a correlated incident candidate"))
  let confirmed ← correlate organisationId incidentId expectedRevision (incident.candidates.map fun item =>
    { item with confidence :=
        if item.credentialId = credentialId then .verified
        else if item.confidence = .verified then .high else item.confidence })
  service.record confirmed "incident.confirmed" actorId none
  return confirmed

def dismiss (reason : String) (actorId : Identifier) : IncidentM Incident := do
  let incident ← incidentCall (.incident organisationId incidentId)
  lift (raiseIf (incident.revision ≠ expectedRevision)
    (.resourceConflict s!"incident expected revision {expectedRevision}, found {incident.revision}"))
  if incident.status = .dismissed then return incident
  lift (raiseIf (incident.status ∉ [.new, .correlating, .action])
    (.resourceConflict "incident cannot be dismissed after rotation starts"))
  let now ← incidentCall .clock
  let current ← incidentCall (.incident organisationId incidentId)
  let result ← if current.status = .dismissed then pure current else do
    lift (raiseIf (current.status ∉ [.new, .correlating, .action])
      (.resourceConflict s!"incident {incidentId} cannot be dismissed from {current.status.value}"))
    incidentCall (.update organisationId incidentId expectedRevision (dismissed reason now))
  service.record result "incident.dismissed" actorId result.runId
  return result

/-- `start_rotation`: the incident, the run and whether this call created it. -/
def startRotation (commandId actorId controlVersion : Identifier) (reason urgency : String) (receivedAt : AwareDatetime) :
    IncidentM (Incident × RotationRun × Bool) := do
  lift (raiseIf (service.workflow = false) (.runtime "incident rotation workflow is not configured"))
  let incident ← incidentCall (.incident organisationId incidentId)
  let credentialId ← lift (required
    (if incident.status ∈ [.action, .rotating] then incident.credentialId else none)
    (.resourceConflict "incident has no verified credential for rotation"))
  let runId ← lift (derivedId service.hashes "run" commandId.text)
  lift (raiseIf (incident.runId ≠ none ∧ incident.runId ≠ some runId)
    (.resourceConflict "incident is already linked to another rotation"))
  let eventId ← lift (Text.build 1 256 "event_id" incident.eventId.text)
  let reason ← lift (Text.build 1 1024 "reason" reason)
  let urgency ← lift (Text.build 1 32 "urgency" urgency)
  let result ← incidentCall (.createRun {
    id := commandId
    organisationId
    credentialId
    controlVersion
    runId := some runId
    trigger := { source := incident.source, kind := incident.kind, eventId, actorId, reason, urgency, receivedAt } })
  if incident.status = .rotating then return (incident, result.run, false)
  let now ← incidentCall .clock
  let started ← incidentCall (.update organisationId incident.id.text incident.revision
    (linked credentialId result.run.id now))
  service.record started "incident.rotation-started" actorId (some result.run.id)
  return (started, result.run, result.applied)

end

def advanceEach (organisationId : Identifier) (status : IncidentStatus) (now : AwareDatetime) :
    List Incident → IncidentM (List Incident)
  | [] => return []
  | document :: documents => do
    let current ← lift document.modelValidate
    if current.status = status ∨ (current.status = .resolved ∧ status = .contained) then
      return current :: (← advanceEach organisationId status now documents)
    lift (raiseIf (¬ (current.status = .rotating ∨ (status = .resolved ∧ current.status = .contained)))
      (.resourceConflict s!"incident {current.id.text} cannot advance from {current.status.value}"))
    let changed ← incidentCall (.update organisationId current.id.text current.revision (advanced status now))
    return changed :: (← advanceEach organisationId status now documents)

def advanceRun (organisationId runId : Identifier) (status : IncidentStatus) : IncidentM (List Incident) := do
  lift (raiseIf (status ∉ [.contained, .resolved])
    (.value "run-linked incidents only advance to contained or resolved"))
  let now ← incidentCall .clock
  let documents ← incidentCall (.incidentsOf organisationId runId)
  advanceEach organisationId status now documents

/-- `ingest`: the incident of an event, and whether the event is new. -/
def ingest (ingestor : Identifier) (incidentId : Identifier) (event : IngestionEvent) : IncidentM (Incident × Bool) := do
  let createdAt ← incidentCall .clock
  let updatedAt ← incidentCall .clock
  let (stored, applied) ← incidentCall (.ingest {
    id := incidentId
    organisationId := event.organisationId
    eventId := event.id
    source := event.source
    kind := event.kind
    sourceEventId := event.sourceEventId
    severity := event.severity
    confidence := event.confidence
    status := .new
    resource := event.resource
    createdAt
    updatedAt } event)
  if applied = false ∨ service.inventory = false then
    service.notify stored event
    return (stored, applied)
  let found ← candidates event
  let incident ← correlate event.organisationId stored.id.text stored.revision found
  service.notify incident event
  service.record incident "incident.ingested" ingestor none
  return (incident, applied)

def automatic (controls : ControlVersion) (event : IngestionEvent) (confidence : Confidence) : Bool :=
  event.kind.value ∈ controls.definition.automaticTriggers ∧
    level controls.definition.minimumAutomaticConfidence ≤ level confidence
where
  level : Confidence → Nat
    | .low => 0
    | .medium => 1
    | .high => 2
    | .verified => 3

/-- `_credential`. -/
def credentialOf (organisationId credentialId : Identifier) : IncidentM ManagedCredential := do
  let credentials ← incidentCall (.credentials organisationId)
  match credentials.filter fun credential => credential.id = credentialId with
  | [credential] => return credential
  | _ => lift (.error (.resourceConflict "correlated credential disappeared from inventory"))

def rotationReason (kind : String) : String :=
  match kind with
  | "credential-rotation-due" => "The configured rotation time was reached."
  | "credential-expiring" => "The credential reached its configured rotation window."
  | "credential-exposure-detected" => "A verified credential exposure was detected."
  | "credential-provider-drift" => "The provider credential no longer matches inventory."
  | "credential-inventory-drift" => "The credential inventory mapping changed."
  | "credential-runtime-drift" => "A runtime credential binding changed."
  | _ => "A configured credential control started the rotation."

def confirmAutomatically (ingestor : Identifier) (event : IngestionEvent) (incident : Incident) : IncidentM Incident := do
  match incident.status, incident.candidates with
  | .correlating, [candidate] =>
    let credential ← credentialOf event.organisationId candidate.credentialId
    let controls ← incidentCall (.controlVersion event.organisationId credential.id credential.controlVersion)
    if automatic controls event candidate.confidence then
      service.confirm event.organisationId incident.id.text incident.revision credential.id ingestor
    else return incident
  | _, _ => return incident

def rotateAutomatically (automation : Identifier) (event : IngestionEvent) (incident : Incident) (applied : Bool) :
    IncidentM (Incident × Bool) := do
  match incident.status, incident.credentialId with
  | .action, some credentialId =>
    let credential ← credentialOf event.organisationId credentialId
    let controls ← incidentCall (.controlVersion event.organisationId credential.id credential.controlVersion)
    if automatic controls event .verified = false then return (incident, applied)
    let urgency := if event.kind.value ∈ controls.definition.emergencyTriggers then "emergency" else "routine"
    let commandId ← lift (derivedId service.hashes "command" event.id.text)
    Program.tryCatch (do
      let (started, _, _) ← service.startRotation event.organisationId incident.id.text commandId automation controls.id
        (rotationReason event.kind.value) urgency event.observedAt
      return (started, applied)) fun
    | .resourceConflict message => do
      let current ← incidentCall (.incident event.organisationId incident.id.text)
      if current.status = .rotating then return (current, applied)
      lift (.error (.resourceConflict message))
    | e => lift (.error e)
  | _, _ => return (incident, applied)

/-- `IncidentAutomation.ingest`. -/
def automate (ingestor automation : Identifier) (event : IngestionEvent) : IncidentM (Incident × Bool) := do
  let incidentId ← lift (derivedId service.hashes "incident" event.id.text)
  let (incident, applied) ← service.ingest ingestor incidentId event
  if incident.status = .rotating then return (incident, applied)
  let incident ← service.confirmAutomatically ingestor event incident
  service.rotateAutomatically automation event incident applied

end IncidentService
end Uumi.Incidents
