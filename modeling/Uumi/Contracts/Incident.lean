import Uumi.Contracts.Control
import Uumi.Contracts.Notification
import Uumi.Contracts.Plan

/-! Incidents, the events that they come from, and the credentials that they may be about. -/
namespace Uumi.Contracts
open Uumi.Core Uumi.Foundations

inductive IncidentStatus where
  | new | correlating | action | rotating | contained | resolved | dismissed
  deriving DecidableEq, Repr

def IncidentStatus.value : IncidentStatus → String
  | .new => "new"
  | .correlating => "correlating"
  | .action => "action-required"
  | .rotating => "rotation-started"
  | .contained => "contained"
  | .resolved => "resolved"
  | .dismissed => "dismissed"

def Severity.value : Severity → String
  | .low => "low"
  | .medium => "medium"
  | .high => "high"
  | .critical => "critical"

structure SourceResource where
  connectionId : Option Identifier := none
  credentialId : Option Identifier := none
  repository : Option (Text 0 256) := none
  project : Option (Text 0 256) := none
  service : Option (Text 0 256) := none
  environment : Option (Text 0 128) := none
  provider : Option (Text 0 64) := none
  providerId : Option (Text 0 256) := none
  deriving DecidableEq

structure IngestionEvent where
  id : Identifier
  organisationId : Identifier
  source : Text 1 64
  sourceEventId : Text 1 256
  kind : Text 1 96
  observedAt : AwareDatetime
  severity : Severity
  confidence : Confidence
  resource : SourceResource
  sourceReference : Text 1 1024
  receivedAt : AwareDatetime
  deriving DecidableEq

/-- The `stable_payload` of two events is the same: they differ at most in when they were received. -/
def IngestionEvent.SamePayload (event other : IngestionEvent) : Prop :=
  { event with receivedAt := other.receivedAt } = other

instance (event other : IngestionEvent) : Decidable (event.SamePayload other) :=
  inferInstanceAs (Decidable (_ = _))

structure CorrelationCandidate where
  credentialId : Identifier
  confidence : Confidence
  reasons : List String
  consumerIds : List Identifier := []
  deriving DecidableEq

/-- An incident as it is stored. Updates copy it without validation. -/
structure Incident where
  id : Identifier
  organisationId : Identifier
  eventId : Identifier
  source : Text 1 64
  kind : Text 1 96
  sourceEventId : Text 1 256
  severity : Severity
  confidence : Confidence
  status : IncidentStatus
  resource : SourceResource
  candidates : List CorrelationCandidate := []
  credentialId : Option Identifier := none
  runId : Option Identifier := none
  dismissalReason : Option String := none
  createdAt : AwareDatetime
  updatedAt : AwareDatetime
  revision : Nat := 0
  deriving DecidableEq

namespace Incident
variable (incident : Incident)

def validateResolution : Except Error Unit := do
  raiseIf (incident.status = .dismissed ∧ (incident.dismissalReason.getD "") = "")
    (.validation "a dismissed incident requires a reason")
  raiseIf ((incident.status = .contained ∨ incident.status = .resolved) ∧ incident.runId = none)
    (.validation "a contained or resolved incident requires a run")

def modelValidate : Except Error Incident := do
  let read := { incident with dismissalReason := incident.dismissalReason.map strip }
  raiseIf (∃ candidate ∈ read.candidates, candidate.reasons = [])
    (.validation "reasons should have at least 1 item")
  raiseIf (1024 < (read.dismissalReason.getD "").length)
    (.validation "dismissal_reason should have at most 1024 characters")
  read.validateResolution
  return read

end Incident

/-- A value of a stored document. -/
inductive Value where
  | null
  | text (value : String)
  | time (value : AwareDatetime)
  | map (fields : List (String × Value))

abbrev Record := List (String × Value)

namespace Record
variable (record : Record)

/-- `extra="forbid"`: every key is a field of the contract. -/
def forbidExtra (fields : List String) : Except Error Unit :=
  raiseIf (∃ entry ∈ record, entry.1 ∉ fields) (.validation "extra inputs are not permitted")

def text (field : String) : Except Error String :=
  match record.lookup field with
  | some (.text value) => .ok value
  | _ => .error (.validation s!"{field} should be a valid string")

def time (field : String) : Except Error AwareDatetime :=
  match record.lookup field with
  | some (.time value) => .ok value
  | _ => .error (.validation s!"{field} should be a valid datetime")

def map (field : String) : Except Error Record :=
  match record.lookup field with
  | some (.map fields) => .ok fields
  | _ => .error (.validation s!"{field} should be a valid mapping")

def optional {α : Type} (field : String) (build : String → Except Error α) : Except Error (Option α) :=
  match record.lookup field with
  | none | some .null => .ok none
  | some (.text value) => return some (← build value)
  | some _ => .error (.validation s!"{field} should be a valid string")

end Record

def Severity.build : String → Except Error Severity
  | "low" => .ok .low
  | "medium" => .ok .medium
  | "high" => .ok .high
  | "critical" => .ok .critical
  | _ => .error (.validation "severity should be 'low', 'medium', 'high' or 'critical'")

def Confidence.build : String → Except Error Confidence
  | "low" => .ok .low
  | "medium" => .ok .medium
  | "high" => .ok .high
  | "verified" => .ok .verified
  | _ => .error (.validation "confidence should be 'low', 'medium', 'high' or 'verified'")

def Value.ofText (value : Option String) : Value := (value.map .text).getD .null

namespace SourceResource

def encode (resource : SourceResource) : Record :=
  [("connection_id", .ofText (resource.connectionId.map (·.text))),
    ("credential_id", .ofText (resource.credentialId.map (·.text))),
    ("repository", .ofText (resource.repository.map (·.value))),
    ("project", .ofText (resource.project.map (·.value))),
    ("service", .ofText (resource.service.map (·.value))),
    ("environment", .ofText (resource.environment.map (·.value))),
    ("provider", .ofText (resource.provider.map (·.value))),
    ("provider_id", .ofText (resource.providerId.map (·.value)))]

def modelValidate (record : Record) : Except Error SourceResource := do
  record.forbidExtra ["connection_id", "credential_id", "repository", "project", "service", "environment", "provider",
    "provider_id"]
  return {
    connectionId := ← record.optional "connection_id" Identifier.build
    credentialId := ← record.optional "credential_id" Identifier.build
    repository := ← record.optional "repository" (Text.build 0 256 "repository")
    project := ← record.optional "project" (Text.build 0 256 "project")
    service := ← record.optional "service" (Text.build 0 256 "service")
    environment := ← record.optional "environment" (Text.build 0 128 "environment")
    provider := ← record.optional "provider" (Text.build 0 64 "provider")
    providerId := ← record.optional "provider_id" (Text.build 0 256 "provider_id") }

end SourceResource

namespace IngestionEvent

def encode (event : IngestionEvent) : Record :=
  [("id", .text event.id.text), ("organisation_id", .text event.organisationId.text),
    ("source", .text event.source.value), ("source_event_id", .text event.sourceEventId.value),
    ("kind", .text event.kind.value), ("observed_at", .time event.observedAt),
    ("severity", .text event.severity.value), ("confidence", .text event.confidence.value),
    ("resource", .map event.resource.encode), ("source_reference", .text event.sourceReference.value),
    ("received_at", .time event.receivedAt)]

def fields : List String :=
  ["id", "organisation_id", "source", "source_event_id", "kind", "observed_at", "severity", "confidence", "resource",
    "source_reference", "received_at"]

def modelValidate (record : Record) : Except Error IngestionEvent := do
  record.forbidExtra fields
  return {
    id := ← Identifier.build (← record.text "id")
    organisationId := ← Identifier.build (← record.text "organisation_id")
    source := ← Text.build 1 64 "source" (← record.text "source")
    sourceEventId := ← Text.build 1 256 "source_event_id" (← record.text "source_event_id")
    kind := ← Text.build 1 96 "kind" (← record.text "kind")
    observedAt := ← record.time "observed_at"
    severity := ← Severity.build (← record.text "severity")
    confidence := ← Confidence.build (← record.text "confidence")
    resource := ← SourceResource.modelValidate (← record.map "resource")
    sourceReference := ← Text.build 1 1024 "source_reference" (← record.text "source_reference")
    receivedAt := ← record.time "received_at" }

/-- No record with another key is an event. -/
theorem modelValidate_extra {record : Record} {key : String} {value : Value} (mem : (key, value) ∈ record)
    (extra : key ∉ fields) : modelValidate record = .error (.validation "extra inputs are not permitted") := by
  have forbidden : ∃ entry ∈ record, entry.1 ∉ fields := ⟨_, mem, extra⟩
  rw [modelValidate, Record.forbidExtra, raiseIf, if_pos forbidden]
  rfl

end IngestionEvent
end Uumi.Contracts
