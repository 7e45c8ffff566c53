import Uumi.Contracts.Incident
import Uumi.Foundations.Documents
import Uumi.Policy.Digest

/-! The incident repository: the records of ingested events, and the incidents. -/
namespace Uumi.Storage
open Uumi.Contracts Uumi.Core Uumi.Foundations Uumi.Policy

structure IncidentStore where
  ingestions : Collection (Identifier × Digest) Record
  incidents : Collection (Identifier × String) Incident

namespace IncidentStore

def ingestionSegment (hashing : Hashing) (event : IngestionEvent) : Digest :=
  hashing.sha256 (event.source.value ++ "\x00" ++ event.sourceEventId.value ++ "\x00" ++ event.kind.value)

def ingestionRecord (event : IngestionEvent) (incident : Incident) : Record :=
  event.encode ++ [("incident_id", .text incident.id.text)]

def ingest (hashing : Hashing) (store : IncidentStore) (incident : Incident) (event : IngestionEvent) :
    Except Error ((Incident × Bool) × IncidentStore) :=
  match store.ingestions (event.organisationId, ingestionSegment hashing event) with
  | some existing => do
    let incidentId ← match existing.lookup "incident_id" with
      | some (.text incidentId) => pure incidentId
      | _ => .error (.storageIntegrity "ingestion dedupe record has no incident")
    let stored ← IngestionEvent.modelValidate existing
    raiseIf (¬ stored.SamePayload event) (.resourceConflict "ingestion event identity was replayed with changes")
    let found ← required (store.incidents (event.organisationId, incidentId))
      (.storageIntegrity "deduplicated incident is missing")
    return ((← found.modelValidate, false), store)
  | none => do
    absent (store.incidents (incident.organisationId, incident.id.text)) fun _ =>
      .resourceConflict s!"incident ID {incident.id.text} already exists"
    return ((incident, true), {
      ingestions := store.ingestions.set (event.organisationId, ingestionSegment hashing event)
        (ingestionRecord event incident)
      incidents := store.incidents.set (incident.organisationId, incident.id.text) incident })

def get (store : IncidentStore) (organisationId : Identifier) (incidentId : String) : Except Error Incident := do
  let incident ← required (store.incidents (organisationId, incidentId))
    (.resourceNotFound s!"incident {incidentId} was not found")
  incident.modelValidate

/-- `_update`: a new revision of an incident, which is not validated. -/
def update (store : IncidentStore) (organisationId : Identifier) (incidentId : String) (expectedRevision : Nat)
    (values : Incident → Incident) : Except Error (Incident × IncidentStore) := do
  let current ← store.get organisationId incidentId
  raiseIf (current.revision ≠ expectedRevision)
    (.resourceConflict s!"incident expected revision {expectedRevision}, found {current.revision}")
  let changed := { values current with revision := current.revision + 1 }
  return (changed, { store with incidents := store.incidents.set (organisationId, incidentId) changed })

end IncidentStore

def IncidentStore.Recorded (store : IncidentStore) : Prop :=
  ∀ key record, store.ingestions key = some record → ∃ incidentId, ("incident_id", Value.text incidentId) ∈ record

namespace IncidentStore
variable {hashing : Hashing} {store store' : IncidentStore}

/-- An event that was recorded is never recognised: its record has a key that no event has. -/
theorem ingest_recorded {incident : Incident} {event : IngestionEvent} (recorded : store.Recorded)
    (found : store.ingestions (event.organisationId, ingestionSegment hashing event) ≠ none) :
    ∃ e, ingest hashing store incident event = .error e := by
  obtain ⟨record, found⟩ := Option.ne_none_iff_exists'.mp found
  obtain ⟨incidentId, mem⟩ := recorded _ _ found
  have rejected := IngestionEvent.modelValidate_extra mem (by decide)
  rw [ingest, found]
  dsimp only
  split
  · rw [rejected]
    exact ⟨_, rfl⟩
  · exact ⟨_, rfl⟩

/-- An event that is ingested is new. -/
theorem ingest_applied {incident answer : Incident} {event : IngestionEvent} {applied : Bool} (recorded : store.Recorded)
    (h : ingest hashing store incident event = .ok ((answer, applied), store')) : applied = true := by
  by_cases found : store.ingestions (event.organisationId, ingestionSegment hashing event) = none
  · rw [ingest, found] at h
    simp only [unit_bind_ok, pure_ok, Prod.mk.injEq] at h
    exact h.2.1.2.symm
  · obtain ⟨e, rejected⟩ : ∃ e, ingest hashing store incident event = .error e := ingest_recorded recorded found
    rw [rejected] at h
    cases h

end IncidentStore
end Uumi.Storage
