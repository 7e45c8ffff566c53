import Mathlib
import Uumi.Audit.Outbox
import Uumi.Foundations.Documents
import Uumi.Foundations.Ranking
import Uumi.Policy.Digest

/-! The audit chain of an organisation: how events are appended to it and how the coordinator verifies it. -/
namespace Uumi.Audit
open Uumi.Contracts Uumi.Core Uumi.Foundations Uumi.Policy

/-- What an event hash is computed over. -/
structure HashedContent where
  organisationId : String
  sequence : Nat
  kind : String
  actorId : String
  resource : String
  runId : Option String
  payload : AuditPayload
  evidenceIds : List String
  previousHash : Digest
  occurredAt : AwareDatetime
  region : String
  deriving DecidableEq

variable (hashing : Hashing)

def canonical (content : HashedContent) : Json :=
  .obj [
    ("actor_id", .str content.actorId),
    ("evidence_ids", .arr (content.evidenceIds.map .str)),
    ("kind", .str content.kind),
    ("occurred_at", .str (hashing.isoformat content.occurredAt)),
    ("organisation_id", .str content.organisationId),
    ("payload", content.payload.json),
    ("previous_hash", .str content.previousHash),
    ("region", .str content.region),
    ("resource", .str content.resource),
    ("run_id", (content.runId.map Json.str).getD .null),
    ("sequence", .int content.sequence)]

def eventHash (content : HashedContent) : Digest := hashing.sha256 (canonical hashing content).text

/-- The content that an event states, with the number and the predecessor that it claims to have. -/
def contentOf (event : AuditEvent) : HashedContent where
  organisationId := event.organisationId.text
  sequence := event.sequence
  kind := event.kind.value
  actorId := event.actorId.text
  resource := event.resource.value
  runId := event.runId.map Identifier.text
  payload := event.payload
  evidenceIds := event.evidenceIds.map Identifier.text
  previousHash := event.previousHash
  occurredAt := event.occurredAt
  region := event.region.value

private theorem run_json_injective {a b : Option String}
    (h : (a.map Json.str).getD .null = (b.map Json.str).getD .null) : a = b := by
  cases a <;> cases b <;> simp_all

variable {hashing} in
/-- The canonical text determines every field. -/
theorem canonical_injective : Function.Injective (canonical hashing) := by
  rintro ⟨o, s, k, a, r, n, p, e, h, t, g⟩ ⟨o', s', k', a', r', n', p', e', h', t', g'⟩ heq
  simp only [canonical, Json.obj.injEq, List.cons.injEq, Prod.mk.injEq, Json.str.injEq, Json.arr.injEq,
    Json.int.injEq, true_and, and_true, Nat.cast_inj] at heq
  obtain ⟨rfl, he, rfl, ht, rfl, hp, rfl, rfl, rfl, hn, rfl⟩ := heq
  obtain rfl := str_map_injective he
  obtain rfl := hashing.isoformat_injective ht
  obtain rfl := AuditPayload.json_injective hp
  obtain rfl := run_json_injective hn
  rfl

variable {hashing} in
/-- Different events have different hashes, where the hash has no collision. -/
theorem eventHash_injective (collisionFree : Function.Injective hashing.sha256) :
    Function.Injective (eventHash hashing) := fun _ _ h =>
  canonical_injective (Json.text_injective (collisionFree h))

structure AuditHead where
  organisationId : Identifier
  sequence : Nat
  eventId : Identifier
  eventHash : Digest
  occurredAt : AwareDatetime
  deriving DecidableEq

/-- The audit documents of an organisation: the events by their names, the outbox and the head of the chain. -/
structure AuditStore where
  events : List (Identifier × AuditFields)
  outbox : Collection Identifier (OutboxFields AuditEvent)
  head : Option AuditHead

def AuditStore.empty : AuditStore := ⟨[], Collection.empty, none⟩

/-- The arguments of an append besides the names of organisation and event. -/
structure AuditArguments where
  kind : String
  actorId : String
  resource : String
  runId : Option String
  payload : List (String × AuditValue)
  evidenceIds : List String
  occurredAt : AwareDatetime
  region : String
  deriving DecidableEq

namespace AuditArguments

/-- The stored event has the content of these arguments. -/
def Matches (integral : FloatText → Option Int) (arguments : AuditArguments) (current : AuditEvent) : Prop :=
  current.kind.value = arguments.kind ∧ current.actorId.text = arguments.actorId ∧
    current.resource.value = arguments.resource ∧ current.runId.map Identifier.text = arguments.runId ∧
    current.evidenceIds.map Identifier.text = arguments.evidenceIds ∧ current.region.value = arguments.region ∧
    current.payload.same integral (.ofEntries arguments.payload) = true

instance (integral : FloatText → Option Int) (arguments : AuditArguments) (current : AuditEvent) :
    Decidable (arguments.Matches integral current) :=
  inferInstanceAs (Decidable (_ ∧ _))

def content (arguments : AuditArguments) (organisationId : Identifier) (sequence : Nat) (previous : Digest) :
    HashedContent where
  organisationId := organisationId.text
  sequence := sequence
  kind := arguments.kind
  actorId := arguments.actorId
  resource := arguments.resource
  runId := arguments.runId
  payload := .ofEntries arguments.payload
  evidenceIds := arguments.evidenceIds
  previousHash := previous
  occurredAt := arguments.occurredAt
  region := arguments.region

def fields (arguments : AuditArguments) (organisationId eventId : Identifier) (sequence : Nat)
    (previous checksum : Digest) : AuditFields where
  id := eventId.text
  organisationId := organisationId.text
  sequence := sequence
  kind := arguments.kind
  actorId := arguments.actorId
  resource := arguments.resource
  runId := arguments.runId
  payload := arguments.payload
  evidenceIds := arguments.evidenceIds
  previousHash := previous
  eventHash := checksum
  occurredAt := arguments.occurredAt
  region := arguments.region

end AuditArguments

/-- `==` of two events. -/
def sameEvent (integral : FloatText → Option Int) (a b : AuditEvent) : Prop :=
  { a with payload := b.payload, occurredAt := a.occurredAt.utc } = { b with occurredAt := b.occurredAt.utc } ∧
    a.payload.same integral b.payload = true

instance (integral : FloatText → Option Int) (a b : AuditEvent) : Decidable (sameEvent integral a b) :=
  inferInstanceAs (Decidable (_ ∧ _))

def outboxOf (event : AuditEvent) : OutboxFields AuditEvent :=
  .fresh { event with occurredAt := event.occurredAt.utc } event.occurredAt.utc

def nextPlace (store : AuditStore) : Except Error (Nat × Digest) :=
  match store.head with
  | some head => return (head.sequence + 1, head.eventHash)
  | none => do
    raiseIf (store.events ≠ []) (.storageIntegrity "audit chain head is missing while audit events still exist")
    return (0, genesis)

def append (integral : FloatText → Option Int) (store : AuditStore) (organisationId eventId : Identifier)
    (arguments : AuditArguments) : Except Error (AuditEvent × AuditStore) :=
  match store.events.lookup eventId with
  | some document => do
    let current ← AuditEvent.build document
    if arguments.Matches integral current then
      match store.outbox eventId with
      | some record =>
        let outbox ← auditOutbox.read record
        raiseIf (¬ sameEvent integral outbox.event current)
          (.storageIntegrity "audit outbox event does not match its index")
        return (current, store)
      | none => return (current, { store with outbox := store.outbox.set eventId (outboxOf current) })
    else .error (.resourceConflict s!"audit event {eventId.text} already exists")
  | none => do
    let (sequence, previous) ← nextPlace store
    let checksum := eventHash hashing (arguments.content organisationId sequence previous)
    let event ← AuditEvent.build (arguments.fields organisationId eventId sequence previous checksum)
    raiseIf (store.outbox eventId ≠ none) (.alreadyExists s!"document {eventId.text} already exists")
    return (event, {
      events := store.events ++ [(eventId, event.document)]
      outbox := store.outbox.set eventId (outboxOf event)
      head := some {
        organisationId := organisationId
        sequence := sequence
        eventId := eventId
        eventHash := checksum
        occurredAt := arguments.occurredAt } })

/-- The order of a query by `sequence`. -/
def sequenceKey (row : Identifier × AuditFields) : Int ×ₗ String := toLex (row.2.sequence, row.1.text)

/-- The loop of `_verify_audit`. -/
def verifyFrom (hashing : Hashing) : Nat → Digest → List AuditEvent → Except Error Unit
  | _, _, [] => return ()
  | sequence, previous, event :: events => do
    let expected := eventHash hashing { contentOf event with sequence, previousHash := previous }
    raiseIf (event.sequence ≠ sequence ∨ event.previousHash ≠ previous ∨ event.eventHash ≠ expected)
      (.value "audit hash chain validation failed")
    verifyFrom hashing (sequence + 1) event.eventHash events

/-- `_verify_audit`, up to the evidence that is stored about the events it returns. -/
def verifyAudit (documents : List (Identifier × AuditFields)) : Except Error (List AuditEvent) := do
  let events ← collect (ranked sequenceKey documents) fun row => AuditEvent.build row.2
  verifyFrom hashing 0 genesis events
  raiseIf (events = []) (.value "audit chain is empty")
  return events

end Uumi.Audit
