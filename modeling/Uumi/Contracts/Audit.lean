import Mathlib
import Uumi.Contracts.Plan
import Uumi.Foundations.Json

/-! Audit events and the payloads they carry. -/
namespace Uumi.Contracts
open Uumi.Core Uumi.Foundations

def AwareDatetime.utc (t : AwareDatetime) : AwareDatetime := { t with offset := 0 }

/-- A value of an audit payload. A float is held by its text. -/
inductive AuditValue where
  | text (value : String)
  | number (value : Int)
  | float (value : FloatText)
  | flag (value : Bool)
  | null
  deriving DecidableEq

namespace AuditValue

def json : AuditValue → Json
  | text value => .str value
  | number value => .int value
  | float value => .float value
  | flag value => .bool value
  | null => .null

/-- Different values have different JSON. -/
theorem json_injective : Function.Injective json := by
  intro a b h
  cases a <;> cases b <;> simp_all [json]

def stripped : AuditValue → AuditValue
  | text value => text (strip value)
  | value => value

def integer? (integral : FloatText → Option Int) : AuditValue → Option Int
  | number value => some value
  | flag value => some value.toInt
  | float value => integral value
  | _ => none

def isNaN : AuditValue → Bool
  | float value => value.chars == ['N', 'a', 'N']
  | _ => false

/-- `==` of two values. A float without an integer value equals the floats with its text, unless it is no number. -/
def same (integral : FloatText → Option Int) (a b : AuditValue) : Bool :=
  match a.integer? integral, b.integer? integral with
  | some m, some n => m == n
  | none, none => a == b && !a.isNaN
  | _, _ => false

end AuditValue

/-- A value that is the same as another is the same as itself. -/
theorem AuditValue.same_self {integral : FloatText → Option Int} {a b : AuditValue} (h : a.same integral b = true) :
    a.same integral a = true := by
  rw [same] at h ⊢
  cases ha : a.integer? integral with
  | some m => simp
  | none =>
    cases hb : b.integer? integral with
    | some n => simp [ha, hb] at h
    | none =>
      simp only [ha, hb, Bool.and_eq_true] at h
      simp [h.2]

/-- A mapping from texts to values, in the order of its keys. -/
structure AuditPayload where
  entries : List (String × AuditValue)
  ordered : entries.Pairwise fun a b => a.1 < b.1
  deriving DecidableEq

namespace AuditPayload

def insertEntry (key : String) (value : AuditValue) : List (String × AuditValue) → List (String × AuditValue)
  | [] => [(key, value)]
  | entry :: entries =>
    if key = entry.1 then (key, value) :: entries
    else if key < entry.1 then (key, value) :: entry :: entries
    else entry :: insertEntry key value entries

private theorem mem_insertEntry {key : String} {value : AuditValue} {entries : List (String × AuditValue)}
    {entry : String × AuditValue} (h : entry ∈ insertEntry key value entries) :
    entry = (key, value) ∨ entry ∈ entries := by
  induction entries with
  | nil => exact .inl (List.mem_singleton.mp h)
  | cons first entries ih =>
    rw [insertEntry] at h
    split at h
    · rcases List.mem_cons.mp h with rfl | h
      · exact .inl rfl
      · exact .inr (List.mem_cons_of_mem _ h)
    · split at h
      · exact List.mem_cons.mp h
      · rcases List.mem_cons.mp h with rfl | h
        · exact .inr List.mem_cons_self
        · exact (ih h).imp_right (List.mem_cons_of_mem _)

private theorem insertEntry_ordered {key : String} {value : AuditValue} {entries : List (String × AuditValue)}
    (ordered : entries.Pairwise fun a b => a.1 < b.1) :
    (insertEntry key value entries).Pairwise fun a b => a.1 < b.1 := by
  induction entries with
  | nil => exact List.pairwise_singleton _ _
  | cons first entries ih =>
    obtain ⟨hfirst, ordered⟩ := List.pairwise_cons.mp ordered
    rw [insertEntry]
    split
    · rename_i heq
      refine List.pairwise_cons.mpr ⟨?_, ordered⟩
      intro entry he
      rw [show key = first.1 from heq]
      exact hfirst entry he
    · rename_i hne
      split
      · rename_i hlt
        refine List.pairwise_cons.mpr ⟨?_, List.pairwise_cons.mpr ⟨hfirst, ordered⟩⟩
        intro entry he
        rcases List.mem_cons.mp he with rfl | he
        · exact hlt
        · exact hlt.trans (hfirst entry he)
      · rename_i hge
        refine List.pairwise_cons.mpr ⟨?_, ih ordered⟩
        intro entry he
        rcases mem_insertEntry he with rfl | he
        · exact lt_of_le_of_ne (not_lt.mp hge) (Ne.symm hne)
        · exact hfirst entry he

def empty : AuditPayload := ⟨[], List.Pairwise.nil⟩

def insert (payload : AuditPayload) (entry : String × AuditValue) : AuditPayload :=
  ⟨insertEntry entry.1 entry.2 payload.entries, insertEntry_ordered payload.ordered⟩

/-- The mapping that these entries make; a later entry of a key replaces an earlier one. -/
def ofEntries (entries : List (String × AuditValue)) : AuditPayload := entries.foldl insert empty

/-- `==` of two mappings. -/
def same (integral : FloatText → Option Int) (a b : AuditPayload) : Bool :=
  a.entries.length == b.entries.length &&
    (a.entries.zip b.entries).all fun (x, y) => x.1 == y.1 && x.2.same integral y.2

/-- A mapping that equals something equals itself: it has no `NaN`. -/
theorem same_self {integral : FloatText → Option Int} {a b : AuditPayload} (h : a.same integral b = true) :
    a.same integral a = true := by
  rw [same, Bool.and_eq_true, List.all_eq_true] at h ⊢
  obtain ⟨hlen, h⟩ := h
  refine ⟨beq_self_eq_true _, fun pair hp => ?_⟩
  obtain ⟨x, y⟩ := pair
  obtain ⟨i, hi⟩ := List.mem_iff_getElem?.mp hp
  rw [List.getElem?_zip_eq_some] at hi
  obtain ⟨hx, hy⟩ := hi
  dsimp only at hx hy
  obtain rfl := Option.some.inj (hx.symm.trans hy)
  have hbound : i < b.entries.length := (eq_of_beq hlen) ▸ (List.getElem?_eq_some_iff.mp hx).1
  have hz := h (x, b.entries[i]) (List.mem_iff_getElem?.mpr
    ⟨i, List.getElem?_zip_eq_some.mpr ⟨hx, List.getElem?_eq_getElem hbound⟩⟩)
  rw [Bool.and_eq_true] at hz ⊢
  exact ⟨beq_self_eq_true _, AuditValue.same_self hz.2⟩

def json (payload : AuditPayload) : Json := .obj (payload.entries.map fun entry => (entry.1, entry.2.json))

/-- Different payloads have different JSON. -/
theorem json_injective : Function.Injective json := by
  rintro ⟨a, _⟩ ⟨b, _⟩ h
  simp only [json, Json.obj.injEq] at h
  have hentries : a = b := by
    refine List.map_injective_iff.mpr ?_ h
    rintro ⟨k, v⟩ ⟨l, w⟩ he
    obtain ⟨hk, hv⟩ := Prod.mk.inj he
    exact Prod.ext hk (AuditValue.json_injective hv)
  subst hentries
  rfl

end AuditPayload

/-- The hash that the first event of a chain refers to. -/
def genesis : Digest := String.ofList (List.replicate 64 '0')

structure AuditEvent where
  id : Identifier
  organisationId : Identifier
  sequence : Nat
  kind : Text 1 128
  actorId : Identifier
  resource : Text 1 1024
  runId : Option Identifier
  payload : AuditPayload
  evidenceIds : List Identifier
  previousHash : Digest
  eventHash : Digest
  occurredAt : AwareDatetime
  region : Text 3 32
  first : sequence = 0 → previousHash = genesis
  deriving DecidableEq

/-- The fields of an event as they are given or stored, before its validator has run. The entries of the payload are
in the order in which they were set. -/
structure AuditFields where
  id : String
  organisationId : String
  sequence : Int
  kind : String
  actorId : String
  resource : String
  runId : Option String
  payload : List (String × AuditValue)
  evidenceIds : List String
  previousHash : Digest
  eventHash : Digest
  occurredAt : AwareDatetime
  region : String
  deriving DecidableEq

def buildOption {α β : Type} (build : α → Except Error β) : Option α → Except Error (Option β)
  | none => return none
  | some value => return some (← build value)

namespace AuditEvent

/-- Build an event, or raise what its validator raises. Texts are stripped, those in the payload too. -/
def build (fields : AuditFields) : Except Error AuditEvent := do
  let id ← Identifier.build fields.id
  let organisationId ← Identifier.build fields.organisationId
  raiseIf (fields.sequence < 0) (.validation "sequence should be greater than or equal to 0")
  let kind ← Text.build 1 128 "kind" fields.kind
  let actorId ← Identifier.build fields.actorId
  let resource ← Text.build 1 1024 "resource" fields.resource
  let runId ← buildOption Identifier.build fields.runId
  let evidenceIds ← collect fields.evidenceIds Identifier.build
  let region ← Text.build 3 32 "region" fields.region
  let payload := AuditPayload.ofEntries (fields.payload.map fun entry => (strip entry.1, entry.2.stripped))
  if first : fields.sequence.toNat = 0 → fields.previousHash = genesis then
    return {
      id, organisationId, kind, actorId, resource, runId, payload, evidenceIds, region
      sequence := fields.sequence.toNat
      previousHash := fields.previousHash
      eventHash := fields.eventHash
      occurredAt := fields.occurredAt
      first }
  else .error (.validation "the first audit event must reference the genesis hash")

def document (event : AuditEvent) : AuditFields where
  id := event.id.text
  organisationId := event.organisationId.text
  sequence := event.sequence
  kind := event.kind.value
  actorId := event.actorId.text
  resource := event.resource.value
  runId := event.runId.map Identifier.text
  payload := event.payload.entries
  evidenceIds := event.evidenceIds.map Identifier.text
  previousHash := event.previousHash
  eventHash := event.eventHash
  occurredAt := event.occurredAt.utc
  region := event.region.value

/-- What building an event checks, and where its fields come from. -/
structure Built (fields : AuditFields) (event : AuditEvent) : Prop where
  id : event.id.text = strip fields.id
  organisationId : event.organisationId.text = strip fields.organisationId
  sequence : (event.sequence : Int) = fields.sequence
  kind : event.kind.value = strip fields.kind
  actorId : event.actorId.text = strip fields.actorId
  resource : event.resource.value = strip fields.resource
  runId : event.runId.map Identifier.text = fields.runId.map strip
  payload : event.payload = .ofEntries (fields.payload.map fun entry => (strip entry.1, entry.2.stripped))
  evidenceIds : event.evidenceIds.map Identifier.text = fields.evidenceIds.map strip
  previousHash : event.previousHash = fields.previousHash
  eventHash : event.eventHash = fields.eventHash
  occurredAt : event.occurredAt = fields.occurredAt
  region : event.region.value = strip fields.region

end AuditEvent

/-- An identifier is built from its stripped text. -/
theorem Identifier.build_ok {value : String} {id : Identifier} : Identifier.build value = .ok id ↔ id.text = strip value := by
  rw [Identifier.build]
  split
  · rename_i h
    rw [Except.ok.injEq]
    exact ⟨fun he => by rw [← he], fun he => Identifier.text_injective he.symm⟩
  · rename_i h
    refine iff_of_false nofun fun he => h ?_
    rw [← he]
    exact id.accepted

/-- A text is built from its stripped value. -/
theorem Text.build_ok {min max : Nat} {field value : String} {text : Text min max} :
    Text.build min max field value = .ok text ↔ text.value = strip value := by
  rw [Text.build]
  split
  · rename_i h
    rw [Except.ok.injEq]
    exact ⟨fun he => by rw [← he], fun he => Text.value_injective he.symm⟩
  · rename_i h
    refine iff_of_false nofun fun he => h ?_
    rw [← he]
    exact text.bounded

private theorem buildOption_ok {value : Option String} {id : Option Identifier} :
    buildOption Identifier.build value = .ok id ↔ id.map Identifier.text = value.map strip := by
  cases value with
  | none => cases id <;> simp [buildOption, pure_ok]
  | some value =>
    rw [buildOption, bind_ok]
    cases id with
    | none => simp [pure_ok]
    | some id => simp [Identifier.build_ok, pure_ok]

private theorem collect_build_ok {values : List String} {ids : List Identifier} :
    collect values Identifier.build = .ok ids ↔ ids.map Identifier.text = values.map strip := by
  rw [collect_ok, eq_comm, ← List.forall₂_eq_eq_eq, List.forall₂_map_left_iff, List.forall₂_map_right_iff]
  have hrel (value : String) (id : Identifier) : Identifier.build value = .ok id ↔ strip value = id.text := by
    rw [Identifier.build_ok, eq_comm]
  simp only [hrel]

/-- An event is built exactly from the fields that it has the stripped values of. -/
theorem AuditEvent.build_ok {fields : AuditFields} {event : AuditEvent} :
    AuditEvent.build fields = .ok event ↔ AuditEvent.Built fields event := by
  simp only [build, bind_ok, raiseIf_ok, Identifier.build_ok, Text.build_ok, buildOption_ok, collect_build_ok]
  constructor
  · rintro ⟨id, hid, org, horg, -, hseq, kind, hkind, actor, hactor, resource, hresource, run, hrun, evidence, hevidence,
      region, hregion, h⟩
    split at h
    · rw [pure_ok] at h
      subst h
      exact ⟨hid, horg, Int.toNat_of_nonneg (Int.not_lt.mp hseq), hkind, hactor, hresource, hrun, rfl, hevidence, rfl,
        rfl, rfl, hregion⟩
    · cases h
  · intro h
    have hnat : fields.sequence.toNat = event.sequence := by
      rw [← h.sequence, Int.toNat_natCast]
    refine ⟨_, h.id, _, h.organisationId, (), ?_, _, h.kind, _, h.actorId, _, h.resource, _, h.runId, _, h.evidenceIds,
      _, h.region, ?_⟩
    · rw [← h.sequence]
      omega
    · rw [dif_pos (by rw [hnat, ← h.previousHash]; exact event.first), pure_ok]
      simp only [hnat, ← h.payload, ← h.previousHash, ← h.eventHash, ← h.occurredAt]

private theorem strip_comp : strip ∘ strip = strip := by
  funext s
  exact strip_strip s

private theorem isWhitespace_of_mark {c : Char} (h : 45 ≤ c.toNat ∧ c.toNat ≤ 122) : isWhitespace c = false := by
  simp only [isWhitespace, Bool.or_eq_false_iff, Bool.and_eq_false_iff, decide_eq_false_iff_not, beq_eq_false_iff_ne]
  omega

private theorem mark_bounds {c : Char} (h : (identifierAccepts.lower c || ('0' ≤ c && c ≤ '9') || c == '_' || c == '-') = true) :
    45 ≤ c.toNat ∧ c.toNat ≤ 122 := by
  simp only [identifierAccepts.lower, Bool.or_eq_true, Bool.and_eq_true, decide_eq_true_eq, beq_iff_eq, Char.le_def,
    UInt32.le_iff_toNat_le] at h
  rcases h with ((⟨h1, h2⟩ | ⟨h1, h2⟩) | rfl) | rfl
  · exact ⟨le_trans (by decide) h1, h2⟩
  · exact ⟨le_trans (by decide) h1, le_trans h2 (by decide)⟩
  · decide
  · decide

/-- An identifier has no blanks. -/
theorem Identifier.strip_text (id : Identifier) : strip id.text = id.text := by
  refine strip_of_solid fun c hc => isWhitespace_of_mark (mark_bounds ?_)
  have h := id.accepted
  rw [identifierAccepts] at h
  split at h
  · cases h
  · rename_i d ds hs
    rw [hs] at hc
    simp only [Bool.and_eq_true, List.all_eq_true] at h
    rcases List.mem_cons.mp hc with rfl | hc
    · rw [h.1.1.1]
      rfl
    · exact h.1.1.2 c hc

@[simp] theorem AuditValue.stripped_stripped (value : AuditValue) : value.stripped.stripped = value.stripped := by
  cases value <;> simp [AuditValue.stripped]

namespace AuditPayload

private theorem insertEntry_last {key : String} {value : AuditValue} {entries : List (String × AuditValue)}
    (h : ∀ entry ∈ entries, entry.1 < key) : insertEntry key value entries = entries ++ [(key, value)] := by
  induction entries with
  | nil => rfl
  | cons entry entries ih =>
    have hlt := h entry List.mem_cons_self
    rw [insertEntry, if_neg hlt.ne', if_neg hlt.not_gt, ih fun e he => h e (List.mem_cons_of_mem _ he), List.cons_append]

private theorem foldl_insert (payload : AuditPayload) {entries : List (String × AuditValue)}
    (h : (payload.entries ++ entries).Pairwise fun a b => a.1 < b.1) :
    (entries.foldl insert payload).entries = payload.entries ++ entries := by
  induction entries generalizing payload with
  | nil => exact (List.append_nil _).symm
  | cons entry entries ih =>
    have hlast : (payload.insert entry).entries = payload.entries ++ [entry] := by
      refine insertEntry_last fun e he => ?_
      exact (List.pairwise_append.mp h).2.2 e he entry List.mem_cons_self
    have happ : (payload.insert entry).entries ++ entries = payload.entries ++ entry :: entries := by
      rw [hlast, List.append_assoc, List.singleton_append]
    rw [List.foldl_cons, ih _ (by rw [happ]; exact h), happ]

/-- A mapping is made by its entries. -/
@[simp] theorem ofEntries_entries (payload : AuditPayload) : ofEntries payload.entries = payload := by
  have h := foldl_insert empty payload.ordered
  cases payload
  simp only [ofEntries]
  generalize List.foldl insert empty _ = made at h
  cases made
  cases h
  rfl

private theorem mem_foldl {payload : AuditPayload} {entries : List (String × AuditValue)} {entry : String × AuditValue}
    (h : entry ∈ (entries.foldl insert payload).entries) : entry ∈ payload.entries ∨ entry ∈ entries := by
  induction entries generalizing payload with
  | nil => exact .inl h
  | cons first entries ih =>
    rcases ih h with h | h
    · rcases mem_insertEntry h with rfl | h
      · exact .inr List.mem_cons_self
      · exact .inl h
    · exact .inr (List.mem_cons_of_mem _ h)

private theorem mem_ofEntries {entries : List (String × AuditValue)} {entry : String × AuditValue}
    (h : entry ∈ (ofEntries entries).entries) : entry ∈ entries :=
  (mem_foldl h).resolve_left List.not_mem_nil

/-- A mapping with stripped texts has nothing left to strip. -/
theorem ofEntries_stripped (entries : List (String × AuditValue)) :
    ofEntries ((ofEntries (entries.map fun entry => (strip entry.1, entry.2.stripped))).entries.map
      fun entry => (strip entry.1, entry.2.stripped)) =
      ofEntries (entries.map fun entry => (strip entry.1, entry.2.stripped)) := by
  rw [List.map_congr_left (g := id), List.map_id, ofEntries_entries]
  intro entry he
  obtain ⟨raw, -, rfl⟩ := List.mem_map.mp (mem_ofEntries he)
  simp

end AuditPayload

/-- The document of an event that was built can be read; its timestamp is in UTC then. -/
theorem AuditEvent.build_document {fields : AuditFields} {event : AuditEvent} (h : AuditEvent.build fields = .ok event) :
    AuditEvent.build event.document = .ok { event with occurredAt := event.occurredAt.utc } := by
  have built := AuditEvent.build_ok.mp h
  refine AuditEvent.build_ok.mpr ?_
  constructor <;> simp only [document]
  · rw [built.id, strip_strip]
  · rw [built.organisationId, strip_strip]
  · rw [built.kind, strip_strip]
  · rw [built.actorId, strip_strip]
  · rw [built.resource, strip_strip]
  · rw [built.runId, Option.map_map, strip_comp]
  · rw [built.payload, AuditPayload.ofEntries_stripped]
  · rw [built.evidenceIds, List.map_map, strip_comp]
  · rw [built.region, strip_strip]

def AuditEvent.sample : AuditEvent where
  id := ⟨"audit-1", by decide⟩
  organisationId := organisationOne
  sequence := 0
  kind := ⟨"run.created", by decide⟩
  actorId := operatorOne
  resource := ⟨"runs/run-1", by decide⟩
  runId := none
  payload := .empty
  evidenceIds := []
  previousHash := genesis
  eventHash := genesis
  occurredAt := ⟨0, 0⟩
  region := ⟨"eu-west", by decide⟩
  first _ := rfl

end Uumi.Contracts
