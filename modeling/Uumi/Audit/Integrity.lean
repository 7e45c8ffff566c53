import Mathlib
import Uumi.Audit.Chain
import Uumi.Foundations.HashChain

/-! Integrity of the audit chain: what any sequence of appends leaves behind, that the coordinator accepts it, and
that it refuses the chain once somebody has changed it. -/
namespace Uumi.Audit
open Uumi.Contracts Uumi.Core Uumi.Foundations Uumi.Policy

variable {hashing : Hashing} {integral : FloatText → Option Int} {organisationId : Identifier}

def chainFormat (hashing : Hashing) : ChainFormat AuditEvent Digest where
  sequence := AuditEvent.sequence
  previous := AuditEvent.previousHash
  hash := AuditEvent.eventHash
  checksum event := eventHash hashing (contentOf event)

/-- The coordinator accepts exactly the chains. -/
theorem verifyFrom_ok {sequence : Nat} {previous : Digest} {events : List AuditEvent} :
    verifyFrom hashing sequence previous events = .ok () ↔ (chainFormat hashing).Linked sequence previous events := by
  induction events generalizing sequence previous with
  | nil => simp [verifyFrom, ChainFormat.Linked, pure_ok]
  | cons event events ih =>
    rw [verifyFrom, unit_bind_ok, raiseIf_ok, ih, ChainFormat.Linked]
    simp only [not_or, not_not, chainFormat, and_assoc]
    refine and_congr_right fun hs => and_congr_right fun hp => and_congr_left fun _ => ?_
    rw [← hs, ← hp]
    rfl

private theorem verifyAudit_ok {documents : List (Identifier × AuditFields)} {events : List AuditEvent} :
    verifyAudit hashing documents = .ok events ↔
      List.Forall₂ (fun row event => AuditEvent.build row.2 = .ok event) (ranked sequenceKey documents) events ∧
        (chainFormat hashing).Linked 0 genesis events ∧ events ≠ [] := by
  rw [verifyAudit, bind_ok]
  simp only [collect_ok, unit_bind_ok, verifyFrom_ok, raiseIf_ok, pure_ok]
  constructor
  · rintro ⟨_, hread, hlinked, hne, rfl⟩
    exact ⟨hread, hlinked, hne⟩
  · rintro ⟨hread, hlinked, hne⟩
    exact ⟨events, hread, hlinked, hne, rfl⟩

/-- An append returns a stored event, or it adds a new one at the end of the chain. -/
theorem append_ok {store store' : AuditStore} {eventId : Identifier} {arguments : AuditArguments} {event : AuditEvent}
    (h : append hashing integral store organisationId eventId arguments = .ok (event, store')) :
    (∃ document, store.events.lookup eventId = some document ∧ AuditEvent.build document = .ok event ∧
      arguments.Matches integral event ∧
      ((∃ record, store.outbox eventId = some record ∧ store' = store) ∨ (store.outbox eventId = none ∧
        store' = { store with outbox := store.outbox.set eventId (outboxOf event) }))) ∨
    (store.events.lookup eventId = none ∧ store.outbox eventId = none ∧
      ∃ sequence previous, nextPlace store = .ok (sequence, previous) ∧
        AuditEvent.build (arguments.fields organisationId eventId sequence previous
          (eventHash hashing (arguments.content organisationId sequence previous))) = .ok event ∧
        store' = {
          events := store.events ++ [(eventId, event.document)]
          outbox := store.outbox.set eventId (outboxOf event)
          head := some ⟨organisationId, sequence, eventId,
            eventHash hashing (arguments.content organisationId sequence previous), arguments.occurredAt⟩ }) := by
  rw [append] at h
  split at h
  · rename_i document hd
    rw [bind_ok] at h
    obtain ⟨current, hread, h⟩ := h
    split at h
    · rename_i hmatch
      split at h
      · rename_i record hr
        simp only [bind_ok, pure_ok, Prod.mk.injEq] at h
        obtain ⟨_, _, _, _, rfl, rfl⟩ := h
        exact .inl ⟨document, hd, hread, hmatch, .inl ⟨record, hr, rfl⟩⟩
      · rename_i hr
        simp only [pure_ok, Prod.mk.injEq] at h
        obtain ⟨rfl, rfl⟩ := h
        exact .inl ⟨document, hd, hread, hmatch, .inr ⟨hr, rfl⟩⟩
    · cases h
  · rename_i hd
    rw [bind_ok] at h
    obtain ⟨⟨sequence, previous⟩, hplace, h⟩ := h
    dsimp only at h
    rw [bind_ok] at h
    obtain ⟨event', hbuild, h⟩ := h
    rw [unit_bind_ok, raiseIf_ok, not_not, pure_ok, Prod.mk.injEq] at h
    obtain ⟨hr, rfl, rfl⟩ := h
    exact .inr ⟨hd, hr, sequence, previous, hplace, hbuild, rfl⟩

/-- Arguments that the stored event repeats word for word: no text has blanks around it, and the time is in UTC. -/
structure AuditArguments.Clean (arguments : AuditArguments) : Prop where
  kind : strip arguments.kind = arguments.kind
  actorId : strip arguments.actorId = arguments.actorId
  resource : strip arguments.resource = arguments.resource
  runId : arguments.runId.map strip = arguments.runId
  payload : arguments.payload.map (fun entry => (strip entry.1, entry.2.stripped)) = arguments.payload
  evidenceIds : arguments.evidenceIds.map strip = arguments.evidenceIds
  occurredAt : arguments.occurredAt.utc = arguments.occurredAt
  region : strip arguments.region = arguments.region

/-- The hash of a new event is computed over what the event states. -/
theorem AuditArguments.Clean.content {arguments : AuditArguments} (clean : arguments.Clean) {eventId : Identifier}
    {sequence : Nat} {previous checksum : Digest} {event : AuditEvent}
    (built : AuditEvent.Built (arguments.fields organisationId eventId sequence previous checksum) event) :
    contentOf event = arguments.content organisationId sequence previous := by
  simp only [AuditArguments.fields] at built
  simp only [contentOf, AuditArguments.content, HashedContent.mk.injEq]
  refine ⟨?_, ?_, ?_, ?_, ?_, ?_, ?_, ?_, built.previousHash, built.occurredAt, ?_⟩
  · rw [built.organisationId, organisationId.strip_text]
  · exact Int.ofNat_inj.mp built.sequence
  · rw [built.kind, clean.kind]
  · rw [built.actorId, clean.actorId]
  · rw [built.resource, clean.resource]
  · rw [built.runId, clean.runId]
  · rw [built.payload, clean.payload]
  · rw [built.evidenceIds, clean.evidenceIds]
  · rw [built.region, clean.region]

/-- The head that names the last event of a chain. -/
def headOf (event : AuditEvent) : AuditHead where
  organisationId := event.organisationId
  sequence := event.sequence
  eventId := event.id
  eventHash := event.eventHash
  occurredAt := event.occurredAt

/-- The documents are those of a chain of events, in the order of the chain. -/
structure Chained (hashing : Hashing) (organisationId : Identifier) (store : AuditStore) (events : List AuditEvent) :
    Prop where
  documents : store.events = events.map fun event => (event.id, event.document)
  readable : ∀ event ∈ events, AuditEvent.build event.document = .ok event
  ours : ∀ event ∈ events, event.organisationId = organisationId
  unique : (events.map AuditEvent.id).Nodup
  linked : (chainFormat hashing).Linked 0 genesis events
  head : store.head = events.getLast?.map headOf
  recorded : ∀ event ∈ events, store.outbox event.id = some (outboxOf event)
  indexed : ∀ id record, store.outbox id = some record → ∃ event ∈ events, event.id = id

namespace Chained
variable {store : AuditStore} {events : List AuditEvent}

/-- An empty log is an empty chain. -/
theorem empty : Chained hashing organisationId AuditStore.empty [] where
  documents := rfl
  readable event he := absurd he List.not_mem_nil
  ours event he := absurd he List.not_mem_nil
  unique := List.nodup_nil
  linked := by
    rw [ChainFormat.Linked]
    trivial
  head := rfl
  recorded event he := absurd he List.not_mem_nil
  indexed id record hr := by cases hr

/-- A stored event is found under its id. -/
theorem lookup (h : Chained hashing organisationId store events) {event : AuditEvent} (he : event ∈ events) :
    store.events.lookup event.id = some event.document := by
  rw [h.documents]
  have hkeys : ((events.map fun e => (e.id, e.document)).map Prod.fst).Nodup := by
    rw [List.map_map]
    exact h.unique
  have hrow : (event.id, event.document) ∈ events.map fun e => (e.id, e.document) := List.mem_map_of_mem he
  cases hl : (events.map fun e => (e.id, e.document)).lookup event.id with
  | none =>
    have := List.lookup_eq_none_iff.mp hl _ hrow
    simp at this
  | some document =>
    obtain ⟨before, after, heq, -⟩ := List.lookup_eq_some_iff.mp hl
    have hother : (event.id, document) ∈ events.map fun e => (e.id, e.document) := by
      rw [heq]
      exact List.mem_append_right _ List.mem_cons_self
    exact congrArg some (congrArg Prod.snd (List.inj_on_of_nodup_map hkeys hother hrow rfl))

/-- What is found under an id is the document of the event with this id. -/
theorem of_lookup (h : Chained hashing organisationId store events) {eventId : Identifier} {document : AuditFields}
    (hl : store.events.lookup eventId = some document) : ∃ event ∈ events, event.id = eventId ∧ event.document = document := by
  rw [h.documents] at hl
  obtain ⟨before, after, heq, -⟩ := List.lookup_eq_some_iff.mp hl
  have hmem : (eventId, document) ∈ events.map fun e => (e.id, e.document) := by
    rw [heq]
    exact List.mem_append_right _ List.mem_cons_self
  obtain ⟨event, he, hrow⟩ := List.mem_map.mp hmem
  exact ⟨event, he, (Prod.mk.inj hrow).1, (Prod.mk.inj hrow).2⟩

/-- The next event comes after the last one. -/
theorem place (h : Chained hashing organisationId store events) :
    nextPlace store = .ok (events.length, (chainFormat hashing).tip genesis events) := by
  rw [nextPlace, h.head]
  cases hl : events.getLast? with
  | none =>
    obtain rfl := List.getLast?_eq_none_iff.mp hl
    have hnone : store.events = [] := h.documents
    simp [hnone, raiseIf, ChainFormat.tip, pure, Except.pure]
  | some last =>
    obtain ⟨init, rfl⟩ := List.getLast?_eq_some_iff.mp hl
    have hlast := (ChainFormat.linked_append.mp h.linked).2.1
    simp only [chainFormat, Nat.zero_add] at hlast
    simp [ChainFormat.tip, headOf, chainFormat, hlast, pure, Except.pure]

/-- A clean new event extends the chain. -/
theorem extend (h : Chained hashing organisationId store events) {eventId : Identifier} {arguments : AuditArguments}
    {event : AuditEvent} (clean : arguments.Clean) (free : store.events.lookup eventId = none)
    (built : AuditEvent.build (arguments.fields organisationId eventId events.length
      ((chainFormat hashing).tip genesis events) (eventHash hashing (arguments.content organisationId events.length
        ((chainFormat hashing).tip genesis events)))) = .ok event) :
    Chained hashing organisationId {
        events := store.events ++ [(eventId, event.document)]
        outbox := store.outbox.set eventId (outboxOf event)
        head := some ⟨organisationId, events.length, eventId, eventHash hashing (arguments.content organisationId
          events.length ((chainFormat hashing).tip genesis events)), arguments.occurredAt⟩ } (events ++ [event]) := by
  have hb := AuditEvent.build_ok.mp built
  have hcontent := clean.content hb
  have hid : event.id = eventId := Identifier.text_injective (hb.id.trans eventId.strip_text)
  have horg : event.organisationId = organisationId :=
    Identifier.text_injective (hb.organisationId.trans organisationId.strip_text)
  have hseq : event.sequence = events.length := Int.ofNat_inj.mp hb.sequence
  have hutc : event.occurredAt.utc = event.occurredAt := by
    rw [hb.occurredAt]
    exact clean.occurredAt
  have hnew : ∀ other ∈ events, other.id ≠ eventId := by
    intro other ho heq
    have hl := h.lookup ho
    rw [heq, free] at hl
    cases hl
  constructor
  · simp [h.documents, hid]
  · intro e he
    rcases List.mem_append.mp he with he | he
    · exact h.readable e he
    · rw [List.mem_singleton.mp he, AuditEvent.build_document built, hutc]
  · intro e he
    rcases List.mem_append.mp he with he | he
    · exact h.ours e he
    · rw [List.mem_singleton.mp he, horg]
  · rw [List.map_append, List.nodup_append]
    refine ⟨h.unique, List.nodup_singleton _, ?_⟩
    intro a ha b hb'
    obtain ⟨other, ho, rfl⟩ := List.mem_map.mp ha
    rw [List.map_singleton, List.mem_singleton] at hb'
    rw [hb', hid]
    exact hnew other ho
  · refine ChainFormat.linked_append.mpr ⟨h.linked, ?_, hb.previousHash, ?_⟩
    · rw [Nat.zero_add]
      exact hseq
    · change event.eventHash = eventHash hashing (contentOf event)
      rw [hcontent]
      exact hb.eventHash
  · rw [List.getLast?_append, List.getLast?_singleton, Option.some_or, Option.map_some, headOf, horg, hseq, hid,
      show event.eventHash = _ from hb.eventHash, show event.occurredAt = _ from hb.occurredAt]
    rfl
  · intro e he
    rcases List.mem_append.mp he with he | he
    · exact (Collection.set_of_ne (hnew e he)).trans (h.recorded e he)
    · rw [List.mem_singleton.mp he, hid]
      exact Collection.set_same _ _ _
  · intro id record hr
    rcases Collection.set_eq_some.mp hr with ⟨rfl, -⟩ | ⟨-, hr⟩
    · exact ⟨event, List.mem_append_right _ List.mem_cons_self, hid⟩
    · obtain ⟨e, he, hid⟩ := h.indexed id record hr
      exact ⟨e, List.mem_append_left _ he, hid⟩

/-- A stored event whose content is given again is returned; other content under its id is refused. -/
theorem replay (h : Chained hashing organisationId store events) {event : AuditEvent} (he : event ∈ events)
    (arguments : AuditArguments) : append hashing integral store organisationId event.id arguments =
      if arguments.Matches integral event then .ok (event, store)
      else .error (.resourceConflict s!"audit event {event.id.text} already exists") := by
  have hread : auditOutbox.read (outboxOf event) = .ok (outboxOf event) :=
    auditOutbox.read_ok.mpr ⟨auditOutbox.validate_fresh _ _, rfl⟩
  simp only [append, h.lookup he, h.readable event he, ok_bind, h.recorded event he, hread]
  split
  · rename_i hmatch
    have hsame : sameEvent integral (outboxOf event).event event := ⟨rfl, AuditPayload.same_self hmatch.2.2.2.2.2.2⟩
    rw [raiseIf_bind_of_not (not_not.mpr hsame)]
    rfl
  · rfl

/-- An append that is sent again returns the same event and changes nothing. -/
theorem append_again (h : Chained hashing organisationId store events) {eventId : Identifier}
    {arguments : AuditArguments} {event : AuditEvent} {store' : AuditStore} (clean : arguments.Clean)
    (self : (AuditPayload.ofEntries arguments.payload).same integral (.ofEntries arguments.payload) = true)
    (happend : append hashing integral store organisationId eventId arguments = .ok (event, store')) :
    append hashing integral store' organisationId eventId arguments = .ok (event, store') := by
  rcases append_ok happend with ⟨document, hl, -, hmatch, -⟩ | ⟨hl, -, sequence, previous, hplace, hbuild, rfl⟩
  · obtain ⟨stored, hs, rfl, -⟩ := h.of_lookup hl
    rw [h.replay hs] at happend
    split at happend
    · cases happend
      rw [h.replay hs, if_pos ‹_›]
    · cases happend
  · rw [h.place] at hplace
    cases hplace
    have hextended := h.extend clean hl hbuild
    have hb := AuditEvent.build_ok.mp hbuild
    have hid : event.id = eventId := Identifier.text_injective (hb.id.trans eventId.strip_text)
    have hcontent := clean.content hb
    simp only [contentOf, AuditArguments.content, HashedContent.mk.injEq] at hcontent
    obtain ⟨-, -, hkind, hactor, hresource, hrun, hpayload, hevidence, -, -, hregion⟩ := hcontent
    have hmatch : arguments.Matches integral event :=
      ⟨hkind, hactor, hresource, hrun, hevidence, hregion, hpayload ▸ self⟩
    have hreplay := @replay _ integral _ _ _ hextended event (List.mem_append_right _ List.mem_cons_self) arguments
    rw [if_pos hmatch, hid] at hreplay
    exact hreplay

end Chained

/-- An append that returns. A call that adds an event has allowed arguments. -/
def Step (hashing : Hashing) (integral : FloatText → Option Int) (organisationId : Identifier)
    (allowed : AuditArguments → Prop) (store store' : AuditStore) : Prop :=
  ∃ eventId arguments event, append hashing integral store organisationId eventId arguments = .ok (event, store') ∧
    (store.events.lookup eventId = none → allowed arguments)

/-- What any number of appends leave behind. Calls that raise change nothing. -/
def Reachable (hashing : Hashing) (integral : FloatText → Option Int) (organisationId : Identifier)
    (allowed : AuditArguments → Prop) (store : AuditStore) : Prop :=
  Relation.ReflTransGen (Step hashing integral organisationId allowed) AuditStore.empty store

/-- An append lengthens the chain or leaves it as it is. -/
theorem Step.chained {store store' : AuditStore} {events : List AuditEvent}
    (step : Step hashing integral organisationId AuditArguments.Clean store store')
    (h : Chained hashing organisationId store events) :
    ∃ more, Chained hashing organisationId store' (events ++ more) := by
  obtain ⟨eventId, arguments, event, happend, hclean⟩ := step
  rcases append_ok happend with ⟨document, hl, -, hmatch, -⟩ | ⟨hl, -, sequence, previous, hplace, hbuild, rfl⟩
  · obtain ⟨stored, hs, rfl, -⟩ := h.of_lookup hl
    rw [h.replay hs] at happend
    split at happend
    · cases happend
      exact ⟨[], by rwa [List.append_nil]⟩
    · cases happend
  · rw [h.place] at hplace
    cases hplace
    exact ⟨[event], h.extend (hclean hl) hl hbuild⟩

/-- Every log that clean appends reach is a chain. -/
theorem Reachable.chained {store : AuditStore}
    (reachable : Reachable hashing integral organisationId AuditArguments.Clean store) :
    ∃ events, Chained hashing organisationId store events := by
  induction reachable with
  | refl => exact ⟨[], Chained.empty⟩
  | tail _ step ih =>
    obtain ⟨events, h⟩ := ih
    obtain ⟨more, h⟩ := step.chained h
    exact ⟨_, h⟩

/-- The verification raises. -/
def Rejects (hashing : Hashing) (documents : List (Identifier × AuditFields)) : Prop :=
  ∃ e, verifyAudit hashing documents = .error e

private theorem rejects_iff {documents : List (Identifier × AuditFields)} :
    Rejects hashing documents ↔ ∀ events, verifyAudit hashing documents ≠ .ok events := by
  rw [Rejects]
  cases verifyAudit hashing documents with
  | error e => simp
  | ok events => simp

private theorem accepted_mem {documents : List (Identifier × AuditFields)} {accepted : List AuditEvent}
    (h : verifyAudit hashing documents = .ok accepted) {row : Identifier × AuditFields} (hr : row ∈ documents) :
    ∃ event ∈ accepted, AuditEvent.build row.2 = .ok event := by
  obtain ⟨hread, -, -⟩ := verifyAudit_ok.mp h
  obtain ⟨i, hi⟩ := List.mem_iff_get.mp ((mem_ranked sequenceKey).mpr hr)
  have hbound : i.val < accepted.length := by
    rw [← hread.length_eq]
    exact i.isLt
  have hbuild := hread.get i.isLt hbound
  rw [hi] at hbuild
  exact ⟨_, List.get_mem _ _, hbuild⟩

namespace Chained
variable {store : AuditStore} {events : List AuditEvent}

/-- The coordinator accepts a chain that is not empty. -/
theorem accepted (h : Chained hashing organisationId store events) (hne : events ≠ []) :
    verifyAudit hashing store.events = .ok events := by
  have hsorted : store.events.Pairwise fun a b => sequenceKey a < sequenceKey b := by
    rw [h.documents, List.pairwise_map]
    refine h.linked.pairwise.imp fun hlt => Prod.Lex.toLex_lt_toLex.mpr (.inl ?_)
    exact Int.ofNat_lt.mpr hlt
  refine verifyAudit_ok.mpr ⟨?_, h.linked, hne⟩
  rw [ranked_of_pairwise hsorted, h.documents, List.forall₂_map_left_iff, List.forall₂_same]
  exact h.readable

/-- The coordinator rejects a collection in which the hash of an event stands on other content. -/
theorem altered (h : Chained hashing organisationId store events) (collisionFree : Function.Injective hashing.sha256)
    {event : AuditEvent} (he : event ∈ events) {documents : List (Identifier × AuditFields)} {name : Identifier}
    {document : AuditFields} (hd : (name, document) ∈ documents) (hhash : document.eventHash = event.eventHash)
    (hcontent : ∀ other, AuditEvent.build document = .ok other → contentOf other ≠ contentOf event) :
    Rejects hashing documents := by
  refine rejects_iff.mpr fun accepted hok => ?_
  obtain ⟨-, hlinked, -⟩ := verifyAudit_ok.mp hok
  obtain ⟨other, ho, hbuild⟩ := accepted_mem hok hd
  have hsum : other.eventHash = eventHash hashing (contentOf other) := hlinked.checked ho
  have hown : event.eventHash = eventHash hashing (contentOf event) := h.linked.checked he
  rw [(AuditEvent.build_ok.mp hbuild).eventHash, hhash, hown] at hsum
  exact hcontent other hbuild (eventHash_injective collisionFree hsum).symm

/-- The coordinator rejects a collection that has the last event of a chain but too few events. -/
theorem dropped (h : Chained hashing organisationId store events) {i : Nat} (hi : i + 1 < events.length) :
    Rejects hashing (store.events.eraseIdx i) := by
  refine rejects_iff.mpr fun accepted hok => ?_
  obtain ⟨hread, hlinked, -⟩ := verifyAudit_ok.mp hok
  obtain ⟨last, hlast⟩ : ∃ last, events[events.length - 1]? = some last :=
    ⟨_, List.getElem?_eq_getElem (show events.length - 1 < events.length by omega)⟩
  have hrow : (last.id, last.document) ∈ store.events.eraseIdx i := by
    rw [h.documents, List.mem_eraseIdx_iff_getElem?]
    refine ⟨events.length - 1, by omega, ?_⟩
    rw [List.getElem?_map, hlast, Option.map_some]
  obtain ⟨other, ho, hbuild⟩ := accepted_mem hok hrow
  have hsame : last = other := by
    rw [h.readable last (List.mem_iff_getElem?.mpr ⟨_, hlast⟩)] at hbuild
    exact Except.ok.inj hbuild
  have hseq : last.sequence = 0 + (events.length - 1) := h.linked.sequence_eq hlast
  have hlt : last.sequence < 0 + accepted.length := hlinked.sequence_lt (hsame ▸ ho)
  have hlen : accepted.length = events.length - 1 := by
    rw [← hread.length_eq, (ranked_perm sequenceKey _).length_eq, List.length_eraseIdx_of_lt, h.documents, List.length_map]
    rw [h.documents, List.length_map]
    omega
  omega

end Chained

/-- The documents, the sequence numbers of two of them exchanged. -/
def exchanged (documents : List (Identifier × AuditFields)) (i j : Nat) : List (Identifier × AuditFields) :=
  match documents[i]?, documents[j]? with
  | some a, some b => (documents.set i (a.1, { a.2 with sequence := b.2.sequence })).set j
      (b.1, { b.2 with sequence := a.2.sequence })
  | _, _ => documents

/-- What would be hashed for the arguments is what is hashed of the event, up to the time and to how the numbers of the
payload are written. -/
def AuditArguments.SameContent (integral : FloatText → Option Int) (arguments : AuditArguments) (event : AuditEvent) :
    Prop :=
  { arguments.content event.organisationId event.sequence event.previousHash with
      payload := event.payload
      occurredAt := event.occurredAt } = contentOf event ∧
    event.payload.same integral (.ofEntries arguments.payload) = true

private theorem AuditArguments.sameContent_iff {arguments : AuditArguments} {event : AuditEvent} :
    arguments.SameContent integral event ↔ arguments.Matches integral event := by
  simp only [SameContent, Matches, content, contentOf, HashedContent.mk.injEq, true_and]
  constructor
  · rintro ⟨⟨hkind, hactor, hresource, hrun, hevidence, hregion⟩, hsame⟩
    exact ⟨hkind.symm, hactor.symm, hresource.symm, hrun.symm, hevidence.symm, hregion.symm, hsame⟩
  · rintro ⟨hkind, hactor, hresource, hrun, hevidence, hregion, hsame⟩
    exact ⟨⟨hkind.symm, hactor.symm, hresource.symm, hrun.symm, hevidence.symm, hregion.symm⟩, hsame⟩

/-- What every run of appends leaves behind, and what the coordinator makes of it and of its falsifications. An event is
altered when its document no longer reads as what its hash was computed over. -/
structure Intact (hashing : Hashing) (integral : FloatText → Option Int) (organisationId : Identifier)
    (store : AuditStore) (events : List AuditEvent) : Prop where
  documents : store.events = events.map fun event => (event.id, event.document)
  numbered : ∀ (i : Nat) (event : AuditEvent), events[i]? = some event → event.sequence = i
  first : ∀ event : AuditEvent, events[0]? = some event → event.previousHash = genesis
  linked : ∀ (i : Nat) (event next : AuditEvent), events[i]? = some event → events[i + 1]? = some next →
    next.previousHash = event.eventHash
  head : store.head = events.getLast?.map headOf
  recorded : ∀ event ∈ events, store.outbox event.id = some (outboxOf event)
  indexed : ∀ id record, store.outbox id = some record → ∃ event ∈ events, event.id = id
  replayed : ∀ event ∈ events, ∀ arguments, arguments.SameContent integral event →
    append hashing integral store organisationId event.id arguments = .ok (event, store)
  refused : ∀ event ∈ events, ∀ arguments, ¬ arguments.SameContent integral event →
    append hashing integral store organisationId event.id arguments =
      .error (.resourceConflict s!"audit event {event.id.text} already exists")
  accepted : events ≠ [] → verifyAudit hashing store.events = .ok events
  altered : ∀ (i : Nat) (event : AuditEvent), events[i]? = some event → ∀ name document, document.eventHash = event.eventHash →
    (∀ other, AuditEvent.build document = .ok other → contentOf other ≠ contentOf event) →
    Rejects hashing (store.events.set i (name, document))
  dropped : ∀ i, i + 1 < events.length → Rejects hashing (store.events.eraseIdx i)
  reordered : ∀ i j, i < events.length → j < events.length → i ≠ j → Rejects hashing (exchanged store.events i j)

namespace Chained
variable {store : AuditStore} {events : List AuditEvent}

private theorem previous_succ (h : Chained hashing organisationId store events) {i : Nat} {event next : AuditEvent}
    (he : events[i]? = some event) (hn : events[i + 1]? = some next) : next.previousHash = event.eventHash := by
  have hprev : next.previousHash = (chainFormat hashing).tip genesis (events.take (i + 1)) := h.linked.previous_eq hn
  rw [hprev, ChainFormat.tip, List.take_add_one, he, Option.toList_some, List.getLast?_append, List.getLast?_singleton]
  rfl

/-- Two events cannot have each other's numbers. -/
theorem reordered (h : Chained hashing organisationId store events) (collisionFree : Function.Injective hashing.sha256)
    {i j : Nat} (hi : i < events.length) (hj : j < events.length) (hne : i ≠ j) :
    Rejects hashing (exchanged store.events i j) := by
  have hei : events[i]? = some events[i] := List.getElem?_eq_getElem hi
  have hej : events[j]? = some events[j] := List.getElem?_eq_getElem hj
  have hdi : store.events[i]? = some (events[i].id, events[i].document) := by
    rw [h.documents, List.getElem?_map, hei, Option.map_some]
  have hdj : store.events[j]? = some (events[j].id, events[j].document) := by
    rw [h.documents, List.getElem?_map, hej, Option.map_some]
  rw [exchanged, hdi, hdj]
  refine h.altered collisionFree (List.mem_of_getElem? hej) (List.mem_set ?_ _) rfl ?_
  · rw [List.length_set, h.documents, List.length_map]
    exact hj
  · intro other hbuild hcontent
    have hseq : (other.sequence : Int) = events[i].sequence := (AuditEvent.build_ok.mp hbuild).sequence
    have hsame : other.sequence = events[j].sequence := congrArg HashedContent.sequence hcontent
    have hni : events[i].sequence = 0 + i := h.linked.sequence_eq hei
    have hnj : events[j].sequence = 0 + j := h.linked.sequence_eq hej
    omega

private theorem intact (h : Chained hashing organisationId store events) (collisionFree : Function.Injective hashing.sha256) :
    Intact hashing integral organisationId store events where
  documents := h.documents
  numbered i event he := by
    have hseq : event.sequence = 0 + i := h.linked.sequence_eq he
    omega
  first event he := h.linked.previous_eq he
  linked i event next he hn := h.previous_succ he hn
  head := h.head
  recorded := h.recorded
  indexed := h.indexed
  replayed event he arguments hsame := by
    rw [h.replay he, if_pos (AuditArguments.sameContent_iff.mp hsame)]
  refused event he arguments hother := by
    rw [h.replay he, if_neg (mt AuditArguments.sameContent_iff.mpr hother)]
  accepted hne := h.accepted hne
  altered i event he name document hhash hcontent := by
    refine h.altered collisionFree (List.mem_of_getElem? he) (List.mem_set ?_ _) hhash hcontent
    rw [h.documents, List.length_map]
    exact (List.getElem?_eq_some_iff.mp he).1
  dropped i hi := h.dropped hi
  reordered i j hi hj hne := h.reordered collisionFree hi hj hne

end Chained

/-- In every run of appends whose new events have clean arguments, the chain stays intact. -/
theorem audit_chain_intact {store : AuditStore} (collisionFree : Function.Injective hashing.sha256)
    (reachable : Reachable hashing integral organisationId AuditArguments.Clean store) :
    ∃ events, Intact hashing integral organisationId store events := by
  obtain ⟨events, h⟩ := reachable.chained
  exact ⟨events, h.intact collisionFree⟩

def failure (error : String) : AuditArguments where
  kind := "run.failed"
  actorId := "operator-1"
  resource := "runs/run-1"
  runId := none
  payload := [("error", .text error)]
  evidenceIds := []
  occurredAt := ⟨0, 0⟩
  region := "eu-west"

def failureIds : List Identifier :=
  [AuditEvent.sample.id, ⟨"audit-2", by decide⟩, ⟨"audit-3", by decide⟩]

def failureAppend (store : AuditStore) (id : Identifier) (error : String) : Except Error (AuditEvent × AuditStore) :=
  append Hashing.sample (fun _ => none) store AuditEvent.sample.organisationId id (failure error)

def failureStore (store : AuditStore) (id : Identifier) (error : String) : AuditStore :=
  match failureAppend store id error with
  | .ok (_, after) => after
  | .error _ => store

private theorem failure_appended {store : AuditStore} {id : Identifier} {error : String}
    (h : (failureAppend store id error).isOk = true) :
    ∃ event, failureAppend store id error = .ok (event, failureStore store id error) := by
  unfold failureStore
  cases happend : failureAppend store id error with
  | ok result => exact ⟨result.1, rfl⟩
  | error e =>
    rw [happend] at h
    cases h

def failedTwice : AuditStore := failureStore (failureStore .empty failureIds[0] "timeout") failureIds[1] "quota"

def failedThrice : AuditStore := failureStore failedTwice failureIds[2] "denied"

private theorem failure_clean {error : String} (h : strip error = error) : (failure error).Clean where
  kind := show strip "run.failed" = "run.failed" by decide +kernel
  actorId := show strip "operator-1" = "operator-1" by decide +kernel
  resource := show strip "runs/run-1" = "runs/run-1" by decide +kernel
  runId := rfl
  payload := by
    have hkey : strip "error" = "error" := by decide +kernel
    simp only [failure, List.map_cons, List.map_nil, AuditValue.stripped, h, hkey]
  evidenceIds := rfl
  occurredAt := rfl
  region := show strip "eu-west" = "eu-west" by decide +kernel

private theorem failed_reachable {store : AuditStore} {id : Identifier} {error : String}
    (h : Reachable Hashing.sample (fun _ => none) AuditEvent.sample.organisationId AuditArguments.Clean store)
    (hok : (failureAppend store id error).isOk = true) (hstrip : strip error = error) :
    Reachable Hashing.sample (fun _ => none) AuditEvent.sample.organisationId AuditArguments.Clean
      (failureStore store id error) := by
  obtain ⟨event, happend⟩ := failure_appended hok
  exact h.tail ⟨id, failure error, event, happend, fun _ => failure_clean hstrip⟩

/-- The chain is intact after three events, the second of which is appended twice. -/
theorem audit_chain_intact_replayed :
    (∃ event, failureAppend failedTwice failureIds[1] "quota" = .ok (event, failedTwice)) ∧
    ∃ events, events.map AuditEvent.id = failureIds ∧
      Intact Hashing.sample (fun _ => none) AuditEvent.sample.organisationId failedThrice events := by
  have hfirst := @failed_reachable .empty failureIds[0] "timeout" .refl (by decide +kernel) (by decide +kernel)
  have hsecond := @failed_reachable _ failureIds[1] "quota" hfirst (by decide +kernel) (by decide +kernel)
  have hreplayed : ∃ event, failureAppend failedTwice failureIds[1] "quota" = .ok (event, failedTwice) := by
    obtain ⟨event, happend⟩ := @failure_appended (failureStore .empty failureIds[0] "timeout") failureIds[1] "quota"
      (by decide +kernel)
    obtain ⟨events, h⟩ := hfirst.chained
    exact ⟨event, h.append_again (failure_clean (by decide +kernel)) (by decide +kernel) happend⟩
  have hagain : Reachable Hashing.sample (fun _ => none) AuditEvent.sample.organisationId AuditArguments.Clean
      failedTwice := by
    obtain ⟨event, happend⟩ := hreplayed
    exact hsecond.tail ⟨failureIds[1], _, event, happend, fun _ => failure_clean (by decide +kernel)⟩
  have hthird := @failed_reachable _ failureIds[2] "denied" hagain (by decide +kernel) (by decide +kernel)
  obtain ⟨events, hintact⟩ := audit_chain_intact Function.injective_id hthird
  refine ⟨hreplayed, events, ?_, hintact⟩
  have hids : failedThrice.events.map Prod.fst = failureIds := rfl
  rw [show failedThrice.events = _ from hintact.documents, List.map_map] at hids
  exact hids

/-- The coordinator rejects the chain of one event whose payload ends with a line break: its hash was computed before
the break was stripped. -/
theorem line_break_rejected : ¬ ∀ (hashing : Hashing) integral organisationId store, Function.Injective hashing.sha256 →
    Reachable hashing integral organisationId (fun _ => True) store → store.events ≠ [] →
    ∃ events, verifyAudit hashing store.events = .ok events := by
  intro hall
  obtain ⟨event, h⟩ := failure_appended (show (failureAppend .empty AuditEvent.sample.id "timeout\n").isOk = true by
    decide +kernel)
  obtain ⟨-, -, sequence, previous, hplace, hbuild, hstore⟩ := (append_ok h).resolve_left (by simp [AuditStore.empty])
  cases hplace
  have hevents : (failureStore .empty AuditEvent.sample.id "timeout\n").events = [(AuditEvent.sample.id, event.document)] := by
    rw [hstore]
    rfl
  obtain ⟨accepted, hok⟩ := hall Hashing.sample (fun _ => none) _ _ Function.injective_id
    (.single ⟨_, _, event, h, fun _ => trivial⟩) (by rw [hevents]; exact List.cons_ne_nil _ _)
  rw [hevents] at hok
  obtain ⟨-, hlinked, -⟩ := verifyAudit_ok.mp hok
  obtain ⟨other, ho, hother⟩ := accepted_mem hok List.mem_cons_self
  have hsum : other.eventHash = eventHash Hashing.sample (contentOf other) := hlinked.checked ho
  rw [(AuditEvent.build_ok.mp hother).eventHash] at hsum
  have hcontent := eventHash_injective Function.injective_id
    (hsum.symm.trans (AuditEvent.build_ok.mp hbuild).eventHash)
  rw [AuditEvent.build_document hbuild] at hother
  cases hother
  have hpayload := congrArg HashedContent.payload hcontent
  simp only [contentOf, (AuditEvent.build_ok.mp hbuild).payload] at hpayload
  exact absurd (congrArg AuditPayload.entries hpayload) (by decide)

end Uumi.Audit
