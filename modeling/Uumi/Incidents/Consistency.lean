import Uumi.Incidents.Requests
import Uumi.Storage.Inventory
import Uumi.Workflow.Reaping

/-! Incidents and their runs stay consistent, whatever is asked and in whatever order programs make their calls or
stop, and incidents only move forward. -/
namespace Uumi.Incidents
open Uumi.Contracts Uumi.Coordinator Uumi.Core Uumi.Foundations Uumi.Policy Uumi.State Uumi.Storage Uumi.Workflow
open Uumi.Foundations.Program

variable {hashing : Hashing} {s t u : Documents}

/-- How far an incident has come. -/
def phase : IncidentStatus → Nat
  | .new => 0
  | .correlating => 1
  | .action => 2
  | .rotating => 3
  | .contained => 4
  | .resolved | .dismissed => 5

/-- What may become of an incident: what it is about stays, it never goes back, and it keeps the run that it is
linked to. -/
structure Evolves (a b : Incident) : Prop where
  about : { b with
    status := a.status, candidates := a.candidates, credentialId := a.credentialId, runId := a.runId,
    dismissalReason := a.dismissalReason, updatedAt := a.updatedAt, revision := a.revision } = a
  revision : a.revision ≤ b.revision
  same : b.revision = a.revision → b = a
  forward : phase a.status ≤ phase b.status
  final : a.status = .resolved ∨ a.status = .dismissed → b = a
  linked : a.runId ≠ none → b.runId = a.runId ∧ b.credentialId = a.credentialId ∧ b.candidates = a.candidates

/-- An incident evolves into itself. -/
theorem Evolves.refl (a : Incident) : Evolves a a :=
  ⟨rfl, le_rfl, fun _ => rfl, le_rfl, fun _ => rfl, fun _ => ⟨rfl, rfl, rfl⟩⟩

/-- Evolution may go on. -/
theorem Evolves.trans {a b c : Incident} (h : Evolves a b) (k : Evolves b c) : Evolves a c where
  about := by
    rw [← h.about]
    exact congrArg (fun x : Incident => { x with
      status := a.status, candidates := a.candidates, credentialId := a.credentialId, runId := a.runId,
      dismissalReason := a.dismissalReason, updatedAt := a.updatedAt, revision := a.revision }) k.about
  revision := h.revision.trans k.revision
  same hr := by
    have hb : b.revision = a.revision := le_antisymm (hr ▸ k.revision) h.revision
    rw [k.same (hr.trans hb.symm), h.same hb]
  forward := h.forward.trans k.forward
  final hf := by
    obtain rfl := h.final hf
    exact k.final hf
  linked hl := by
    obtain ⟨hr, hc, hs⟩ := h.linked hl
    obtain ⟨kr, kc, ks⟩ := k.linked (hr ▸ hl)
    exact ⟨kr.trans hr, kc.trans hc, ks.trans hs⟩

/-- Nothing is lost from one state to a later one. -/
structure Extends (s t : Documents) : Prop where
  incidents : ∀ key a, s.incidents.incidents key = some a → ∃ b, t.incidents.incidents key = some b ∧ Evolves a b
  ingestions : ∀ key record, s.incidents.ingestions key = some record → t.incidents.ingestions key = some record
  runs : ∀ key run, s.runs.runs key = some run →
    ∃ run', t.runs.runs key = some run' ∧ ∀ command, Matches run command → Matches run' command

/-- No documents need be added. -/
theorem Extends.refl (s : Documents) : Extends s s :=
  ⟨fun _ a h => ⟨a, h, .refl a⟩, fun _ _ h => h, fun _ run h => ⟨run, h, fun _ hm => hm⟩⟩

/-- Documents may grow again. -/
theorem Extends.trans (h : Extends s t) (k : Extends t u) : Extends s u where
  incidents key a ha := by
    obtain ⟨b, hb, hab⟩ := h.incidents key a ha
    obtain ⟨c, hc, hbc⟩ := k.incidents key b hb
    exact ⟨c, hc, hab.trans hbc⟩
  ingestions key record hr := k.ingestions key record (h.ingestions key record hr)
  runs key run hr := by
    obtain ⟨run', hr', hm⟩ := h.runs key run hr
    obtain ⟨run'', hr'', hm'⟩ := k.runs key run' hr'
    exact ⟨run'', hr'', fun command hc => hm' command (hm command hc)⟩

/-- Where the record of an incident's event is kept. -/
def segmentOf (hashing : Hashing) (incident : Incident) : Digest :=
  hashing.sha256 (incident.source.value ++ "\x00" ++ incident.sourceEventId.value ++ "\x00" ++ incident.kind.value)

/-- A stored incident: the record of its event names it, its credential is the only candidate that is verified, and
it has a run exactly from the start of its rotation on, a run of its credential that was started on its event. -/
structure Sound (hashing : Hashing) (s : Documents) (organisationId : Identifier) (incidentId : String)
    (incident : Incident) : Prop where
  placed : incident.organisationId = organisationId ∧ incident.id.text = incidentId
  recorded : ∃ record, s.incidents.ingestions (organisationId, segmentOf hashing incident) = some record ∧
    record.lookup "incident_id" = some (.text incidentId)
  chosen : verified incident.candidates = incident.credentialId.toList
  unknown : incident.status = .new ∨ incident.status = .correlating → incident.credentialId = none
  known : incident.status = .action → incident.credentialId ≠ none
  rotating : incident.runId ≠ none ↔ incident.status ∈ [.rotating, .contained, .resolved]
  dismissed : incident.dismissalReason ≠ none ↔ incident.status = .dismissed
  run : ∀ runId, incident.runId = some runId →
    ∃ run, s.runs.runs (organisationId, runId) = some run ∧ StartedFor incident run.credentialId run.trigger

structure Consistent (hashing : Hashing) (s : Documents) : Prop where
  placed : Placed s.runs
  sourced : Sourced hashing s.runs
  sound : ∀ organisationId incidentId incident, s.incidents.incidents (organisationId, incidentId) = some incident →
    Sound hashing s organisationId incidentId incident

/-- A run keeps its credential and its trigger. -/
theorem Extends.run (h : Extends s t) {key : Identifier × Identifier} {run : RotationRun}
    (found : s.runs.runs key = some run) :
    ∃ run', t.runs.runs key = some run' ∧ run'.credentialId = run.credentialId ∧ run'.trigger = run.trigger := by
  obtain ⟨run', found', still⟩ := h.runs key run found
  have asked := still {
    id := run.id
    organisationId := run.organisationId
    credentialId := run.credentialId
    controlVersion := run.controlVersion
    trigger := run.trigger } ⟨rfl, rfl, rfl, rfl, by simp⟩
  exact ⟨run', found', asked.credentialId, asked.trigger⟩

variable {organisationId : Identifier} {incidentId : String} {incident : Incident}

/-- An incident that stays as it is stays sound. -/
theorem Sound.extend (h : Sound hashing s organisationId incidentId incident) (later : Extends s t) :
    Sound hashing t organisationId incidentId incident :=
  { h with
    recorded := by
      obtain ⟨record, found, names⟩ := h.recorded
      exact ⟨record, later.ingestions _ _ found, names⟩
    run := fun runId hr => by
      obtain ⟨run, found, started⟩ := h.run runId hr
      obtain ⟨run', found', hc, ht⟩ := later.run found
      exact ⟨run', found', by rwa [hc, ht]⟩ }

/-- The validator strips the reason of a dismissal and keeps the other fields. -/
theorem modelValidate_ok {document : Incident} (h : document.modelValidate = .ok incident) :
    incident = { document with dismissalReason := document.dismissalReason.map strip } := by
  simp only [Incident.modelValidate, unit_bind_ok, pure_ok] at h
  exact h.2.2.2.symm

/-- What is read of a sound incident is sound. -/
theorem Sound.read {document : Incident} (h : Sound hashing s organisationId incidentId document)
    (valid : document.modelValidate = .ok incident) : Sound hashing s organisationId incidentId incident := by
  obtain rfl := modelValidate_ok valid
  exact { h with
    dismissed := by simpa using h.dismissed
    run := fun runId hr => by
      obtain ⟨run, found, started⟩ := h.run runId hr
      exact ⟨run, found, { started with }⟩ }

private theorem onIncidents_ok {α : Type} {result : Except Error (α × IncidentStore)} {a : α}
    (h : onIncidents s result = .ok (a, t)) :
    ∃ store, result = .ok (a, store) ∧ t = { s with incidents := store } := by
  cases result with
  | error e => cases h
  | ok done =>
    cases h
    exact ⟨done.2, rfl, rfl⟩

private theorem onRuns_ok {α : Type} {result : Except Error (α × Store)} {a : α} (h : onRuns s result = .ok (a, t)) :
    ∃ store, result = .ok (a, store) ∧ t = { s with runs := store } := by
  cases result with
  | error e => cases h
  | ok done =>
    cases h
    exact ⟨done.2, rfl, rfl⟩

/-- A call of the run repository, or new control versions, extend the documents. -/
theorem passes_extend (h : Passes hashing s t) (hc : Consistent hashing s) : Consistent hashing t ∧ Extends s t := by
  have later : Extends s t := by
    cases h with
    | call h =>
      exact ⟨fun _ a ha => ⟨a, ha, .refl a⟩, fun _ _ hr => hr, fun _ _ found => perform_matching h found⟩
    | controls => exact ⟨fun _ a ha => ⟨a, ha, .refl a⟩, fun _ _ hr => hr, fun _ run found => ⟨run, found, fun _ hm => hm⟩⟩
  refine ⟨?_, later⟩
  cases h with
  | call h =>
    exact ⟨perform_placed hc.placed h, perform_sourced hc.sourced h,
      fun o i incident found => (hc.sound o i incident found).extend later⟩
  | controls =>
    exact ⟨⟨hc.placed.run, hc.placed.step, hc.placed.owner⟩, hc.sourced,
      fun o i incident found => (hc.sound o i incident found).extend later⟩

/-- What other programs do in between. -/
theorem others_extend (h : Relation.ReflTransGen (Passes hashing) s t) (hc : Consistent hashing s) :
    Consistent hashing t ∧ Extends s t := by
  induction h with
  | refl => exact ⟨hc, .refl s⟩
  | tail _ step ih =>
    obtain ⟨hb, later⟩ := ih
    obtain ⟨hd, further⟩ := passes_extend step hb
    exact ⟨hd, later.trans further⟩

private theorem write_consistent (hc : Consistent hashing s) {ingestions : Collection (Identifier × Digest) Record}
    {changed : Incident}
    (ht : t = { s with incidents := ⟨ingestions, s.incidents.incidents.set (organisationId, incidentId) changed⟩ })
    (kept : ∀ key record, s.incidents.ingestions key = some record → ingestions key = some record)
    (evolves : ∀ a, s.incidents.incidents (organisationId, incidentId) = some a → Evolves a changed)
    (sound : Extends s t → Sound hashing t organisationId incidentId changed) :
    Consistent hashing t ∧ Extends s t := by
  have later : Extends s t := by
    subst ht
    refine ⟨fun key a ha => ?_, kept, fun _ run found => ⟨run, found, fun _ hm => hm⟩⟩
    by_cases hk : key = (organisationId, incidentId)
    · subst hk
      exact ⟨changed, Collection.set_same .., evolves a ha⟩
    · exact ⟨a, (Collection.set_of_ne hk).trans ha, .refl a⟩
  refine ⟨⟨?_, ?_, fun o i incident found => ?_⟩, later⟩
  · subst ht
    exact hc.placed
  · subst ht
    exact hc.sourced
  · have found' := found
    rw [ht, Collection.set_eq_some] at found'
    rcases found' with ⟨hk, rfl⟩ | ⟨_, old⟩
    · cases hk
      exact sound later
    · exact (hc.sound o i incident old).extend later

def Fact.Holds (s : Documents) : Fact → Prop
  | .read organisationId incident => ∃ document, s.incidents.incidents (organisationId, incident.id.text) = some document ∧
    incident.revision ≤ document.revision ∧
    (document.revision = incident.revision → document.modelValidate = .ok incident)
  | .created command run =>
    ∃ run', s.runs.runs (command.organisationId, run.id) = some run' ∧ Matches run' command

/-- A fact stays so while documents grow. -/
theorem Fact.Holds.extend {fact : Fact} (h : fact.Holds s) (later : Extends s t) : fact.Holds t := by
  cases fact with
  | read organisationId incident =>
    obtain ⟨a, ha, hle, heq⟩ := h
    obtain ⟨b, hb, evolves⟩ := later.incidents _ a ha
    refine ⟨b, hb, hle.trans evolves.revision, fun hr => ?_⟩
    have hsame : a.revision = incident.revision := le_antisymm (hr ▸ evolves.revision) hle
    rw [evolves.same (hr.trans hsame.symm)]
    exact heq hsame
  | created command run =>
    obtain ⟨run', found, asked⟩ := h
    obtain ⟨run'', found', still⟩ := later.runs _ run' found
    exact ⟨run'', found', still command asked⟩

private theorem read_holds (hc : Consistent hashing s) {document : Incident}
    (found : s.incidents.incidents (organisationId, incidentId) = some document)
    (valid : document.modelValidate = .ok incident) :
    (Fact.read organisationId incident).Holds s ∧ incident.id.text = incidentId := by
  have sound := (hc.sound _ _ _ found).read valid
  refine ⟨⟨document, ?_, ?_, fun _ => valid⟩, sound.placed.2⟩
  · rw [sound.placed.2]
    exact found
  · rw [modelValidate_ok valid]

section
variable {known : Set Fact} {document next : Incident} {revision : Nat}

private theorem open_unlinked (h : Sound hashing s organisationId incidentId incident)
    (status : incident.status ∈ [.new, .correlating, .action]) : incident.runId = none := by
  by_contra hn
  have := h.rotating.mp hn
  cases hs : incident.status <;> simp_all

private theorem open_undismissed (h : Sound hashing s organisationId incidentId incident)
    (status : incident.status ≠ .dismissed) : incident.dismissalReason = none := by
  by_contra hn
  exact status (h.dismissed.mp hn)

private theorem open_unfinished {status : IncidentStatus} (h : status ∈ [.new, .correlating, .action]) :
    ¬ (status = .resolved ∨ status = .dismissed) := by
  cases status <;> simp at h ⊢

private theorem moves_evolves (sound : Sound hashing s organisationId incidentId document)
    (valid : document.modelValidate = .ok incident) (h : Moves known organisationId incident next) :
    Evolves document { next with revision := incident.revision + 1 } := by
  have unlinked := fun hs => open_unlinked (sound.read valid) hs
  obtain rfl := modelValidate_ok valid
  cases h with
  | correlates candidates credentialId now status chosen confirmed =>
    replace status : document.status ∈ [.new, .correlating, .action] := status
    refine ⟨rfl, Nat.le_succ _, fun hr => absurd hr (Nat.succ_ne_self _), ?_,
      fun hf => absurd hf (open_unfinished status), fun hl => absurd (unlinked status) hl⟩
    replace confirmed : document.status ≠ .new → credentialId ≠ none := confirmed
    change phase document.status ≤ phase (if credentialId.isSome then .action else .correlating)
    cases credentialId <;> cases hs : document.status <;> simp_all [phase]
  | links command run now created organisation status started =>
    replace status : document.status = .action := status
    refine ⟨rfl, Nat.le_succ _, fun hr => absurd hr (Nat.succ_ne_self _), ?_, fun hf => ?_,
      fun hl => absurd (unlinked (by simp [status])) hl⟩
    · rw [status]
      exact Nat.le_succ 2
    · simp [status] at hf
  | advances status now ahead =>
    replace ahead : document.status = .rotating ∧ status ∈ [.contained, .resolved] ∨
      document.status = .contained ∧ status = .resolved := ahead
    refine ⟨rfl, Nat.le_succ _, fun hr => absurd hr (Nat.succ_ne_self _), ?_, fun hf => ?_, fun _ => ⟨rfl, rfl, rfl⟩⟩
    · change phase document.status ≤ phase status
      rcases ahead with ⟨hs, ht⟩ | ⟨hs, rfl⟩
      · cases status <;> simp [hs, phase] at ht ⊢
      · simp [hs, phase]
    · rcases ahead with ⟨hs, -⟩ | ⟨hs, -⟩ <;> simp [hs] at hf
  | dismisses reason now status =>
    replace status : document.status ∈ [.new, .correlating, .action] := status
    refine ⟨rfl, Nat.le_succ _, fun hr => absurd hr (Nat.succ_ne_self _), ?_,
      fun hf => absurd hf (open_unfinished status), fun hl => absurd (unlinked status) hl⟩
    change phase document.status ≤ 5
    cases document.status <;> simp [phase]

private theorem moves_sound (sound : Sound hashing s organisationId incidentId incident)
    (facts : ∀ fact ∈ known, fact.Holds s) (h : Moves known organisationId incident next) :
    Sound hashing s organisationId incidentId { next with revision } := by
  cases h with
  | correlates candidates credentialId now status chosen confirmed =>
    have unlinked := open_unlinked sound status
    have undismissed := open_undismissed sound fun hd => open_unfinished status (.inr hd)
    refine ⟨sound.placed, sound.recorded, chosen, ?_, ?_, ?_, ?_, fun runId hr => ?_⟩
    · cases credentialId <;> simp [correlated]
    · cases credentialId <;> simp [correlated]
    · cases credentialId <;> simp [correlated, unlinked]
    · cases credentialId <;> simp [correlated, undismissed]
    · cases unlinked.symm.trans hr
  | links command run now created organisation status started =>
    obtain ⟨run', found, asked⟩ := facts _ created
    subst organisation
    have undismissed := open_undismissed sound (by simp [status])
    refine ⟨sound.placed, sound.recorded, ?_, ?_, ?_, ?_, ?_, fun runId hr => ?_⟩
    · exact sound.chosen.trans (congrArg Option.toList started.credentialId)
    · simp [linked]
    · simp [linked]
    · simp [linked]
    · simp [linked, undismissed]
    · cases hr
      refine ⟨run', found, ?_⟩
      rw [asked.credentialId, asked.trigger]
      exact ⟨rfl, started.source, started.kind, started.eventId⟩
  | advances status now ahead =>
    have running : incident.status ∈ [.rotating, .contained, .resolved] := by
      rcases ahead with ⟨hs, -⟩ | ⟨hs, -⟩ <;> simp [hs]
    have undismissed := open_undismissed sound (by rcases ahead with ⟨hs, -⟩ | ⟨hs, -⟩ <;> simp [hs])
    have target : status = .contained ∨ status = .resolved := by
      rcases ahead with ⟨-, ht⟩ | ⟨-, rfl⟩
      · simpa using ht
      · exact .inr rfl
    refine ⟨sound.placed, sound.recorded, sound.chosen, ?_, ?_, ?_, ?_, fun runId hr => ?_⟩
    · rcases target with rfl | rfl <;> simp [advanced]
    · rcases target with rfl | rfl <;> simp [advanced]
    · have linked := sound.rotating.mpr running
      rcases target with rfl | rfl <;> simpa [advanced] using linked
    · rcases target with rfl | rfl <;> simp [advanced, undismissed]
    · obtain ⟨run, found, started⟩ := sound.run runId hr
      exact ⟨run, found, { started with }⟩
  | dismisses reason now status =>
    have unlinked := open_unlinked sound status
    refine ⟨sound.placed, sound.recorded, sound.chosen, ?_, ?_, ?_, ?_, fun runId hr => ?_⟩
    · simp [dismissed]
    · simp [dismissed]
    · simp [dismissed, unlinked]
    · simp [dismissed]
    · cases unlinked.symm.trans hr

private theorem update_ok {store store' : IncidentStore} {answer : Incident} {values : Incident → Incident}
    (h : store.update organisationId incidentId revision values = .ok (answer, store')) :
    ∃ document current, store.incidents (organisationId, incidentId) = some document ∧
      document.modelValidate = .ok current ∧ current.revision = revision ∧
      store' = ⟨store.ingestions, store.incidents.set (organisationId, incidentId)
        { values current with revision := current.revision + 1 }⟩ := by
  simp only [IncidentStore.update, bind_ok, IncidentStore.get, raiseIf_ok, not_not, pure_ok, required_ok] at h
  obtain ⟨current, ⟨document, found, valid⟩, -, hr, he⟩ := h
  cases he
  exact ⟨document, current, found, valid, hr, rfl⟩

private theorem update_extend (hc : Consistent hashing s) (facts : ∀ fact ∈ known, fact.Holds s)
    {values : Incident → Incident} {answer : Except Error Incident}
    (justified : Justified known (.update organisationId incidentId revision values))
    (h : answers hashing s (.update organisationId incidentId revision values) answer t) :
    Consistent hashing t ∧ Extends s t := by
  rcases commits_cases h with ⟨rfl, -⟩ | ⟨a, committed, -⟩
  · exact ⟨hc, .refl _⟩
  obtain ⟨store, hu, rfl⟩ := onIncidents_ok committed
  obtain ⟨document, current, found, valid, hr, rfl⟩ := update_ok hu
  obtain ⟨incident, read, rfl, hrev, moves⟩ := justified
  -- under the revision that it read, the program finds what it read
  obtain ⟨document', found', -, unchanged⟩ := facts _ read
  obtain rfl : document = document' := Option.some.inj (found.symm.trans found')
  have same : document.revision = incident.revision := by
    rw [hrev, ← hr, modelValidate_ok valid]
  obtain rfl : current = incident := Except.ok.inj (valid.symm.trans (unchanged same))
  have sound := hc.sound _ _ _ found
  refine write_consistent hc rfl (fun _ _ hk => hk) (fun a ha => ?_) fun later => ?_
  · obtain rfl : document = a := Option.some.inj (found.symm.trans ha)
    exact moves_evolves sound valid moves
  · exact (moves_sound (sound.read valid) facts moves).extend later

end

private theorem ingest_ok {store store' : IncidentStore} {incident answer : Incident} {event : IngestionEvent}
    {applied : Bool} (h : store.ingest hashing incident event = .ok ((answer, applied), store')) :
    (store' = store ∧ applied = false ∧ ∃ id document, store.incidents (event.organisationId, id) = some document ∧
        document.modelValidate = .ok answer) ∨
      (store.ingestions (event.organisationId, IncidentStore.ingestionSegment hashing event) = none ∧
        store.incidents (incident.organisationId, incident.id.text) = none ∧ answer = incident ∧
        store' = ⟨store.ingestions.set (event.organisationId, IncidentStore.ingestionSegment hashing event)
            (IncidentStore.ingestionRecord event incident),
          store.incidents.set (incident.organisationId, incident.id.text) incident⟩) := by
  unfold IncidentStore.ingest at h
  split at h
  · split at h
    · rename_i id _
      simp only [pure_bind, bind_ok, required_ok, pure_ok, Prod.mk.injEq] at h
      obtain ⟨event', -, -, -, document, hd, a, valid, ⟨rfl, rfl⟩, rfl⟩ := h
      exact .inl ⟨rfl, rfl, id, document, hd, valid⟩
    · cases h
  · rename_i free
    simp only [unit_bind_ok, absent_ok, pure_ok, Prod.mk.injEq] at h
    obtain ⟨hnew, ⟨rfl, rfl⟩, rfl⟩ := h
    exact .inr ⟨free, hnew, rfl, rfl⟩

private theorem ingestionRecord_names (event : IngestionEvent) (incident : Incident) :
    (IncidentStore.ingestionRecord event incident).lookup "incident_id" = some (.text incident.id.text) := by
  simp [IncidentStore.ingestionRecord, IngestionEvent.encode, List.lookup]

private theorem arises_sound {event : IngestionEvent} (arises : Arises incident event)
    (recorded : s.incidents.ingestions (event.organisationId, IncidentStore.ingestionSegment hashing event) =
      some (IncidentStore.ingestionRecord event incident)) :
    Sound hashing s incident.organisationId incident.id.text incident := by
  have segment : segmentOf hashing incident = IncidentStore.ingestionSegment hashing event := by
    rw [segmentOf, arises.source, arises.sourceEventId, arises.kind, IncidentStore.ingestionSegment]
  refine ⟨⟨rfl, rfl⟩, ⟨_, ?_, ingestionRecord_names event incident⟩, ?_, ?_, ?_, ?_, ?_, fun runId hr => ?_⟩
  · rw [segment, arises.organisationId]
    exact recorded
  · rw [arises.candidates, arises.credentialId]
    rfl
  · exact fun _ => arises.credentialId
  · simp [arises.status]
  · simp [arises.status, arises.runId]
  · simp [arises.status, arises.dismissalReason]
  · cases arises.runId.symm.trans hr

private theorem arises_valid {event : IngestionEvent} (arises : Arises incident event) :
    incident.modelValidate = .ok incident := by
  obtain ⟨-, -, -, -, status, candidates, -, -, reason⟩ := arises
  cases incident
  subst status candidates reason
  rfl

private theorem ingest_extend (hc : Consistent hashing s) {event : IngestionEvent} (arises : Arises incident event)
    {answer : Except Error (Incident × Bool)} (h : answers hashing s (.ingest incident event) answer t) :
    Consistent hashing t ∧ Extends s t := by
  rcases commits_cases h with ⟨rfl, -⟩ | ⟨a, committed, -⟩
  · exact ⟨hc, .refl _⟩
  obtain ⟨store, hi, rfl⟩ := onIncidents_ok committed
  rcases ingest_ok hi with ⟨rfl, -⟩ | ⟨free, hnew, -, rfl⟩
  · exact ⟨hc, .refl _⟩
  refine write_consistent hc rfl (fun key record hk => ?_) (fun a ha => ?_) fun _ => arises_sound arises (Collection.set_same ..)
  · rw [Collection.set_of_ne, hk]
    rintro rfl
    cases free.symm.trans hk
  · cases hnew.symm.trans ha

/-- A justified call keeps everything consistent, and what the program learns from its answer is true. -/
theorem answers_extend (injective : Function.Injective hashing.sha256) {known : Set Fact} (hc : Consistent hashing s)
    (facts : ∀ fact ∈ known, fact.Holds s) {op : IncidentCall} {answer : Except Error op.Answer}
    (justified : Justified known op) (h : answers hashing s op answer t) :
    (Consistent hashing t ∧ Extends s t) ∧ ∃ after, learning known op answer after ∧ ∀ fact ∈ after, fact.Holds t := by
  have kept (later : Extends s t) : ∀ fact ∈ known, fact.Holds t := fun fact hf => (facts fact hf).extend later
  have learns {fact : Fact} (later : Extends s t) (hf : fact.Holds t) : ∀ other ∈ insert fact known, other.Holds t := by
    intro other ho
    rcases ho with rfl | ho
    · exact hf
    · exact kept later other ho
  cases op with
  | ingest incident event =>
    have extended := ingest_extend hc justified h
    refine ⟨extended, ?_⟩
    cases answer with
    | error e => exact ⟨known, rfl, kept extended.2⟩
    | ok answer =>
      obtain ⟨store, hi, rfl⟩ := onIncidents_ok h
      obtain ⟨stored, applied⟩ := answer
      rcases ingest_ok hi with ⟨rfl, rfl, id, document, found, valid⟩ | ⟨-, -, rfl, rfl⟩
      · exact ⟨_, ⟨rfl, nofun⟩, learns extended.2 (read_holds hc found valid).1⟩
      · refine ⟨_, ⟨rfl, fun _ => rfl⟩, learns extended.2 ⟨stored, ?_, le_rfl, fun _ => arises_valid justified⟩⟩
        rw [← Arises.organisationId justified]
        exact Collection.set_same ..
  | incident organisationId incidentId =>
    obtain ⟨rfl, found⟩ := h
    refine ⟨⟨hc, .refl _⟩, ?_⟩
    cases answer with
    | error e => exact ⟨known, rfl, facts⟩
    | ok incident =>
      have valid := found incident rfl
      simp only [IncidentStore.get, bind_ok, required_ok] at valid
      obtain ⟨document, found, valid⟩ := valid
      obtain ⟨holds, hid⟩ := read_holds hc found valid
      exact ⟨_, ⟨rfl, hid⟩, learns (.refl _) holds⟩
  | update organisationId incidentId revision values =>
    have extended := update_extend hc facts justified h
    refine ⟨extended, known, ?_, kept extended.2⟩
    cases answer <;> rfl
  | incidentsOf organisationId runId =>
    obtain ⟨rfl, found⟩ := h
    refine ⟨⟨hc, .refl _⟩, ?_⟩
    cases answer with
    | error e => exact ⟨known, rfl, facts⟩
    | ok documents =>
      refine ⟨_, rfl, fun fact hf => ?_⟩
      rcases hf with hf | ⟨document, hd, incident, valid, rfl⟩
      · exact facts fact hf
      · obtain ⟨-, id, hid⟩ := (found documents rfl document).mp hd
        exact (read_holds hc hid valid).1
  | createRun command =>
    obtain ⟨newId, now, committed⟩ := h
    have extended : Consistent hashing t ∧ Extends s t := by
      rcases commits_cases committed with ⟨rfl, -⟩ | ⟨a, done, -⟩
      · exact ⟨hc, .refl _⟩
      · obtain ⟨runs, hp, rfl⟩ := onRuns_ok done
        exact passes_extend (Passes.call (show (repository hashing).perform s.runs (.create command newId now) = _ from hp)) hc
    refine ⟨extended, ?_⟩
    cases answer with
    | error e => exact ⟨known, rfl, kept extended.2⟩
    | ok result =>
      obtain ⟨runs, hp, rfl⟩ := onRuns_ok committed
      exact ⟨_, rfl, learns extended.2 ⟨result.run, create_matching injective hc.placed hc.sourced hp⟩⟩
  | _ =>
    subst h
    refine ⟨⟨hc, .refl _⟩, known, ?_, facts⟩
    cases answer <;> rfl

/-- Nothing has been ingested yet, and the runs are those of some calls. -/
structure Start (hashing : Hashing) (s : Documents) : Prop where
  incidents : ∀ key, s.incidents.incidents key = none
  ingestions : ∀ key, s.incidents.ingestions key = none
  runs : (repository hashing).Reachable Initial s.runs

private theorem reachable_sourced {s : Store} (h : (repository hashing).Reachable Initial s) : Sourced hashing s :=
  h.invariant (fun _ => initial_sourced) fun _ _ _ _ hs hp => perform_sourced hs hp

/-- What the programs start from is consistent. -/
theorem start_consistent (h : Start hashing s) : Consistent hashing s where
  placed := reachable_placed h.runs
  sourced := reachable_sourced h.runs
  sound o i incident found := by cases (h.incidents (o, i)).symm.trans found

section
variable {ι : Type} [DecidableEq ι]

abbrev IncidentPool (ι : Type) := Pool ι IncidentCall IncidentCall.Answer Error Unit Documents

abbrev IncidentEvents (ι : Type) := List (Pool.Event ι IncidentCall IncidentCall.Answer Error)

/-- Any of the programs makes its next call, at any time. -/
abbrev Runs (hashing : Hashing) (before : IncidentEvents ι) (start : IncidentPool ι) (events : IncidentEvents ι)
    (pool : IncidentPool ι) : Prop :=
  Pool.Run (world hashing) (fun _ _ _ => True) before start events pool

/-- The programs follow what they have learnt, which is true. -/
structure Informed (hashing : Hashing) (pool : IncidentPool ι) (known : ι → Set Fact) : Prop where
  consistent : Consistent hashing pool.state
  facts : ∀ i, ∀ fact ∈ known i, fact.Holds pool.state
  follows : ∀ i, Follows (pool.programs i) (known i)

variable {before events later : IncidentEvents ι} {start pool last : IncidentPool ι}

/-- Programs stay informed, and what is stored only grows. -/
theorem runs_informed (injective : Function.Injective hashing.sha256) {known : ι → Set Fact}
    (informed : Informed hashing start known) (run : Runs hashing before start events pool) :
    ∃ known', Informed hashing pool known' ∧ Extends start.state pool.state := by
  have specs (i : ι) : (start.programs i).Spec learning Justified (known i) fun _ _ => True := informed.follows i
  obtain ⟨known', ⟨consistent, extended, facts⟩, follows⟩ := run.invariant
    (fun _ s known => Consistent hashing s ∧ Extends start.state s ∧ ∀ i, ∀ fact ∈ known i, fact.Holds s)
    known ⟨informed.consistent, .refl _, informed.facts⟩ specs (by
      rintro events s known who op answer t ⟨consistent, extended, facts⟩ justified - ⟨m, others, answered⟩
      obtain ⟨hm, passed⟩ := others_extend others consistent
      have facts' (i : ι) : ∀ fact ∈ known i, fact.Holds m := fun fact hf => (facts i fact hf).extend passed
      obtain ⟨⟨ht, later⟩, after, learnt, holds⟩ := answers_extend injective hm (facts' who) justified answered
      refine ⟨after, learnt, ht, (extended.trans passed).trans later, fun i fact hf => ?_⟩
      by_cases hi : i = who
      · subst hi
        rw [Function.update_self] at hf
        exact holds fact hf
      · rw [Function.update_of_ne hi] at hf
        exact (facts' i fact hf).extend later)
  exact ⟨known', ⟨consistent, facts, follows⟩, extended⟩

omit [DecidableEq ι] in
/-- Before the first call. -/
theorem start_informed {s : Documents} (begun : Start hashing s) (services : ι → IncidentService)
    (requests : ι → Request) :
    Informed hashing ⟨s, fun i => (services i).serve (requests i)⟩ fun _ => ∅ where
  consistent := start_consistent begun
  facts _ _ hf := hf.elim
  follows i := serve_follows (services i) (requests i)

/-- Two sound incidents of one source event are one. -/
theorem Sound.unique {organisationId : Identifier} {i j : String} {a b : Incident}
    (ha : Sound hashing s organisationId i a) (hb : Sound hashing s organisationId j b) (source : a.source = b.source)
    (sourceEventId : a.sourceEventId = b.sourceEventId) (kind : a.kind = b.kind) : i = j := by
  obtain ⟨record, found, names⟩ := ha.recorded
  obtain ⟨record', found', names'⟩ := hb.recorded
  rw [segmentOf, source, sourceEventId, kind] at found
  obtain rfl : record = record' := Option.some.inj (found.symm.trans found')
  rw [names, Option.some.injEq, Value.text.injEq] at names'
  exact names'

variable {s : Documents} {services : ι → IncidentService} {requests : ι → Request}

/-- Whatever is asked of however many programs, and wherever they stop, every incident is sound, and a source event
leads to one incident at most. -/
theorem incidents_sound (injective : Function.Injective hashing.sha256) (begun : Start hashing s)
    (run : Runs hashing [] ⟨s, fun i => (services i).serve (requests i)⟩ events pool) :
    (∀ organisationId incidentId incident, pool.state.incidents.incidents (organisationId, incidentId) = some incident →
      Sound hashing pool.state organisationId incidentId incident) ∧
    ∀ organisationId i j a b, pool.state.incidents.incidents (organisationId, i) = some a →
      pool.state.incidents.incidents (organisationId, j) = some b → a.source = b.source →
      a.sourceEventId = b.sourceEventId → a.kind = b.kind → i = j := by
  obtain ⟨known, informed, -⟩ := runs_informed injective (start_informed begun services requests) run
  have sound := informed.consistent.sound
  exact ⟨sound, fun o i j a b ha hb => (sound o i a ha).unique (sound o j b hb)⟩

/-- From any moment of a run on, incidents only evolve, and no incident is lost. -/
theorem incidents_evolve (injective : Function.Injective hashing.sha256) (begun : Start hashing s)
    (run : Runs hashing [] ⟨s, fun i => (services i).serve (requests i)⟩ events pool)
    (rest : Runs hashing events pool later last) (organisationId : Identifier) (incidentId : String) (a : Incident)
    (found : pool.state.incidents.incidents (organisationId, incidentId) = some a) :
    ∃ b, last.state.incidents.incidents (organisationId, incidentId) = some b ∧ Evolves a b := by
  obtain ⟨known, informed, -⟩ := runs_informed injective (start_informed begun services requests) run
  obtain ⟨-, -, extended⟩ := runs_informed injective informed rest
  exact extended.incidents _ a found

end

def sampleService : IncidentService where
  hashes := { Hashing.sample with
    checksum := fun _ => sampleChecksum
    lower := id
    isalnum := fun _ => true }
  notifier := false
  audit := false

def sampleEvent : IngestionEvent where
  id := ⟨"event-1", by decide⟩
  organisationId := organisationOne
  source := ⟨"scanner", by decide⟩
  sourceEventId := ⟨"finding-1", by decide⟩
  kind := ⟨"credential-exposure-detected", by decide⟩
  observedAt := ⟨0, 0⟩
  severity := .high
  confidence := .high
  resource := { credentialId := some credentialOne }
  sourceReference := ⟨"scanner/finding-1", by decide⟩
  receivedAt := ⟨0, 0⟩

def incidentOne : Identifier := ⟨"incident-1", by decide⟩

def sampleReported : Incident where
  id := incidentOne
  organisationId := organisationOne
  eventId := sampleEvent.id
  source := sampleEvent.source
  kind := sampleEvent.kind
  sourceEventId := sampleEvent.sourceEventId
  severity := .high
  confidence := .high
  status := .new
  resource := sampleEvent.resource
  createdAt := ⟨0, 0⟩
  updatedAt := ⟨0, 0⟩

def sampleCandidate : CorrelationCandidate where
  credentialId := credentialOne
  confidence := .verified
  reasons := ["managed credential identifier matches exactly"]
  consumerIds := sampleCredential.consumerIds

def sampleConfirmed : Incident :=
  { correlated [sampleCandidate] (some credentialOne) ⟨1, 0⟩ sampleReported with revision := 1 }

def sampleEmpty : Documents := ⟨⟨Collection.empty, Collection.empty⟩, Uumi.Workflow.sampleStore⟩

def sampleIngested : Documents :=
  { sampleEmpty with incidents := ⟨
    Collection.empty.set (organisationOne, IncidentStore.ingestionSegment Hashing.sample sampleEvent)
      (IncidentStore.ingestionRecord sampleEvent sampleReported),
    Collection.empty.set (organisationOne, incidentOne.text) sampleReported⟩ }

def sampleCorrelated : Documents :=
  { sampleIngested with incidents := { sampleIngested.incidents with
    incidents := sampleIngested.incidents.incidents.set (organisationOne, incidentOne.text) sampleConfirmed } }

private theorem sample_candidates : Steps (world Hashing.sample) sampleIngested (candidates sampleEvent) sampleIngested
    (.finish (.ok [sampleCandidate])) := by
  refine .callThen [sampleCredential] sampleIngested ⟨_, .refl, rfl⟩ ?_
  refine .callThen [] sampleIngested ⟨_, .refl, rfl⟩ ?_
  refine .callThen [] sampleIngested ⟨_, .refl, rfl⟩ ?_
  have found : scored sampleEvent [] [] [sampleCredential] = .finish (.ok [(sampleCredential,
      { score := 200, exact := true, reasons := ["managed credential identifier matches exactly"] })]) := rfl
  rw [found]
  simp only [ok_then, List.mergeSort_singleton]
  exact .refl ..

private theorem sample_ingests : Steps (world Hashing.sample) sampleEmpty
    (sampleService.ingest operatorOne incidentOne sampleEvent) sampleCorrelated (.finish (.ok (sampleConfirmed, true))) := by
  have ingested : world Hashing.sample sampleEmpty (.ingest sampleReported sampleEvent) (.ok (sampleReported, true))
      sampleIngested := ⟨sampleEmpty, .refl, rfl⟩
  have correlated : world Hashing.sample sampleIngested (.update organisationOne incidentOne.text 0
      (correlated [sampleCandidate] (some credentialOne) ⟨1, 0⟩)) (.ok sampleConfirmed) sampleCorrelated :=
    ⟨sampleIngested, .refl, rfl⟩
  refine .callThen ⟨0, 0⟩ sampleEmpty ⟨_, .refl, rfl⟩ ?_
  refine .callThen ⟨0, 0⟩ sampleEmpty ⟨_, .refl, rfl⟩ ?_
  refine .callThen _ _ ingested ?_
  refine .andThen sample_candidates ?_
  refine .andThen (.liftThen rfl ?_) (.refl ..)
  refine .callThen ⟨1, 0⟩ sampleIngested ⟨_, .refl, rfl⟩ ?_
  exact .call correlated (.refl ..)

def sampleRunId : Identifier := ⟨"run_0000000000000000000000000000000000000000", by decide⟩

def sampleRotation : CreateRunCommand where
  id := commandOne
  organisationId := organisationOne
  credentialId := credentialOne
  controlVersion := controlsOne
  runId := some sampleRunId
  trigger := {
    source := sampleEvent.source
    kind := sampleEvent.kind
    eventId := RotationRun.sample.trigger.eventId
    actorId := operatorOne
    reason := ⟨"exposed", by decide⟩
    urgency := ⟨"emergency", by decide⟩
    receivedAt := ⟨2, 0⟩ }

def sampleRun : RotationRun := createdRun sampleRotation sampleRunId ⟨2, 0⟩

def sampleStarted : Documents :=
  { sampleCorrelated with runs := sampleCorrelated.runs.commitCreate Hashing.sample sampleRun sampleRotation }

def sampleRotating : Incident := { linked credentialOne sampleRunId ⟨3, 0⟩ sampleConfirmed with revision := 2 }

def sampleLinked : Documents :=
  { sampleStarted with incidents := { sampleStarted.incidents with
    incidents := sampleStarted.incidents.incidents.set (organisationOne, incidentOne.text) sampleRotating } }

private theorem sample_rotates : Steps (world Hashing.sample) sampleCorrelated
    (sampleService.startRotation organisationOne incidentOne.text commandOne operatorOne controlsOne "exposed" "emergency"
      ⟨2, 0⟩) sampleLinked (.finish (.ok (sampleRotating, sampleRun, true))) := by
  have created : world Hashing.sample sampleCorrelated (.createRun sampleRotation) (.ok {
      run := sampleRun
      step := createStep Hashing.sample sampleRun sampleRotation
      applied := true }) sampleStarted := by
    refine ⟨sampleCorrelated, .refl, sampleRunId, ⟨2, 0⟩, congrArg (onRuns sampleCorrelated) (create_ok.mpr (.inl ?_))⟩
    exact {
      agrees := ⟨rfl, rfl, rfl, rfl, fun id hid => Option.some.inj hid⟩
      unseen := rfl
      unlocked := rfl
      new := rfl
      unused := rfl
      pinned := ⟨Uumi.Workflow.sampleControls, rfl, rfl, rfl, rfl, rfl⟩
      result_eq := rfl
      store_eq := rfl }
  have linked : world Hashing.sample sampleStarted (.update organisationOne incidentOne.text 1
      (linked credentialOne sampleRunId ⟨3, 0⟩)) (.ok sampleRotating) sampleLinked := ⟨sampleStarted, .refl, rfl⟩
  have read : world Hashing.sample sampleCorrelated (.incident organisationOne incidentOne.text) (.ok sampleConfirmed)
      sampleCorrelated := by
    refine ⟨sampleCorrelated, .refl, rfl, ?_⟩
    rintro incident h
    cases h
    rfl
  refine .liftThen rfl (.callThen _ _ read ?_)
  refine .liftThen rfl (.liftThen rfl (.liftThen rfl (.liftThen rfl (.liftThen rfl (.liftThen rfl ?_)))))
  refine .callThen _ _ created ?_
  refine .callThen ⟨3, 0⟩ sampleStarted ⟨_, .refl, rfl⟩ ?_
  exact .callThen _ _ linked (.refl ..)

def sampleRequests : Bool → Request
  | false => .ingest operatorOne incidentOne sampleEvent
  | true => .startRotation organisationOne incidentOne.text commandOne operatorOne controlsOne "exposed" "emergency" ⟨2, 0⟩

def sampleLeft : Bool → IncidentM Unit :=
  Function.update (fun i => sampleService.serve (sampleRequests i)) false (.finish (.ok ()))

private theorem sample_starts : Start Hashing.sample sampleEmpty :=
  ⟨fun _ => rfl, fun _ => rfl, Uumi.Workflow.sampleStore, [], sampleStore_initial, rfl⟩

private theorem sample_reports : ∃ events, Runs Hashing.sample []
    ⟨sampleEmpty, fun i => sampleService.serve (sampleRequests i)⟩ events ⟨sampleCorrelated, sampleLeft⟩ :=
  Pool.Run.ofSteps (.andThen sample_ingests (.refl ..)) false (fun i => sampleService.serve (sampleRequests i)) rfl []

private theorem sample_resumes (events : IncidentEvents Bool) : ∃ later programs,
    Runs Hashing.sample events ⟨sampleCorrelated, sampleLeft⟩ later ⟨sampleLinked, programs⟩ := by
  have steps : Steps (world Hashing.sample) sampleCorrelated (sampleService.serve (sampleRequests true)) sampleLinked
      (.finish (.ok ())) := .andThen sample_rotates (.refl ..)
  obtain ⟨later, run⟩ := Pool.Run.ofSteps steps true sampleLeft rfl events
  exact ⟨later, _, run⟩

/-- The sample incident is bound to the run that rotates its credential. -/
theorem sampleRotating_sound : Sound Hashing.sample sampleLinked organisationOne incidentOne.text sampleRotating := by
  obtain ⟨events, run⟩ := sample_reports
  obtain ⟨later, programs, rest⟩ := sample_resumes events
  have stored : sampleLinked.incidents.incidents (organisationOne, incidentOne.text) = some sampleRotating := rfl
  exact (incidents_sound Function.injective_id sample_starts (run.trans rest)).1 _ _ _ stored

/-- Its rotation goes on from the report. -/
theorem sampleConfirmed_evolves : Evolves sampleConfirmed sampleRotating := by
  obtain ⟨events, run⟩ := sample_reports
  obtain ⟨later, programs, rest⟩ := sample_resumes events
  have before : sampleCorrelated.incidents.incidents (organisationOne, incidentOne.text) = some sampleConfirmed := rfl
  have after : sampleLinked.incidents.incidents (organisationOne, incidentOne.text) = some sampleRotating := rfl
  obtain ⟨b, found, evolves⟩ := incidents_evolve Function.injective_id sample_starts run rest _ _ _ before
  obtain rfl : b = sampleRotating := Option.some.inj (found.symm.trans after)
  exact evolves

end Uumi.Incidents
