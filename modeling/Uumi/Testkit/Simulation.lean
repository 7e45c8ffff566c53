import Uumi.Foundations.Lockstep
import Uumi.Storage.Inversion
import Uumi.Testkit.Repository
import Uumi.Workflow.Steps

/-! The repository in memory against the stored one, call by call. -/
namespace Uumi.Testkit
open Uumi.Contracts Uumi.Core Uumi.Foundations Uumi.Policy Uumi.Storage

/-- One call on a run repository. A mutation brings its transition. -/
inductive RepositoryCall where
  | create (run : RotationRun) (command : CreateRunCommand)
  | get (organisationId runId : Identifier)
  | mutate (command : RunCommand) (kind : EventKind) (transition : Transition) (proof : Option StageProof)

/-- `FirestoreRunRepository`. -/
def firestoreRepository (hashing : Hashing) : Service Store RepositoryCall (RotationRun ⊕ MutationResult) Error where
  perform store
    | .create run command => do
      let (result, store) ← create hashing store run command
      return (.inr result, store)
    | .get organisationId runId => do
      let run ← get store organisationId runId
      return (.inl run, store)
    | .mutate command kind transition proof => do
      let (result, store) ← mutate hashing store command kind transition proof
      return (.inr result, store)

/-- `MemoryRunRepository`. -/
def memoryRepository (hashing : Hashing) :
    Service MemoryStore RepositoryCall (RotationRun ⊕ MutationResult) Error where
  perform store
    | .create run command => do
      let (result, store) ← store.create hashing run command
      return (.inr result, store)
    | .get organisationId runId => do
      let run ← store.get organisationId runId
      return (.inl run, store)
    | .mutate command kind transition proof => do
      let (result, store) ← store.mutate hashing command kind transition proof
      return (.inr result, store)

/-- The lock document says what the dictionary of locks says. -/
def LockDocument.Records (lock : LockDocument) (key : Identifier × Identifier) (runId : Identifier) : Prop :=
  lock.organisationId = key.1 ∧ lock.credentialId = key.2 ∧ lock.runId = runId

/-- The dedupe document says what the dictionary of source events says. -/
def DedupeDocument.Records (dedupe : DedupeDocument) (o : Identifier) (record : Identifier × Identifier × Digest) :
    Prop :=
  dedupe.organisationId = o ∧ (dedupe.runId, dedupe.stepId, dedupe.requestHash) = record

/-- The documents of the two repositories correspond, one to one. -/
structure Corresponds (hashing : Hashing) (store : Store) (memory : MemoryStore) : Prop where
  runs : memory.runs = store.runs
  steps : memory.steps = store.steps
  events : memory.events = store.outbox
  locks : ∀ key, Option.Rel (fun lock runId => LockDocument.Records lock key runId) (store.locks key) (memory.locks key)
  dedupe : ∀ o source eventId record, memory.dedupe (o, source, eventId) = some record →
    ∃ document, store.dedupe (o, dedupeSegment hashing source eventId) = some document ∧
      DedupeDocument.Records document o record
  source : ∀ o segment document, store.dedupe (o, segment) = some document →
    ∃ source eventId record, dedupeSegment hashing source eventId = segment ∧
      memory.dedupe (o, source, eventId) = some record ∧ DedupeDocument.Records document o record

/-- What also holds throughout: runs are stored under their own key, and a source event is stored with the hash of a
command that it triggered. -/
structure Twins (hashing : Hashing) (store : Store) (memory : MemoryStore) : Prop
    extends Corresponds hashing store memory where
  placed : ∀ o id run, store.runs (o, id) = some run → run.organisationId = o ∧ run.id = id
  hashed : ∀ o source eventId record, memory.dedupe (o, source, eventId) = some record →
    ∃ command : CreateRunCommand, command.trigger.source.value = source ∧ command.trigger.eventId.value = eventId ∧
      record.2.2 = creationHash hashing command

/-- Another source event has the text of this one when source and event id are joined. -/
def Clashes (memory : MemoryStore) (run : RotationRun) : Prop :=
  memory.dedupe (MemoryStore.dedupeKey run) = none ∧
    ∃ source eventId, (memory.dedupe (run.organisationId, source, eventId)).isSome ∧
      source ++ "\x00" ++ eventId = run.trigger.source.value ++ "\x00" ++ run.trigger.eventId.value

/-- A creation that comes for a clashing source event, and that memory would not refuse as a conflict of ids. -/
def Confused (memory : MemoryStore) (run : RotationRun) (command : CreateRunCommand) : Prop :=
  Matches run command ∧ Clashes memory run ∧
    ((memory.locks (run.organisationId, run.credentialId)).isSome ∨
      (memory.runs (run.organisationId, run.id) = none ∧ memory.events (run.organisationId, command.id) = none))

/-- The control versions that the call needs exist and are intact, and the proof that it submits satisfies them. -/
def Supported (hashing : Hashing) (store : Store) (_ : MemoryStore) : RepositoryCall → Prop
  | .create run _ => ∃ controls, Pins hashing store run controls
  | .get _ _ => True
  | .mutate command _ _ proof => ∀ run, store.runs (command.organisationId, command.runId) = some run →
      ∀ p ∈ proof, ∃ controls, Pins hashing store run controls ∧
        controls.definition.requiredChecks p.stage ⊆ p.checks

/-- The call is no creation for a source event that clashes. -/
def Distinct (_ : Store) (memory : MemoryStore) : RepositoryCall → Prop
  | .create run command => ¬ Confused memory run command
  | _ => True

section
variable {hashing : Hashing} {store : Store} {memory : MemoryStore} {run : RotationRun}

private theorem Twins.commitCreate (twins : Twins hashing store memory) {command : CreateRunCommand}
    (agrees : Matches run command) (hnew : store.dedupe (sourceKey hashing run) = none) :
    Twins hashing (store.commitCreate hashing run command) (memory.commitCreate hashing run command) where
  runs := by simp only [Store.commitCreate, MemoryStore.commitCreate, twins.runs]
  steps := by simp only [Store.commitCreate, MemoryStore.commitCreate, twins.steps]
  events := by simp only [Store.commitCreate, MemoryStore.commitCreate, twins.events]
  locks key := by
    by_cases hkey : key = (run.organisationId, run.credentialId)
    · subst hkey
      simp only [Store.commitCreate, MemoryStore.commitCreate, Collection.set_same]
      exact .some ⟨rfl, rfl, rfl⟩
    · simp only [Store.commitCreate, MemoryStore.commitCreate, Collection.set_of_ne hkey]
      exact twins.locks key
  dedupe o source eventId record h := by
    rcases Collection.set_eq_some.mp h with ⟨hkey, rfl⟩ | ⟨-, h⟩
    · cases hkey
      exact ⟨_, Collection.set_same _ _ _, rfl, rfl⟩
    · obtain ⟨document, hdocument, hrecords⟩ := twins.dedupe o source eventId record h
      refine ⟨document, ?_, hrecords⟩
      refine (Collection.set_of_ne ?_).trans hdocument
      intro hkey
      rw [hkey] at hdocument
      cases hdocument.symm.trans hnew
  source o segment document h := by
    rcases Collection.set_eq_some.mp h with ⟨hkey, rfl⟩ | ⟨hkey, h⟩
    · cases hkey
      exact ⟨_, _, _, rfl, Collection.set_same _ _ _, rfl, rfl⟩
    · obtain ⟨source, eventId, record, rfl, hmemory, hrecords⟩ := twins.source o segment document h
      refine ⟨source, eventId, record, rfl, (Collection.set_of_ne ?_).trans hmemory, hrecords⟩
      rintro ⟨rfl, rfl, rfl⟩
      exact hkey rfl
  placed o id found h := by
    rcases Collection.set_eq_some.mp h with ⟨hkey, rfl⟩ | ⟨-, h⟩
    · cases hkey
      exact ⟨rfl, rfl⟩
    · exact twins.placed o id found h
  hashed o source eventId record h := by
    rcases Collection.set_eq_some.mp h with ⟨hkey, rfl⟩ | ⟨-, h⟩
    · cases hkey
      exact ⟨command, by rw [← agrees.trigger], by rw [← agrees.trigger], rfl⟩
    · exact twins.hashed o source eventId record h

private theorem existing_tracks (twins : Twins hashing store memory) {dedupe : DedupeDocument} {o : Identifier}
    {record : Identifier × Identifier × Digest} (hrecords : DedupeDocument.Records dedupe o record) (hash : Digest) :
    memory.existingCreate record o hash = existingCreate store dedupe o hash := by
  obtain ⟨-, rfl⟩ := hrecords
  unfold MemoryStore.existingCreate existingCreate
  simp only [twins.runs, twins.steps]
  congr 1
  funext _
  cases hrun : store.runs (o, dedupe.runId) with
  | none => rfl
  | some run =>
    cases hstep : store.steps (o, dedupe.runId, dedupe.stepId) with
    | none => rfl
    | some step =>
      have htenant : tenant run o = .ok () := tenant_ok.mpr (twins.placed o _ run hrun).1
      change _ = (tenant run o >>= _)
      rw [htenant]
      rfl

private theorem absent_locks (twins : Twins hashing store memory) (key : Identifier × Identifier)
    (e : Identifier → Error) :
    absent (memory.locks key) e = absent (store.locks key) fun lock => e lock.runId := by
  have hlock := twins.locks key
  generalize memory.locks key = held at hlock ⊢
  generalize store.locks key = lock at hlock ⊢
  cases hlock with
  | none => rfl
  | some hrecords =>
    obtain ⟨-, -, rfl⟩ := hrecords
    rfl

private theorem clashes_of_stored (hsha : Function.Injective hashing.sha256) (twins : Twins hashing store memory)
    {document : DedupeDocument} (hmemory : memory.dedupe (MemoryStore.dedupeKey run) = none)
    (hstored : store.dedupe (sourceKey hashing run) = some document) : Clashes memory run := by
  obtain ⟨source, eventId, record, hsegment, hrecord, -⟩ := twins.source _ _ document hstored
  exact ⟨hmemory, source, eventId, Option.isSome_iff_exists.mpr ⟨record, hrecord⟩, hsha hsegment⟩

private theorem create_tracks (hsha : Function.Injective hashing.sha256) (twins : Twins hashing store memory)
    {command : CreateRunCommand} (hpins : ∃ controls, Pins hashing store run controls)
    (hclash : Matches run command → ¬ Clashes memory run) :
    Service.Tracks (Twins hashing) (create hashing store run command) (memory.create hashing run command) := by
  unfold create MemoryStore.create
  refine Service.Tracks.bind fun _ hvalid => ?_
  cases hmemory : memory.dedupe (MemoryStore.dedupeKey run) with
  | some record =>
    obtain ⟨document, hdocument, hrecords⟩ := twins.dedupe _ _ _ record hmemory
    rw [hdocument]
    change Service.Tracks _ (existingCreate store document run.organisationId _ >>= _)
      (memory.existingCreate record run.organisationId _ >>= _)
    rw [existing_tracks twins hrecords]
    exact Service.Tracks.bind fun result _ => Service.Tracks.ok twins
  | none =>
    have hnew : store.dedupe (sourceKey hashing run) = none := by
      cases hstored : store.dedupe (sourceKey hashing run) with
      | none => rfl
      | some document =>
        exact absurd (clashes_of_stored hsha twins hmemory hstored) (hclash (validateCreate_ok.mp hvalid))
    obtain ⟨controls, hcontrols⟩ := hpins
    rw [show store.dedupe (run.organisationId, _) = none from hnew]
    simp only [absent_locks twins, twins.runs, twins.events]
    refine Service.Tracks.bind fun _ _ => Service.Tracks.bind fun _ _ => Service.Tracks.bind fun _ _ => ?_
    rw [pinnedControls_ok.mpr hcontrols]
    exact Service.Tracks.ok (twins.commitCreate (validateCreate_ok.mp hvalid) hnew)

private theorem create_clashing (hsha : Function.Injective hashing.sha256) (twins : Twins hashing store memory)
    {command : CreateRunCommand} (agrees : Matches run command) (hclash : Clashes memory run) :
    create hashing store run command =
      .error (.idempotencyConflict "source event was already bound to another request") := by
  obtain ⟨hnew, source, eventId, hsome, hjoined⟩ := hclash
  obtain ⟨record, hrecord⟩ := Option.isSome_iff_exists.mp hsome
  obtain ⟨document, hdocument, -, hrecords⟩ := twins.dedupe _ _ _ record hrecord
  obtain ⟨other, hsource, heventId, hhash⟩ := twins.hashed _ _ _ record hrecord
  have hstored : store.dedupe (run.organisationId, dedupeSegment hashing run.trigger.source.value
      run.trigger.eventId.value) = some document := by
    rw [← hdocument, dedupeSegment, dedupeSegment, hjoined]
  have hother : document.requestHash ≠ creationHash hashing command := by
    intro hsame
    have hequal : creationHash hashing other = creationHash hashing command := by
      rw [← hhash, ← hsame, ← hrecords]
    have htrigger : other.trigger = command.trigger :=
      (congrArg CreateRunCommand.trigger (creationHash_eq hsha hequal)).symm
    rw [htrigger, ← agrees.trigger] at hsource heventId
    rw [← hsource, ← heventId] at hsome
    change (memory.dedupe (MemoryStore.dedupeKey run)).isSome = true at hsome
    rw [hnew] at hsome
    cases hsome
  unfold create
  rw [validateCreate_ok.mpr agrees, ok_bind, hstored]
  change (existingCreate store document run.organisationId _ >>= _) = _
  rw [existingCreate, raiseIf_bind_of hother]
  rfl

private theorem holdsLock_iff (twins : Twins hashing store memory) (o : Identifier) :
    memory.HoldsLock o run ↔ HoldsLock store o run := by
  have hlock := twins.locks (o, run.credentialId)
  unfold MemoryStore.HoldsLock HoldsLock
  generalize memory.locks (o, run.credentialId) = held at hlock ⊢
  generalize store.locks (o, run.credentialId) = lock at hlock ⊢
  cases hlock with
  | none => simp
  | some hrecords =>
    obtain ⟨-, -, rfl⟩ := hrecords
    simp

private theorem Twins.commitMutation (twins : Twins hashing store memory) {command : RunCommand} {kind : EventKind}
    {proof : Option StageProof} {updated : RotationRun} (horganisation : updated.organisationId = command.organisationId)
    (hid : updated.id = command.runId) :
    Twins hashing (store.commitMutation hashing run updated command kind proof)
      (memory.commitMutation hashing run updated command kind proof) where
  runs := by simp only [Store.commitMutation, MemoryStore.commitMutation, twins.runs]
  steps := by simp only [Store.commitMutation, MemoryStore.commitMutation, twins.steps]
  events := by simp only [Store.commitMutation, MemoryStore.commitMutation, twins.events]
  locks key := by
    simp only [Store.commitMutation, MemoryStore.commitMutation, holdsLock_iff twins]
    split
    · by_cases hkey : key = (command.organisationId, run.credentialId)
      · subst hkey
        simp only [Collection.delete_same]
        exact .none
      · simp only [Collection.delete_of_ne hkey]
        exact twins.locks key
    · exact twins.locks key
  dedupe := twins.dedupe
  source := twins.source
  placed o id found h := by
    rcases Collection.set_eq_some.mp h with ⟨hkey, rfl⟩ | ⟨-, h⟩
    · cases hkey
      exact ⟨horganisation, hid⟩
    · exact twins.placed o id found h
  hashed := twins.hashed

private theorem replay_tracks (twins : Twins hashing store memory) (command : RunCommand) (step : RunStep) :
    memory.replay hashing command step = replay hashing store command step := by
  unfold MemoryStore.replay replay
  rw [twins.runs]
  congr 1
  funext _
  cases hrun : store.runs (command.organisationId, command.runId) with
  | none => rfl
  | some run =>
    have htenant : tenant run command.organisationId = .ok () := tenant_ok.mpr (twins.placed _ _ run hrun).1
    change _ = (tenant run command.organisationId >>= _)
    rw [htenant]
    rfl

private theorem mutate_tracks (twins : Twins hashing store memory) {command : RunCommand} {kind : EventKind}
    {transition : Transition} {proof : Option StageProof}
    (hproof : ∀ run, store.runs (command.organisationId, command.runId) = some run →
      ∀ p ∈ proof, ∃ controls, Pins hashing store run controls ∧ controls.definition.requiredChecks p.stage ⊆ p.checks) :
    Service.Tracks (Twins hashing) (mutate hashing store command kind transition proof)
      (memory.mutate hashing command kind transition proof) := by
  unfold mutate MemoryStore.mutate
  rw [twins.steps]
  cases store.steps (command.organisationId, command.runId, command.id) with
  | some step =>
    change Service.Tracks _ (replay hashing store command step >>= _) (memory.replay hashing command step >>= _)
    rw [replay_tracks twins]
    exact Service.Tracks.bind fun result _ => Service.Tracks.ok twins
  | none =>
    simp only [twins.events, twins.runs]
    refine Service.Tracks.bind fun _ _ => Service.Tracks.bind fun run hrun => ?_
    rw [required_ok] at hrun
    obtain ⟨horganisation, hid⟩ := twins.placed _ _ run hrun
    rw [tenant_ok.mpr horganisation, ok_bind]
    simp only [holdsLock_iff twins]
    refine Service.Tracks.bind fun _ _ => Service.Tracks.bind fun _ _ => ?_
    rw [checkProof_ok.mpr (hproof run hrun), ok_bind]
    refine Service.Tracks.bind fun updated _ => Service.Tracks.bind fun _ hvalid => ?_
    obtain ⟨hupdated, hsame, -⟩ := validateTransition_ok.mp hvalid
    exact Service.Tracks.ok (twins.commitMutation hupdated (hsame.trans hid))

end

section
variable {hashing : Hashing} {store : Store} {memory : MemoryStore} {run : RotationRun}

/-- Errors of one class. -/
def SameClass (e other : Error) : Prop := e.className = other.className

private theorem Tracks.wrapped {α β : Type} {x : Except Error (α × Store)} {y : Except Error (α × MemoryStore)}
    {f : α → β} (h : Service.Tracks (Twins hashing) x y) :
    Service.Tracks (Twins hashing) (x >>= fun r => (.ok (f r.1, r.2) : Except Error (β × Store)))
      (y >>= fun r => (.ok (f r.1, r.2) : Except Error (β × MemoryStore))) := by
  rcases x with e | ⟨result, s⟩ <;> rcases y with e' | ⟨result', t⟩
  · exact h
  · exact h.elim
  · exact h.elim
  · obtain ⟨rfl, htwins⟩ := h
    exact ⟨rfl, htwins⟩

private theorem get_tracks (twins : Twins hashing store memory) (o runId : Identifier) :
    Service.Tracks (Twins hashing) ((firestoreRepository hashing).perform store (.get o runId))
      ((memoryRepository hashing).perform memory (.get o runId)) := by
  change Service.Tracks _ (get store o runId >>= _) (memory.get o runId >>= _)
  have hget : memory.get o runId = get store o runId := by
    unfold MemoryStore.get Storage.get
    rw [twins.runs]
    cases hrun : store.runs (o, runId) with
    | none => rfl
    | some run =>
      change _ = (tenant run o >>= _)
      rw [tenant_ok.mpr (twins.placed o runId run hrun).1]
      rfl
  rw [hget]
  exact Service.Tracks.bind fun _ _ => Service.Tracks.ok twins

private theorem perform_tracks (hsha : Function.Injective hashing.sha256) (twins : Twins hashing store memory)
    {call : RepositoryCall} (hsupported : Supported hashing store memory call)
    (hclash : ∀ run command, call = .create run command → Matches run command → ¬ Clashes memory run) :
    Service.Tracks (Twins hashing) ((firestoreRepository hashing).perform store call)
      ((memoryRepository hashing).perform memory call) := by
  cases call with
  | create run command => exact Tracks.wrapped (create_tracks hsha twins hsupported (hclash run command rfl))
  | get o runId => exact get_tracks twins o runId
  | mutate command kind transition proof => exact Tracks.wrapped (mutate_tracks twins hsupported)

private theorem memory_create_new (hashing : Hashing) {command : CreateRunCommand} (agrees : Matches run command)
    (hnew : memory.dedupe (MemoryStore.dedupeKey run) = none) : memory.create hashing run command = (do
      absent (memory.locks (run.organisationId, run.credentialId)) fun lockedRun => .activeRunConflict
        s!"credential {run.credentialId.text} is already owned by run {lockedRun.text}"
      absent (memory.runs (run.organisationId, run.id)) fun _ => .idempotencyConflict
        s!"run id {run.id.text} already exists"
      absent (memory.events (run.organisationId, command.id)) fun _ => .idempotencyConflict
        s!"command {command.id.text} already belongs to another run"
      return ({ run := run, step := createStep hashing run command, applied := true },
        memory.commitCreate hashing run command)) := by
  unfold MemoryStore.create
  rw [validateCreate_ok.mpr agrees, ok_bind, hnew]

private theorem memory_create_clashing {command : CreateRunCommand} (agrees : Matches run command)
    (hclash : Clashes memory run) :
    (Confused memory run command ∧ ∀ e, memory.create hashing run command = .error e →
        e.className = "ActiveRunConflictError") ∨
      (¬ Confused memory run command ∧ ∃ m, memory.create hashing run command = .error (.idempotencyConflict m)) := by
  have hcreate := memory_create_new hashing agrees hclash.1
  cases hlock : memory.locks (run.organisationId, run.credentialId) with
  | some held =>
    refine .inl ⟨⟨agrees, hclash, .inl (by rw [hlock]; rfl)⟩, fun e he => ?_⟩
    rw [hcreate, hlock] at he
    cases he
    rfl
  | none =>
    rw [hlock] at hcreate
    cases hrun : memory.runs (run.organisationId, run.id) with
    | some found =>
      rw [hrun] at hcreate
      refine .inr ⟨?_, _, hcreate⟩
      rintro ⟨-, -, h | ⟨h, -⟩⟩
      · rw [hlock] at h
        cases h
      · rw [hrun] at h
        cases h
    | none =>
      rw [hrun] at hcreate
      cases hevent : memory.events (run.organisationId, command.id) with
      | some event =>
        rw [hevent] at hcreate
        refine .inr ⟨?_, _, hcreate⟩
        rintro ⟨-, -, h | ⟨-, h⟩⟩
        · rw [hlock] at h
          cases h
        · rw [hevent] at h
          cases h
      | none =>
        rw [hevent] at hcreate
        refine .inl ⟨⟨agrees, hclash, .inr ⟨hrun, hevent⟩⟩, fun e he => ?_⟩
        rw [hcreate] at he
        cases he

private theorem perform_agrees (hsha : Function.Injective hashing.sha256) (twins : Twins hashing store memory)
    {call : RepositoryCall} (hsupported : Supported hashing store memory call) :
    Service.SameOutcome SameClass ((firestoreRepository hashing).perform store call)
      ((memoryRepository hashing).perform memory call) ↔ Distinct store memory call := by
  by_cases hclash : ∃ run command, call = .create run command ∧ Clashes memory run ∧ Matches run command
  · obtain ⟨run, command, rfl, hclash, agrees⟩ := hclash
    have hstored := create_clashing hsha twins agrees hclash
    change Service.SameOutcome SameClass (create hashing store run command >>= _)
      (memory.create hashing run command >>= _) ↔ ¬ Confused memory run command
    rw [hstored]
    rcases memory_create_clashing agrees hclash with ⟨hconfused, hclass⟩ | ⟨hconfused, m, hm⟩
    · refine iff_of_false ?_ (not_not.mpr hconfused)
      cases hmemory : memory.create hashing run command with
      | ok out => exact id
      | error e =>
        intro hsame
        have hsame' : "IdempotencyConflictError" = e.className := hsame
        rw [hclass e hmemory] at hsame'
        exact absurd hsame' (by decide)
    · rw [hm]
      exact iff_of_true rfl hconfused
  · have hdistinct : Distinct store memory call := by
      cases call with
      | create run command => exact fun h => hclash ⟨run, command, rfl, h.2.1, h.1⟩
      | get o runId => trivial
      | mutate command kind transition proof => trivial
    refine iff_of_true ?_ hdistinct
    refine (perform_tracks hsha twins hsupported fun run command hcall agrees h => ?_).sameOutcome fun _ => rfl
    exact hclash ⟨run, command, hcall, h, agrees⟩

private theorem exec_twins (hsha : Function.Injective hashing.sha256) (twins : Twins hashing store memory)
    {call : RepositoryCall} (hsupported : Supported hashing store memory call)
    (hdistinct : Distinct store memory call) :
    Twins hashing ((firestoreRepository hashing).exec store call) ((memoryRepository hashing).exec memory call) := by
  by_cases hclash : ∃ run command, call = .create run command ∧ Clashes memory run ∧ Matches run command
  · obtain ⟨run, command, rfl, hclash, agrees⟩ := hclash
    have hstored : (firestoreRepository hashing).perform store (.create run command) = .error _ :=
      congrArg (· >>= _) (create_clashing hsha twins agrees hclash)
    rcases memory_create_clashing agrees hclash with ⟨hconfused, -⟩ | ⟨-, m, hm⟩
    · exact absurd hconfused hdistinct
    · have hmemory : (memoryRepository hashing).perform memory (.create run command) = .error _ :=
        congrArg (· >>= _) hm
      rw [Service.exec_of_error _ hstored, Service.exec_of_error _ hmemory]
      exact twins
  · refine (perform_tracks hsha twins hsupported fun run command hcall agrees h => ?_).exec twins
    exact hclash ⟨run, command, hcall, h, agrees⟩

private theorem twins_of_initial (hinitial : Workflow.Initial store) : Twins hashing store MemoryStore.empty := by
  obtain ⟨hruns, hsteps, houtbox, hlocks, hdedupe⟩ := hinitial
  refine ⟨⟨hruns.symm, hsteps.symm, houtbox.symm, fun key => ?_, nofun, fun o segment document h => ?_⟩,
    fun o id run h => ?_, nofun⟩
  · rw [hlocks]
    exact .none
  · rw [hdedupe] at h
    cases h
  · rw [hruns] at h
    cases h

end

/-- On the same calls, beginning without runs, the two repositories return the same results or raise errors of the same
class, and their documents correspond after every call, exactly when no creation is confused with another one. -/
theorem memory_simulates_iff {hashing : Hashing} (hsha : Function.Injective hashing.sha256) {store : Store}
    (hinitial : Workflow.Initial store) (calls : List RepositoryCall)
    (hsupported : Service.Throughout (firestoreRepository hashing) (memoryRepository hashing) (Supported hashing) store
      MemoryStore.empty calls) :
    Service.Lockstep SameClass (firestoreRepository hashing) (memoryRepository hashing) (Corresponds hashing) store
      MemoryStore.empty calls ↔
    Service.Throughout (firestoreRepository hashing) (memoryRepository hashing) Distinct store MemoryStore.empty
      calls := by
  refine Service.lockstep_iff (fun _ _ (twins : Twins hashing _ _) => twins.toCorresponds)
    (fun s t call twins h => perform_agrees hsha twins h) (fun s t call twins h hd => exec_twins hsha twins h hd)
    store MemoryStore.empty (twins_of_initial hinitial) calls hsupported

/-- The creation and the reading of the sample run go in lockstep. -/
theorem memory_simulates_iff_sample :
    Service.Lockstep SameClass (firestoreRepository Hashing.sample) (memoryRepository Hashing.sample)
      (Corresponds Hashing.sample) Workflow.sampleStore MemoryStore.empty
      [.create RotationRun.sample Workflow.sampleCommand,
        .get RotationRun.sample.organisationId RotationRun.sample.id] := by
  refine (memory_simulates_iff (fun _ _ h => h) ⟨rfl, rfl, rfl, rfl, rfl⟩ _ ?_).mpr ?_
  · exact ⟨⟨Workflow.sampleControls, rfl, rfl, rfl, rfl, rfl⟩, trivial, trivial⟩
  · refine ⟨?_, trivial, trivial⟩
    rintro ⟨-, ⟨-, source, eventId, hsome, -⟩, -⟩
    cases hsome

def sampleEvent (credentialId runId : Identifier) (source : Text 1 64) (eventId : Text 1 256) : RotationRun where
  toRunFields :=
    { RotationRun.sample.toRunFields with
      id := runId
      credentialId := credentialId
      trigger := { RotationRun.sample.trigger with source := source, eventId := eventId } }
  accepted := rfl

def sampleEventCommand (id : Identifier) (run : RotationRun) : CreateRunCommand where
  id := id
  organisationId := run.organisationId
  credentialId := run.credentialId
  controlVersion := run.controlVersion
  trigger := run.trigger

def sampleFirst : RotationRun := sampleEvent credentialOne runOne ⟨"a\x00b", by decide⟩
  ⟨"c", by decide⟩

def sampleSecond : RotationRun := sampleEvent ⟨"credential-2", by decide⟩ runTwo ⟨"a", by decide⟩
  ⟨"b\x00c", by decide⟩

def sampleEventControls (key : Identifier × Identifier × Identifier) : ControlVersion :=
  { Workflow.sampleControls with organisationId := key.1, credentialId := key.2.1, id := key.2.2 }

def sampleEventStore : Store :=
  { Workflow.sampleStore with controls := fun key => some (sampleEventControls key) }

def sampleFirstCommand : CreateRunCommand := sampleEventCommand commandOne sampleFirst

def sampleSecondCommand : CreateRunCommand := sampleEventCommand commandTwo sampleSecond

private theorem sample_agrees {run : RotationRun} {id : Identifier} : Matches run (sampleEventCommand id run) :=
  ⟨rfl, rfl, rfl, rfl, nofun⟩

private theorem sample_pins (store : Store) (h : store.controls = sampleEventStore.controls) (run : RotationRun) :
    ∃ controls, Pins Hashing.sample store run controls :=
  ⟨sampleEventControls (run.organisationId, run.credentialId, run.controlVersion),
    by rw [h]; rfl, rfl, rfl, rfl, rfl⟩

private theorem sample_first : (firestoreRepository Hashing.sample).exec sampleEventStore
    (.create sampleFirst sampleFirstCommand) =
      sampleEventStore.commitCreate Hashing.sample sampleFirst sampleFirstCommand := by
  have hcreate : create Hashing.sample sampleEventStore sampleFirst sampleFirstCommand = .ok (_, _) :=
    create_ok.mpr (.inl ⟨sample_agrees, rfl, rfl, rfl, rfl, sample_pins _ rfl _, rfl, rfl⟩)
  exact Service.exec_of_ok _ (congrArg (· >>= _) hcreate)

private theorem sample_second : ∃ memory, (memoryRepository Hashing.sample).perform
    ((memoryRepository Hashing.sample).exec MemoryStore.empty (.create sampleFirst sampleFirstCommand))
    (.create sampleSecond sampleSecondCommand) =
      .ok (.inr ⟨sampleSecond, createStep Hashing.sample sampleSecond sampleSecondCommand, true⟩, memory) := by
  have hfirst : (memoryRepository Hashing.sample).exec MemoryStore.empty (.create sampleFirst sampleFirstCommand) =
      MemoryStore.empty.commitCreate Hashing.sample sampleFirst sampleFirstCommand :=
    Service.exec_of_ok _ (congrArg (· >>= _) (memory_create_new Hashing.sample sample_agrees rfl))
  have hdedupe : (MemoryStore.empty.commitCreate Hashing.sample sampleFirst sampleFirstCommand).dedupe
      (MemoryStore.dedupeKey sampleSecond) = none := by
    simp only [MemoryStore.commitCreate]
    exact Collection.set_of_ne (by decide)
  have hlocks : (MemoryStore.empty.commitCreate Hashing.sample sampleFirst sampleFirstCommand).locks
      (sampleSecond.organisationId, sampleSecond.credentialId) = none := by
    simp only [MemoryStore.commitCreate]
    exact Collection.set_of_ne (by decide)
  have hruns : (MemoryStore.empty.commitCreate Hashing.sample sampleFirst sampleFirstCommand).runs
      (sampleSecond.organisationId, sampleSecond.id) = none := by
    simp only [MemoryStore.commitCreate]
    exact Collection.set_of_ne (by decide)
  have hevents : (MemoryStore.empty.commitCreate Hashing.sample sampleFirst sampleFirstCommand).events
      (sampleSecond.organisationId, sampleSecondCommand.id) = none := by
    simp only [MemoryStore.commitCreate]
    exact Collection.set_of_ne (by decide)
  rw [hfirst]
  have hagrees : Matches sampleSecond sampleSecondCommand := sample_agrees
  have hsecond := memory_create_new Hashing.sample hagrees hdedupe
  rw [hlocks, hruns, hevents] at hsecond
  exact ⟨_, congrArg (· >>= _) hsecond⟩

/-- The stored repository takes the second event for the first one, and refuses it; memory creates its run. -/
theorem joined_events_differ : ¬ ∀ (hashing : Hashing), Function.Injective hashing.sha256 → ∀ store,
    Workflow.Initial store → ∀ calls,
    Service.Throughout (firestoreRepository hashing) (memoryRepository hashing) (Supported hashing) store
      MemoryStore.empty calls →
    Service.Lockstep SameClass (firestoreRepository hashing) (memoryRepository hashing) (Corresponds hashing) store
      MemoryStore.empty calls := by
  intro h
  have hlockstep := h Hashing.sample (fun _ _ h => h) sampleEventStore ⟨rfl, rfl, rfl, rfl, rfl⟩
    [.create sampleFirst sampleFirstCommand, .create sampleSecond sampleSecondCommand]
    ⟨sample_pins _ rfl _, by rw [sample_first]; exact sample_pins (sampleEventStore.commitCreate _ _ _) rfl sampleSecond, trivial⟩
  obtain ⟨-, -, -, hsame, -⟩ := hlockstep
  obtain ⟨memory, hmemory⟩ := sample_second
  rw [sample_first, hmemory] at hsame
  change Service.SameOutcome SameClass (create _ _ sampleSecond sampleSecondCommand >>= _) _ at hsame
  cases hcreate : create Hashing.sample (sampleEventStore.commitCreate Hashing.sample sampleFirst sampleFirstCommand)
      sampleSecond sampleSecondCommand with
  | error e =>
    rw [hcreate] at hsame
    exact hsame
  | ok out =>
    rw [hcreate] at hsame
    rcases create_ok.mp hcreate with hcreated | hdeduplicated
    · have hunseen := hcreated.unseen
      cases hunseen
    · have hresult := hdeduplicated.unapplied
      rw [Sum.inr.inj hsame] at hresult
      cases hresult

end Uumi.Testkit
