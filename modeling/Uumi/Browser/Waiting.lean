import Uumi.Coordinator.Context
import Uumi.Foundations.Serving
import Uumi.Workflow.Steps

/-! Runs that wait until a connection is authenticated again: how they are remembered, and how a completed setup
resumes them. -/
namespace Uumi.Browser
open Uumi.Contracts Uumi.Coordinator Uumi.Core Uumi.Foundations Uumi.Policy Uumi.State Uumi.Storage Uumi.Workflow
open Uumi.Foundations.Program (lift)

/-- `ConnectionWaiter`. -/
structure ConnectionWaiter where
  organisationId : Identifier
  connectionId : Identifier
  runIds : List Identifier := []
  revision : Nat := 0
  deriving DecidableEq

/-- What is called to remember and to resume waiting runs. -/
inductive WaiterCall where
  | clock
  | waiter (organisationId connectionId : Identifier)
  | createWaiter (waiter : ConnectionWaiter)
  | replaceWaiter (organisationId connectionId : Identifier) (expectedRevision : Nat)
      (update : ConnectionWaiter → ConnectionWaiter)
  | run (organisationId runId : Identifier)
  | resume (command : ResumeRunCommand)

abbrev WaiterCall.Answer : WaiterCall → Type
  | .clock => AwareDatetime
  | .waiter .. => ConnectionWaiter
  | .createWaiter .. => Unit
  | .replaceWaiter .. => ConnectionWaiter
  | .run .. => RotationRun
  | .resume .. => MutationResult

abbrev WaiterM := Program WaiterCall WaiterCall.Answer Error

abbrev waiterCall (op : WaiterCall) : WaiterM op.Answer := .perform op

def WaiterM.found {α : Type} (program : WaiterM α) : WaiterM (Option α) :=
  Program.tryCatch (do return some (← program)) fun
    | .resourceNotFound _ => return none
    | e => lift (.error e)

def WaiterM.written {α : Type} (program : WaiterM α) : WaiterM Bool :=
  Program.tryCatch (do let _ ← program; return true) fun
    | .resourceConflict _ => return false
    | e => lift (.error e)

def ConnectionWaiter.add (runId : Identifier) (current : ConnectionWaiter) : ConnectionWaiter :=
  { current with runIds := current.runIds ++ [runId], revision := current.revision + 1 }

/-- `_remember_waiting_run`, in a number of attempts. -/
def rememberIn (organisationId connectionId runId : Identifier) : Nat → WaiterM Unit
  | 0 => lift (.error (.resourceConflict "could not record a paused run waiting for reauthentication"))
  | attempts + 1 => do
    match ← (waiterCall (.waiter organisationId connectionId)).found with
    | none =>
      let created ← (waiterCall (.createWaiter { organisationId, connectionId, runIds := [runId] })).written
      if created then return else rememberIn organisationId connectionId runId attempts
    | some waiter =>
      if runId ∈ waiter.runIds then return
      let replaced ← (waiterCall (.replaceWaiter organisationId connectionId waiter.revision
        (ConnectionWaiter.add runId))).written
      if replaced then return else rememberIn organisationId connectionId runId attempts

def rememberWaitingRun (organisationId connectionId runId : Identifier) : WaiterM Unit :=
  (rememberIn organisationId connectionId runId 3).tryCatch fun _ => return

private theorem command_accepts (checksum : Checksum) : identifierAccepts ("cmd_" ++ checksum.text) = true := by
  obtain ⟨text, hlength, hdigits⟩ := checksum
  have hall : text.toList.all (fun d => identifierAccepts.lower d || ('0' ≤ d && d ≤ '9') || d == '_' || d == '-') =
      true := by
    simp only [List.all_eq_true] at hdigits ⊢
    exact fun c hc => hexadecimal_follows (hdigits c hc)
  simp [identifierAccepts, String.toList_append, String.length_append, hlength, hall]
  decide

def resumeCommandId (hashes : Hashes) (organisationId runId : Identifier) : Identifier where
  text := "cmd_" ++ (hashes.checksum (joined [organisationId.text, runId.text, "reauth-resume"])).text
  accepted := command_accepts _

section
variable (hashes : Hashes) (organisationId : Identifier)

def resumeCommand (runId actorId : Identifier) (expiresAt : AwareDatetime) (run : RotationRun) : ResumeRunCommand where
  id := resumeCommandId hashes organisationId runId
  organisationId
  runId
  actorId
  expectedRevision := run.revision
  ownerId := actorId
  expiresAt

def resumeRun (actorId : Identifier) (expiresAt : AwareDatetime) (runId : Identifier) : WaiterM Bool :=
  Program.tryCatch (do
    let run ← waiterCall (.run organisationId runId)
    if run.status ≠ .paused then return false
    let _ ← waiterCall (.resume (resumeCommand hashes organisationId runId actorId expiresAt run))
    return true) fun _ => return false

def resumeEach (actorId : Identifier) (expiresAt : AwareDatetime) : List Identifier → WaiterM (List Identifier)
  | [] => return []
  | runId :: rest => do
    let resumed ← resumeRun hashes organisationId actorId expiresAt runId
    let others ← resumeEach actorId expiresAt rest
    return if resumed then runId :: others else others

def resumeExpiry (now : AwareDatetime) : AwareDatetime := { now with instant := now.instant + 30 * 60 * 1000000 }

/-- `WorkflowRunResumer.resume`. -/
def resumeRuns (runIds : List Identifier) (actorId : Identifier) : WaiterM (List Identifier) := do
  let now ← waiterCall .clock
  resumeEach hashes organisationId actorId (resumeExpiry now) runIds

def ConnectionWaiter.keep (remaining : List Identifier) (current : ConnectionWaiter) : ConnectionWaiter :=
  { current with runIds := remaining, revision := current.revision + 1 }

def resumeWaiting (connectionId actorId : Identifier) : WaiterM (List Identifier) := do
  match ← (waiterCall (.waiter organisationId connectionId)).found with
  | none => return []
  | some waiter =>
    let resumed ← if waiter.runIds = [] then pure [] else resumeRuns hashes organisationId waiter.runIds actorId
    let remaining := waiter.runIds.filter (· ∉ resumed)
    if remaining ≠ waiter.runIds then
      let _ ← waiterCall (.replaceWaiter organisationId connectionId waiter.revision (ConnectionWaiter.keep remaining))
    return resumed

end

/-- How a call goes: it is answered, it is refused, or it takes effect and its answer is lost. -/
inductive Fate where
  | answered
  | refused
  | lost
  deriving DecidableEq

/-- What the calls of one program meet: the clock of the caller, the clock of the workflow when it resumes a run, and
how each call goes. -/
structure Circumstances where
  now : AwareDatetime
  workflowNow : Identifier → AwareDatetime
  reads : Identifier → Bool
  resumes : Identifier → Fate
  readsWaiter : Bool
  writesWaiter : Fate

/-- The documents of the runs and of the waiters, and the connection that a paused run waits for. -/
structure WaitingState where
  store : Store
  waiters : Collection (Identifier × Identifier) ConnectionWaiter
  waitsFor : Collection (Identifier × Identifier) Identifier

def Fate.apply {α : Type} (fate : Fate) (s : WaitingState) (outcome : Except Error (α × WaitingState)) :
    Except Error α × WaitingState :=
  match fate, outcome with
  | .refused, _ => (.error (.runtime "unavailable"), s)
  | _, .error e => (.error e, s)
  | .answered, .ok (answer, s') => (.ok answer, s')
  | .lost, .ok (_, s') => (.error (.runtime "unavailable"), s')

def readWaiter (s : WaitingState) (organisationId connectionId : Identifier) : Except Error ConnectionWaiter :=
  required (s.waiters (organisationId, connectionId)) (.resourceNotFound
    s!"resource organisations/{organisationId.text}/connection-waiters/{connectionId.text} was not found")

def writeWaiter (s : WaitingState) (organisationId connectionId : Identifier) (expectedRevision : Nat)
    (update : ConnectionWaiter → ConnectionWaiter) : Except Error (ConnectionWaiter × WaitingState) := do
  let current ← readWaiter s organisationId connectionId
  raiseIf (current.revision ≠ expectedRevision) (.resourceConflict (s!"resource organisations/{organisationId.text}/" ++
    s!"connection-waiters/{connectionId.text} expected revision {expectedRevision}, found {current.revision}"))
  raiseIf ((update current).revision ≠ expectedRevision + 1)
    (.storageIntegrity "catalog updates must advance revision exactly once")
  return (update current, { s with waiters := s.waiters.set (organisationId, connectionId) (update current) })

def handleWaiter (hashes : Hashes) (machine : RotationMachine) (circumstances : Circumstances) :
    Program.Server WaiterCall WaiterCall.Answer Error WaitingState := fun s op =>
  match op with
  | .clock => (.ok circumstances.now, s)
  | .waiter o k => if circumstances.readsWaiter then (readWaiter s o k, s) else (.error (.runtime "unavailable"), s)
  | .createWaiter waiter => circumstances.writesWaiter.apply s do
      absent (s.waiters (waiter.organisationId, waiter.connectionId)) fun _ => .resourceConflict
        (s!"resource organisations/{waiter.organisationId.text}/connection-waiters/{waiter.connectionId.text} " ++
          "already exists")
      return ((), { s with waiters := s.waiters.set (waiter.organisationId, waiter.connectionId) waiter })
  | .replaceWaiter o k revision update => circumstances.writesWaiter.apply s (writeWaiter s o k revision update)
  | .run o r => if circumstances.reads r then (get s.store o r, s) else (.error (.runtime "unavailable"), s)
  | .resume command => (circumstances.resumes command.runId).apply s do
      let (result, store) ← mutateRun hashes.toHashing s.store machine (circumstances.workflowNow command.runId)
        (.resume command)
      return (result, { s with store })

/-- A step: a command on a run by anyone (a pause with the connection that it is for, if it is for one), a run that the
coordinator remembers, and the end of a setup. -/
inductive WaitingEvent where
  | created (command : CreateRunCommand) (newId : Identifier) (now : AwareDatetime)
  | commanded (now : AwareDatetime) (command : RunCommand) (reason : Option Identifier)
  | remembered (circumstances : Circumstances) (organisationId connectionId runId : Identifier)
  | completed (circumstances : Circumstances) (organisationId connectionId actorId : Identifier)

def WaitingState.noted (s : WaitingState) (command : RunCommand) (reason : Option Identifier) (result : MutationResult) :
    Collection (Identifier × Identifier) Identifier :=
  match command, reason, result.applied with
  | .pause command, some connection, true => s.waitsFor.set (command.organisationId, command.runId) connection
  | .pause command, none, true => s.waitsFor.delete (command.organisationId, command.runId)
  | _, _, _ => s.waitsFor

def WaitingState.complete (hashes : Hashes) (machine : RotationMachine) (circumstances : Circumstances)
    (organisationId connectionId actorId : Identifier) (s : WaitingState) : Except Error (List Identifier) × WaitingState :=
  (resumeWaiting hashes organisationId connectionId actorId).served (handleWaiter hashes machine circumstances) s

def WaitingState.next (hashes : Hashes) (machine : RotationMachine) (s : WaitingState) : WaitingEvent → WaitingState
  | .created command newId now =>
    match createRun hashes.toHashing s.store command newId now with
    | .ok (_, store) => { s with store }
    | .error _ => s
  | .commanded now command reason =>
    match mutateRun hashes.toHashing s.store machine now command with
    | .ok (result, store) => { s with store, waitsFor := s.noted command reason result }
    | .error _ => s
  | .remembered circumstances o k r =>
    ((rememberWaitingRun o k r).served (handleWaiter hashes machine circumstances) s).2
  | .completed circumstances o k actor => (s.complete hashes machine circumstances o k actor).2

def WaitingState.history (hashes : Hashes) (machine : RotationMachine) :
    WaitingState → List WaitingEvent → List (WaitingState × WaitingEvent)
  | _, [] => []
  | s, event :: events => (s, event) :: history hashes machine (s.next hashes machine event) events

section
variable (s : WaitingState) (organisationId connectionId runId : Identifier)

/-- A run is paused until the connection is authenticated again. -/
def WaitingState.Waits : Prop :=
  (∃ run, s.store.runs (organisationId, runId) = some run ∧ run.status = .paused) ∧
    s.waitsFor (organisationId, runId) = some connectionId

def WaitingState.Running : Prop := ∃ run, s.store.runs (organisationId, runId) = some run ∧ run.status = .running

/-- The waiter of the connection lists a run. -/
def WaitingState.Lists : Prop := ∃ waiter, s.waiters (organisationId, connectionId) = some waiter ∧ runId ∈ waiter.runIds

end

/-- A completion that resumed some runs: all that waited, no others, and it lists those that still wait. -/
structure ResumesWaiting (organisationId connectionId : Identifier) (s : WaitingState) (resumed : List Identifier)
    (s' : WaitingState) : Prop where
  all : ∀ r, s.Waits organisationId connectionId r → r ∈ resumed ∧ s'.Running organisationId r
  only : ∀ r ∈ resumed, s.Waits organisationId connectionId r
  others : ∀ o r, ¬ (o = organisationId ∧ s.Waits organisationId connectionId r) →
    s'.store.runs (o, r) = s.store.runs (o, r)
  lists : ∀ r, s'.Lists organisationId connectionId r ↔ s'.Waits organisationId connectionId r

/-- The machine lets the actor have a run: it is paused, its command is new, its lock is held and its lease is free. -/
structure Free (hashes : Hashes) (circumstances : Circumstances) (organisationId actorId : Identifier) (s : WaitingState)
    (runId : Identifier) : Prop where
  new : s.store.steps (organisationId, runId, resumeCommandId hashes organisationId runId) = none
  unused : s.store.outbox (organisationId, resumeCommandId hashes organisationId runId) = none
  ready : ∃ run, s.store.runs (organisationId, runId) = some run ∧ run.status = .paused ∧
    run.organisationId = organisationId ∧ HoldsLock s.store organisationId run ∧
    ∀ lease ∈ run.lease, circumstances.workflowNow runId < lease.expiresAt → lease.ownerId = actorId
  timely : circumstances.workflowNow runId < resumeExpiry circumstances.now

/-- A free run whose calls are answered. -/
structure Resumable (hashes : Hashes) (circumstances : Circumstances) (organisationId actorId : Identifier)
    (s : WaitingState) (runId : Identifier) : Prop extends Free hashes circumstances organisationId actorId s runId where
  read : circumstances.reads runId = true
  answered : circumstances.resumes runId = .answered

/-- The waiter lists the runs that wait, and each of them can be resumed by a command of its own. -/
structure WaitersReady (hashes : Hashes) (circumstances : Circumstances) (organisationId connectionId actorId : Identifier)
    (s : WaitingState) : Prop where
  lists : ∀ r, s.Lists organisationId connectionId r ↔ s.Waits organisationId connectionId r
  resumable : ∀ r, s.Waits organisationId connectionId r → Resumable hashes circumstances organisationId actorId s r
  distinct : ∀ r r', s.Waits organisationId connectionId r → s.Waits organisationId connectionId r' →
    resumeCommandId hashes organisationId r = resumeCommandId hashes organisationId r' → r = r'

end Uumi.Browser
