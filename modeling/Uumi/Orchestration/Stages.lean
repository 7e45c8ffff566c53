import Uumi.Contracts.Execution
import Uumi.Coordinator.Operations
import Uumi.Foundations.Interaction
import Uumi.Storage.Repository

/-! The execution of a stage: the coordinator reads the run, has the stage done by its peers, and keeps one result for
each stage at each revision of a run. -/
namespace Uumi.Orchestration
open Uumi.Contracts Uumi.Coordinator Uumi.Core Uumi.Foundations Uumi.Policy Uumi.Storage
open Uumi.Foundations.Program

/-- What a stage produced. -/
structure StageWork where
  checks : Finset String
  evidenceIds : List Identifier
  bindings : StageBindings
  output : Output

/-- An exception: its class, its text, the output of a browser worker's error, and whether a stage may be retried
after it. -/
structure Raised where
  className : String
  text : String
  output : Output := []
  retryable : Bool := false

/-- What ends a program. -/
inductive Fault where
  | raised (exception : Raised)
  /-- A `BrowserPauseError`. -/
  | pause (reason : String) (output : Output)
  /-- An HTTP call failed; the text is the JSON of the error. -/
  | http (transient : Bool) (text : String)

/-- The calls of the coordinator and of the rotation workflow. -/
inductive RotationCall where
  | now
  | run (organisationId runId : Identifier)
  | mutate (command : RunCommand)
  | result (organisationId executionId : Identifier)
  /-- `_control`, of the coordinator or of the stage that it executes. -/
  | control (run : RotationRun)
  | dispatch (run : RotationRun)
  | recover (run : RotationRun)
  | stageEvidence (run : RotationRun) (checks : Finset String) (output : Output)
  | failureEvidence (run : RotationRun) (reason : String)
  | flagReauthentication (run : RotationRun) (output : Output) (executionId : Identifier)
  | terminate (run : RotationRun)
  | audit (result : StageExecutionResult)
  | create (result : StageExecutionResult)
  /-- A server answers with an error. -/
  | response
  | sleep (seconds : Int)

def RotationCall.Answer : RotationCall → Type
  | .now => AwareDatetime
  | .run _ _ => RotationRun
  | .mutate _ => MutationResult
  | .result _ _ => StageExecutionResult
  | .control _ => ControlVersion
  | .dispatch _ => StageWork
  | .recover _ => StageWork × RecoveryMode
  | .stageEvidence _ _ _ | .failureEvidence _ _ => List Identifier
  | .response => Bool × String
  | .flagReauthentication _ _ _ | .terminate _ | .audit _ | .create _ | .sleep _ => Unit

abbrev RotationM := Program RotationCall RotationCall.Answer Fault

def rotationCall (call : RotationCall) : RotationM call.Answer := perform call

def errorText : Error → String
  | .policyViolation stage missing =>
    s!"stage {stage.value} is missing required checks: " ++ String.intercalate ", " (missing.sort (· ≤ ·))
  | .key name => "'" ++ name ++ "'"
  | .revisionConflict message | .leaseConflict message | .transitionRejected message | .runNotFound message
  | .activeRunConflict message | .idempotencyConflict message | .storageIntegrity message
  | .resourceNotFound message | .resourceConflict message | .capability message | .approval message
  | .authorization message | .playbook message | .authenticationRequired message
  | .alreadyExists message | .validation message | .value message | .connector _ message _
  | .ambiguousMutation message | .outboxLease message | .runtime message | .stageExecution message _
  | .browserPause message _ => message

def raises {α : Type} (x : Except Error α) : RotationM α :=
  lift (x.mapError fun e => .raised { className := e.className, text := errorText e })

/-- Letters and hexadecimal digits after an underscore name something. -/
theorem named_accepts {word : String} (h : word ∈ ["stage", "cmd"]) (checksum : Checksum) :
    identifierAccepts (word ++ "_" ++ checksum.text) = true := by
  obtain ⟨text, hlength, hdigits⟩ := checksum
  have hall : text.toList.all (fun d => identifierAccepts.lower d || ('0' ≤ d && d ≤ '9') || d == '_' || d == '-') =
      true := by
    simp only [List.all_eq_true] at hdigits ⊢
    exact fun c hc => hexadecimal_follows (hdigits c hc)
  simp only [List.mem_cons, List.not_mem_nil, or_false] at h
  rcases h with rfl | rfl <;>
    simp [identifierAccepts, String.toList_append, String.length_append, hlength, hall] <;> decide

def stageId (hashes : Hashes) (runId : Identifier) (stage : Stage) (revision : Nat) : Identifier where
  text := "stage" ++ "_" ++ (hashes.checksum (joined [runId.text, stage.value, s!"{revision}"])).text
  accepted := named_accepts (by decide) _

def executionId (hashes : Hashes) (request : StageExecutionRequest) : Identifier :=
  stageId hashes request.runId request.stage request.expectedRevision

namespace StageCoordinator

def validateRequest (request : StageExecutionRequest) (run : RotationRun) (now : AwareDatetime) :
    Except Error Unit := do
  raiseIf (run.revision ≠ request.expectedRevision ∨ run.stage ≠ request.stage)
    (.value "stage execution request is stale")
  raiseIf (run.status ∉ [.running, .recovering]) (.value "stage execution requires an active run")
  raiseIf (run.lease = none ∨ run.fencingToken ≠ request.fencingToken)
    (.value "stage execution does not hold the active fence")
  raiseIf (∃ lease ∈ run.lease, lease.expiresAt ≤ now) (.value "stage execution lease expired")

def stageProof (result : StageExecutionResult) : Except Error StageProof :=
  if h : result.checks ≠ ∅ ∧ result.evidenceIds ≠ [] then
    .ok {
      runId := result.runId
      organisationId := result.organisationId
      stage := result.stage
      checks := result.checks
      evidenceIds := result.evidenceIds
      actorId := coordinatorId
      recordedAt := result.completedAt
      checks_nonempty := h.1
      evidence_nonempty := h.2 }
  else .error (.validation "stage proof requires checks and evidence")

def checkGates (controls : ControlVersion) (result : StageExecutionResult) : Except Error Unit := do
  let proof ← stageProof result
  GatePolicy.validate { required := controls.definition.requiredChecks } proof

def work (run : RotationRun) : RotationM (StageWork × Option RecoveryMode) :=
  if run.status = .recovering then do
    let (work, mode) ← rotationCall (.recover run)
    return (work, some mode)
  else do
    let work ← rotationCall (.dispatch run)
    return (work, none)

def attempt (id : Identifier) (run : RotationRun) (started : AwareDatetime) : RotationM StageExecutionResult := do
  let controls ← rotationCall (.control run)
  let (work, recoveryMode) ← work run
  let proofEvidence : List Identifier ← rotationCall (.stageEvidence run work.checks work.output)
  let completed ← rotationCall .now
  let result ← raises (StageExecutionResult.modelValidate {
    id
    organisationId := run.organisationId
    runId := run.id
    stage := run.stage
    status := if run.status = .recovering then .recovered else .succeeded
    checks := work.checks
    evidenceIds := (work.evidenceIds ++ proofEvidence).eraseDups
    bindings := work.bindings
    recoveryMode
    output := work.output
    startedAt := started
    completedAt := completed })
  if run.status ≠ .recovering then
    raises (checkGates controls result)
  return result

def terminate (run : RotationRun) : RotationM Unit :=
  (rotationCall (.terminate run)).tryCatch fun _ => pure ()

def paused (id : Identifier) (run : RotationRun) (started : AwareDatetime) (reason : String) (output : Output) :
    RotationM StageExecutionResult := do
  if output.isTrue "authentication_required" then
    rotationCall (.flagReauthentication run output id)
    terminate run
  let completed ← rotationCall .now
  raises (StageExecutionResult.modelValidate {
    id
    organisationId := run.organisationId
    runId := run.id
    stage := run.stage
    status := .paused
    output
    reason := some reason
    startedAt := started
    completedAt := completed })

def failureReason (exception : Raised) : String :=
  String.ofList (((exception.className ++ ": " ++ exception.text).toList.map fun c =>
    if c = '\n' then ' ' else c).take 1024)

def failed (id : Identifier) (run : RotationRun) (started : AwareDatetime) (exception : Raised) :
    RotationM StageExecutionResult := do
  terminate run
  let evidenceIds ← rotationCall (.failureEvidence run (failureReason exception))
  let completed ← rotationCall .now
  raises (StageExecutionResult.modelValidate {
    id
    organisationId := run.organisationId
    runId := run.id
    stage := run.stage
    status := .failed
    evidenceIds
    reason := some (failureReason exception)
    output := exception.output
    retryable := exception.retryable
    startedAt := started
    completedAt := completed })

def current (organisationId executionId : Identifier) : RotationM (Option StageExecutionResult) :=
  (do return some (← rotationCall (.result organisationId executionId))).tryCatch fun
    | .raised exception =>
      if exception.className = "ResourceNotFoundError" then pure none else lift (.error (.raised exception))
    | fault => lift (.error fault)

def execute (hashes : Hashes) (request : StageExecutionRequest) : RotationM StageExecutionResult := do
  let started ← rotationCall .now
  let id := executionId hashes request
  let run ← rotationCall (.run request.organisationId request.runId)
  let now ← rotationCall .now
  raises (validateRequest request run now)
  match ← current request.organisationId id with
  | some result => return result
  | none =>
    let result ← (attempt id run started).tryCatch fun
      | .pause reason output => paused id run started reason output
      | .raised exception => failed id run started exception
      | .http _ text => failed id run started { className := "HTTPStatusError", text }
    rotationCall (.audit result)
    rotationCall (.create result)
    return result

end StageCoordinator
end Uumi.Orchestration
