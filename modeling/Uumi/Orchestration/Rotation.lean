import Uumi.Contracts.Event
import Uumi.Foundations.Retries
import Uumi.Orchestration.Stages

/-! The rotation workflow. An event of a run starts an execution, which has the coordinator execute one stage after the
other and writes through the API what came of each. -/
namespace Uumi.Orchestration
open Uumi.Contracts Uumi.Coordinator Uumi.Core Uumi.Foundations Uumi.Policy Uumi.Storage
open Uumi.Foundations.Program

def Fault.transient : Fault → Bool
  | .http transient _ => transient
  | _ => false

def Fault.text : Fault → String
  | .http _ text => text
  | .raised exception => exception.text
  | .pause reason _ => reason

def remote {α : Type} (p : RotationM α) : RotationM α :=
  p.tryCatch fun
    | .http transient text => lift (.error (.http transient text))
    | _ => do
      let (transient, text) ← rotationCall .response
      lift (.error (.http transient text))

/-- `http.default_retry`. -/
def retrying {α : Type} (p : RotationM α) : RotationM α := p.retry Fault.transient 5

def secondsAfter (now : AwareDatetime) (seconds : Int) : AwareDatetime where
  instant := now.instant + seconds * 1000000
  offset := 0

/-- The identity of the workflow, and how it names things. -/
structure Orchestrator where
  hashes : Hashes
  subject : String
  actorId : Identifier

namespace Orchestrator
variable (orchestrator : Orchestrator)

def commandId (organisationId : Identifier) (key : String) : Identifier where
  text := "cmd" ++ "_" ++ (orchestrator.hashes.checksum (joined [orchestrator.subject, organisationId.text, key])).text
  accepted := named_accepts (by decide) _

def base (organisationId runId : Identifier) (key : String) (expectedRevision : Nat) : Except Error CommandBase := do
  raiseIf (key.length < 8 ∨ 256 < key.length) (.validation "Idempotency-Key should have between 8 and 256 characters")
  return {
    id := orchestrator.commandId organisationId key
    organisationId
    runId
    actorId := orchestrator.actorId
    expectedRevision }

def failure (message : String) (retryable : Bool) (evidenceIds : List Identifier) : Except Error Failure := do
  let message ← Text.build 1 1024 "message" message
  return { code := ⟨"stage-execution-failed", by decide⟩, message, retryable, evidenceIds }

def proof (current : RotationRun) (result : StageExecutionResult) : Except Error StageProof :=
  if h : result.evidenceIds ≠ [] ∧ result.checks ≠ ∅ then
    .ok {
      runId := current.id
      organisationId := current.organisationId
      stage := current.stage
      checks := result.checks
      evidenceIds := result.evidenceIds
      actorId := orchestrator.actorId
      recordedAt := result.completedAt
      checks_nonempty := h.2
      evidence_nonempty := h.1 }
  else .error (.validation "stage proof requires checks and evidence")

def post (command : RotationM RunCommand) : RotationM MutationResult :=
  retrying (remote do
    let command ← command
    rotationCall (.mutate command))

/-- What an execution of the workflow returns. -/
inductive Report where
  | completed (runId : Identifier) (revision : Nat)
  | compensated (runId : Identifier) (failedStage : Option Stage) (mode : Option RecoveryMode)
      (evidenceIds : List Identifier)
  | failed (run : RotationRun)
  | paused (run : RotationRun) (reason : Option String)
  | ignored (kind : EventKind)

/-- An execution that failed, as the coordinator recorded it or as the workflow makes it up. -/
structure StageFailure where
  id : String
  reason : String
  retryable : Bool
  evidenceIds : List Identifier

def StageFailure.ofResult (result : StageExecutionResult) : StageFailure where
  id := result.id.text
  reason := result.reason.getD ""
  retryable := result.retryable
  evidenceIds := result.evidenceIds

/-- `bind_execution_error`. -/
def StageFailure.ofFault (current : RotationRun) (fault : Fault) : StageFailure where
  id := current.id.text ++ "-" ++ current.stage.value ++ "-exception-" ++ s!"{current.revision}"
  reason := String.ofList (fault.text.toList.take 1000)
  retryable := true
  evidenceIds := []

def startRun (event : RunEvent) (current : RotationRun) : RotationM MutationResult :=
  post do
    let now ← rotationCall .now
    let base ← raises (orchestrator.base event.organisationId event.runId (event.id.text ++ "-start") current.revision)
    return .start { base with ownerId := orchestrator.actorId, expiresAt := secondsAfter now 1800 }

def stageRequest (current : RotationRun) : Except Error StageExecutionRequest :=
  if h : 0 < current.fencingToken then
    .ok {
      organisationId := current.organisationId
      runId := current.id
      stage := current.stage
      expectedRevision := current.revision
      fencingToken := current.fencingToken
      token_pos := h }
  else .error (.validation "fencing_token should be greater than 0")

/-- `execute_stage`. -/
def callCoordinator (current : RotationRun) : RotationM StageExecutionResult :=
  retrying (remote do
    let request ← raises (stageRequest current)
    StageCoordinator.execute orchestrator.hashes request)

def renewLease (current : RotationRun) (key : String) (seconds : Int) : RotationM MutationResult :=
  post do
    let now ← rotationCall .now
    let base ← raises (orchestrator.base current.organisationId current.id key current.revision)
    return .renew { base with
      ownerId := orchestrator.actorId
      expiresAt := secondsAfter now seconds
      fencingToken := current.fencingToken }

def terminalCheck (again : RotationRun → RotationM Report) (event : RunEvent) (current : RotationRun) :
    RotationM Report :=
  match current.status with
  | .completed => return .completed current.id current.revision
  | .compensated =>
    return .compensated current.id current.recoveryStage current.recoveryMode current.recoveryEvidenceIds
  | .running | .recovering => do
    let renewed : MutationResult ←
      orchestrator.renewLease current (current.id.text ++ "-renew-" ++ s!"{current.revision}") 1800
    again renewed.run
  | _ => return .ignored event.kind

def observationSeconds (output : Output) : Except Error Int :=
  match output.lookup "observation_seconds" with
  | some (.int seconds) => .ok seconds
  | _ => .error (.key "observation_seconds")

/-- `extend_observation_lease`, and the wait after it. -/
def observe (again : RotationRun → RotationM Report) (current : RotationRun) (result : StageExecutionResult) :
    RotationM Report := do
  let seconds ← raises (observationSeconds result.output)
  let renewed : MutationResult ←
    orchestrator.renewLease current (result.id.text ++ "-observation-lease") (seconds + 300)
  rotationCall (.sleep seconds)
  again renewed.run

def completeStage (again : RotationRun → RotationM Report) (event : RunEvent) (current : RotationRun)
    (result : StageExecutionResult) : RotationM Report := do
  let advanced : MutationResult ← post do
    let base ← raises (orchestrator.base current.organisationId current.id (result.id.text ++ "-complete") current.revision)
    let proof ← raises (orchestrator.proof current result)
    return .complete { base with fencingToken := current.fencingToken, proof, bindings := result.bindings }
  if result.stage = .rollout then
    orchestrator.observe again advanced.run result
  else
    orchestrator.terminalCheck again event advanced.run

def completeRecovery (again : RotationRun → RotationM Report) (event : RunEvent) (current : RotationRun)
    (result : StageExecutionResult) : RotationM Report := do
  let recovered : MutationResult ← post do
    let base ← raises (orchestrator.base current.organisationId current.id (result.id.text ++ "-complete") current.revision)
    let recoveryId ← raises (required (Output.text? result.output "recovery_id") (.key "recovery_id"))
    let recoveryId ← raises (Identifier.build recoveryId)
    let mode ← raises (required result.recoveryMode (.validation "mode should be a recovery mode"))
    raises (raiseIf (result.evidenceIds = []) (.validation "evidence_ids should have at least one item"))
    return .completeRecovery { base with
      fencingToken := current.fencingToken
      recoveryId
      mode
      evidenceIds := result.evidenceIds }
  orchestrator.terminalCheck again event recovered.run

def pauseRun (current : RotationRun) (result : StageExecutionResult) : RotationM Report := do
  let paused : MutationResult ← post do
    let base ← raises (orchestrator.base current.organisationId current.id (result.id.text ++ "-pause") current.revision)
    return .pause { base with fencingToken := current.fencingToken }
  return .paused paused.run result.reason

def recoverable : List Stage := [.deploy, .verify, .rollout, .observe]

def recoveryCheck (again : RotationRun → RotationM Report) (current : RotationRun) (failed : StageFailure) :
    RotationM Report :=
  if current.status ≠ .recovering ∧ current.stage ∈ recoverable then do
    let cleaned : MutationResult ← post do
      let base ← raises (orchestrator.base current.organisationId current.id (failed.id ++ "-cleanup") current.revision)
      let failure ← raises (failure failed.reason failed.retryable failed.evidenceIds)
      return .cleanup { base with fencingToken := current.fencingToken, failure }
    let recovering : MutationResult ← post do
      let now ← rotationCall .now
      let base ← raises (orchestrator.base current.organisationId current.id (failed.id ++ "-recover") cleaned.run.revision)
      return .recover { base with ownerId := orchestrator.actorId, expiresAt := secondsAfter now 1800 }
    again recovering.run
  else do
    let stopped : MutationResult ← post do
      let base ← raises (orchestrator.base current.organisationId current.id (failed.id ++ "-fail") current.revision)
      let failure ← raises (failure failed.reason failed.retryable failed.evidenceIds)
      return .fail { base with fencingToken := current.fencingToken, failure }
    return .failed stopped.run

def executeStages (event : RunEvent) : Nat → RotationRun → RotationM Report
  | 0, _ => lift (.error (.http false "ResourceLimitError"))
  | limit + 1, current => do
    match ← (orchestrator.callCoordinator current).attempted with
    | .error fault =>
      orchestrator.recoveryCheck (executeStages event limit) current (.ofFault current fault)
    | .ok result =>
      match result.status with
      | .paused => orchestrator.pauseRun current result
      | .succeeded => orchestrator.completeStage (executeStages event limit) event current result
      | .recovered => orchestrator.completeRecovery (executeStages event limit) event current result
      | .failed => orchestrator.recoveryCheck (executeStages event limit) current (.ofResult result)

def accepted : List EventKind := [.runCreated, .runResumed, .recoveryStarted]

def rotate (limit : Nat) (event : RunEvent) : RotationM Report :=
  if event.kind ∈ accepted then do
    let current : RotationRun ← retrying (remote (rotationCall (.run event.organisationId event.runId)))
    match current.status with
    | .pending => do
      let started : MutationResult ← orchestrator.startRun event current
      orchestrator.executeStages event limit started.run
    | .running | .recovering => orchestrator.executeStages event limit current
    | .completed => return .completed current.id current.revision
    | _ => return .ignored event.kind
  else return .ignored event.kind

end Orchestrator
end Uumi.Orchestration
