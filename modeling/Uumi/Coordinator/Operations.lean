import Uumi.Coordinator.Approvals

/-! Operations of a stage: broker calls with their approvals, and the provider steps of a rotation, on the
provider's interface or in a browser. -/
namespace Uumi.Coordinator
open Uumi.Contracts Uumi.Core Uumi.Foundations Uumi.Policy

abbrev Output := List (String × Json)

def Output.text? (output : Output) (key : String) : Option String :=
  match output.lookup key with
  | some (.str value) => some value
  | _ => none

def Output.isTrue (output : Output) (key : String) : Bool :=
  match output.lookup key with
  | some (.bool value) => value
  | _ => false

/-- Take `connection_id` out of a payload. It has to be a text. -/
def popConnection (payload : Parameters) (e : Error) : Except Error (String × Parameters) :=
  match payload.lookup "connection_id" with
  | some (.text id) => .ok (id, payload.filter (·.1 ≠ "connection_id"))
  | _ => .error e

/-- `McpBrokerClient.execute`: the request of the coordinator under the fence of the run. -/
def brokerExecute (peers : Peers) (run : RotationRun) (requestId : Identifier) (connectionId : String)
    (tool : Text 3 128) (payload : Parameters) (approvalId : Option Identifier) : Except Error ToolResult := do
  let connectionId ← Identifier.build connectionId
  let tool ← Text.build 1 128 "tool" tool.value
  if h : 0 < run.fencingToken then
    peers.broker run
      { id := requestId
        organisationId := run.organisationId
        runId := run.id
        agentId := coordinatorId
        tool := tool
        connectionId := connectionId
        payload := payload.map fun entry => (entry.1, ParameterValue.payload entry.2)
        fencingToken := run.fencingToken
        token_pos := h }
      approvalId
  else .error (.validation "fencing_token should be greater than 0")

def operationApproval (hashes : Hashes) (peers : Peers) (catalog : Catalog) (run : RotationRun)
    (step : OperationStep) (isProtected : Bool) (payload : Parameters) (connectionId : String) :
    Except Error (Option Approval) :=
  if isProtected then do
    return some (← approvalForStep hashes peers catalog run { step with isProtected } payload connectionId)
  else return none

def toolOutput (tool : Text 3 128) (result : ToolResult) : Except Error (Output × List Identifier) :=
  if result.succeeded then .ok (result.result, result.evidenceIds)
  else .error (.stageExecution (s!"operation {tool.value} failed: " ++ result.errorCode.getD "None")
    (Output.isTrue result.result "retryable"))

def executeOperation (hashes : Hashes) (peers : Peers) (catalog : Catalog) (run : RotationRun)
    (step : OperationStep) : Except Error (Output × List Identifier) := do
  let version ← control hashes catalog run
  raiseIf (step.tool.value ∉ version.definition.allowedTools)
    (.value s!"operation {step.tool.value} is forbidden by controls")
  let context ← stepContext hashes catalog run
  let payload ← resolve context step.parameters
  let (connectionId, payload) ← popConnection payload (.value s!"operation {step.id.text} has no connection_id")
  let isProtected := decide (step.tool.value ∈ version.definition.protectedTools)
  let approval ← operationApproval hashes peers catalog run step isProtected payload connectionId
  let result ← brokerExecute peers run
    (identify hashes .tool [run.id.text, step.id.text, toString run.fencingToken]) connectionId step.tool payload
    (approval.map Approval.id)
  toolOutput step.tool result

/-- A step at the provider, in a browser or through its interface. -/
inductive ProviderStep where
  | playbook (step : PlaybookStep)
  | operation (step : OperationStep)
  deriving DecidableEq

def ProviderStep.toOperationStep : ProviderStep → OperationStep
  | .playbook step => step.toOperationStep
  | .operation step => step

def protectStep (step : PlaybookStep) (isProtected : Bool) : PlaybookStep where
  toStepFields := { step.toStepFields with isProtected }
  accepted := step.accepted

def providerRevoke (provider : Connection) (isProtected : Bool) : OperationStep where
  id := ⟨"provider_revoke", by decide⟩
  stage := .revoke
  tool := ⟨"provider.revokeCredential", by decide⟩
  operation := revokeOperation
  objective := ⟨"Revoke the superseded credential through the typed provider API.", by decide⟩
  parameters := [("connection_id", .text provider.id.text), ("provider_id", .text "${old_provider_id}")]
  isProtected := isProtected
  evidenceChecks := {"provider-revoked"}
  checks_nonempty := by decide

def stepsOf (tools : Finset String) (context : RotationContext) (stage : Stage) : List ProviderStep :=
  match context.browserPlaybook with
  | some playbook => (playbook.definition.steps.filter (·.stage = stage)).map fun step =>
      .playbook (protectStep step (decide (step.tool.value ∈ tools)))
  | none =>
    if stage = .revoke then
      [.operation (providerRevoke context.provider (decide ("provider.revokeCredential" ∈ tools)))]
    else []

def providerSteps (hashes : Hashes) (catalog : Catalog) (run : RotationRun) (context : RotationContext)
    (stage : Stage) : Except Error (List ProviderStep) := do
  let version ← control hashes catalog run
  return stepsOf version.definition.protectedTools context stage

def deterministicOperations : List (String × String) :=
  [("browser.navigate", "navigate"), ("browser.click", "click"), ("browser.fill", "fill"),
    ("browser.select", "select"), ("browser.secure-capture", "click"), ("browser.revokeCredential", "click")]

def isDeterministicBrowserStep (step : PlaybookStep) : Bool :=
  deterministicOperations.contains (step.tool.value, step.operation.value)

def pauseOutput (run : RotationRun) (step : PlaybookStep) (entries : List (String × Json)) : String :=
  (Json.obj (entries ++ [("run_id", .str run.id.text), ("step_id", .str step.id.text)])).text

def decisionPayload (decision : OperatorDecision) : Json := .obj [
  ("drift_detected", .bool decision.driftDetected), ("expected_checkpoint", .str decision.expectedCheckpoint),
  ("pause_reason", decision.pauseReason.elim .null .str), ("ready", .bool decision.ready),
  ("step_id", .str decision.stepId)]

def pauseReason (decision : OperatorDecision) : String :=
  if decision.pauseReason.getD "" = "" then "Console Operator Agent detected interface drift"
  else decision.pauseReason.getD ""

def checkpointText (hashes : Hashes) (step : PlaybookStep) : String :=
  match step.checkpoint with
  | some checkpoint => s!"checkpoint:{hashes.digest (checkpointPayload checkpoint)}"
  | none => "checkpoint:none"

/-- `_operator_decision`: the decision, with the checkpoint of the step. -/
def operatorDecision (hashes : Hashes) (peers : Peers) (run : RotationRun) (step : PlaybookStep) :
    Except Error OperatorDecision := do
  let result ← peers.agents {
    id := identify hashes .task [run.id.text, step.id.text, "operator", toString run.fencingToken]
    organisationId := run.organisationId
    runId := run.id
    skill := "execute_console_playbook" }
  raiseIf (¬ result.succeeded) (.browserPause "Console Operator Agent could not authorise the browser step"
    (pauseOutput run step [("agent_error", result.error.elim .null .str)]))
  let decision ← required (peers.readDecision result.output)
    (.browserPause "Console Operator Agent returned an invalid decision" (pauseOutput run step []))
  raiseIf (decision.stepId ≠ step.id.text)
    (.browserPause "Console Operator Agent changed the immutable step binding" (pauseOutput run step []))
  let decision := { decision with expectedCheckpoint := checkpointText hashes step }
  raiseIf (¬ decision.ready ∨ decision.driftDetected)
    (.browserPause (pauseReason decision) (pauseOutput run step [("operator", decisionPayload decision)]))
  return decision

def operate (hashes : Hashes) (peers : Peers) (run : RotationRun) (step : PlaybookStep) :
    Except Error (Option OperatorDecision) :=
  if isDeterministicBrowserStep step then return none
  else do return some (← operatorDecision hashes peers run step)

def requiredPlaybook (value : Option PlaybookVersion) : Except Error PlaybookVersion :=
  required value (.value "browser playbook is missing")

def browserApproval (hashes : Hashes) (peers : Peers) (catalog : Catalog) (run : RotationRun)
    (context : RotationContext) (stage : Stage) (step : PlaybookStep) : Except Error (Option Approval) :=
  if step.isProtected then do
    return some (← approvalForStep hashes peers catalog run step.toOperationStep step.parameters
      context.provider.id.text (stage = .create))
  else return none

def executeBrowserStep (hashes : Hashes) (peers : Peers) (catalog : Catalog) (run : RotationRun)
    (context : RotationContext) (stage : Stage) (step : PlaybookStep) : Except Error Output := do
  let values ← stepContext hashes catalog run
  let resolved ← resolvePlaybookStep values step
  let approval ← browserApproval hashes peers catalog run context stage resolved
  let decision ← operate hashes peers run resolved
  let playbook ← requiredPlaybook context.browserPlaybook
  let output ← peers.browser run context.provider playbook resolved approval
  return output ++ (decision.map fun decision => ("operator", decisionPayload decision)).toList

def executeProviderStep (hashes : Hashes) (peers : Peers) (catalog : Catalog) (run : RotationRun)
    (context : RotationContext) (stage : Stage) : ProviderStep → Except Error (Output × List Identifier)
  | .playbook step => do return (← executeBrowserStep hashes peers catalog run context stage step, [])
  | .operation step => executeOperation hashes peers catalog run step

def executeProviderSteps (hashes : Hashes) (peers : Peers) (catalog : Catalog) (run : RotationRun)
    (context : RotationContext) (stage : Stage) : Except Error (List Output × List Identifier) := do
  let steps ← providerSteps hashes catalog run context stage
  raiseIf (steps = []) (.value s!"provider execution has no {stage.value} steps")
  let results ← collect steps (executeProviderStep hashes peers catalog run context stage)
  return (results.map Prod.fst, (results.flatMap Prod.snd).eraseDups)

end Uumi.Coordinator
