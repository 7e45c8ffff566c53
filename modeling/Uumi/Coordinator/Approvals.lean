import Uumi.Coordinator.Resolution
import Uumi.Coordinator.Verification

/-! Approvals of protected operations: the action is rebuilt from the step and from what the catalog says,
and compared with the stored action that was approved. -/
namespace Uumi.Coordinator
open Uumi.Contracts Uumi.Core Uumi.Foundations Uumi.Policy

def secretKeys : List String :=
  ["api_key", "authorization", "credential_material", "password", "private_key", "secret", "token", "value"]

/-- `_approval_parameters`: canonical JSON has these parameters as they are. -/
def approvalParameters (hashes : Hashes) (value : Parameters) : Except Error Parameters := do
  raiseIf (∃ entry ∈ value, hashes.lower entry.1 ∈ secretKeys)
    (.value "protected action parameters contain credential material")
  return value

def resourceKeys : List String := ["provider_id", "secret_resource", "version", "resource", "service"]

def resourceOf (parameters : Parameters) (operation : String) : String :=
  (parameters.findSome? fun
    | (key, .text value) => if key ∈ resourceKeys then some value else none
    | _ => none).getD operation

/-- `_approval_evidence_hash`: a revocation rests on the latest passed report, everything else on the plan. -/
def approvalEvidenceHash (hashes : Hashes) (peers : Peers) (catalog : Catalog) (run : RotationRun)
    (stage : Stage) : Except Error Digest :=
  if stage = .revoke then do
    let report ← latestReport hashes peers catalog run run.targetGenerationId
    return hashes.digest (reportPayload hashes.toHashing report)
  else do
    let plan ← getPlan catalog run
    raiseIf (some (hashes.digest (planPayload plan)) ≠ run.planHash) (.value "rotation plan digest changed")
    return hashes.digest (planPayload plan)

/-- What an action is made of besides its step. -/
structure ActionContext where
  planHash : Digest
  credential : ManagedCredential
  generationId : Identifier
  generation : CredentialGeneration
  evidenceHash : Digest
  parameters : Parameters

/-- The reads of `_approval_for_step` before it rebuilds the action. -/
def actionContext (hashes : Hashes) (peers : Peers) (catalog : Catalog) (run : RotationRun) (step : OperationStep)
    (payload : Parameters) : Except Error ActionContext := do
  raiseIf (run.planId = none) (.value "protected action has no immutable rotation plan")
  let planHash ← required run.planHash (.value "protected action has no immutable rotation plan")
  let credential ← credential catalog run
  let generationId ← requiredId run.currentGenerationId "current generation"
  let generation ← getGeneration catalog run.organisationId generationId
  let evidenceHash ← approvalEvidenceHash hashes peers catalog run step.stage
  let parameters ← approvalParameters hashes payload
  return { planHash, credential, generationId, generation, evidenceHash, parameters }

def actionProvider (context : ActionContext) : Option (Text 0 256) :=
  if ((context.generation.providerId.map Text.value).getD "") = "" then context.credential.providerId
  else context.generation.providerId

def withEntry (key : String) (value : ParameterValue) (parameters : Parameters) : Parameters :=
  (key, (parameters.lookup key).getD value) :: parameters.filter (·.1 ≠ key)

def actionFor (hashes : Hashes) (run : RotationRun) (step : OperationStep) (connectionId : String)
    (context : ActionContext) (fencingToken : Nat) : Except Error ProtectedAction := do
  let provider ← required (actionProvider context) (.value "protected action provider ID is missing")
  let kind ← Text.build 1 96 "kind" step.tool.value
  let resource ← Text.build 1 512 "resource" (resourceOf context.parameters step.operation.value)
  let providerId ← Text.build 1 256 "provider_id" provider.value
  return {
    id := identify hashes .action [run.id.text, step.id.text, toString fencingToken,
      hashes.digest (parametersPayload context.parameters)]
    organisationId := run.organisationId
    runId := run.id
    kind := kind
    resource := resource
    credentialId := context.credential.id
    generationId := context.generationId
    providerId := providerId
    controlVersion := run.controlVersion
    playbookVersion := run.browserPlaybookVersion
    planHash := context.planHash
    evidenceHash := context.evidenceHash
    preconditions := [
      ("stage", some (.text step.stage.value)),
      ("fencing_token", some (.number fencingToken)),
      ("connection_id", some (.text (strip connectionId))),
      ("current_generation_id", run.currentGenerationId.map fun i => .text i.text),
      ("target_generation_id", run.targetGenerationId.map fun i => .text i.text)]
    parameters := withEntry "step_id" (.text step.id.text) context.parameters }

def candidateTokens (run : RotationRun) (allowPreviousFence : Bool) : List Nat :=
  if allowPreviousFence ∧ 1 < run.fencingToken then [run.fencingToken, run.fencingToken - 1]
  else [run.fencingToken]

def approvalsOf (catalog : Catalog) (run : RotationRun) (approvals : List Approval) (candidate : ProtectedAction) :
    Except Error (List Approval) :=
  collect (approvals.filter (·.actionId = candidate.id)) fun approval => do
    let stored ← found (catalog.actions (run.organisationId, approval.actionId))
      (FirestorePaths.action run.organisationId approval.actionId)
    raiseIf (stored.equals candidate = false) (.value "protected action changed after approval request")
    return approval

def matchCandidates (catalog : Catalog) (run : RotationRun) (approvals : List Approval) :
    List ProtectedAction → Except Error (Option (ProtectedAction × List Approval))
  | [] => return none
  | candidate :: rest => do
    let current ← approvalsOf catalog run approvals candidate
    if current = [] then matchCandidates catalog run approvals rest
    else return some (candidate, current)

def approvalRequest (action : ProtectedAction) : Json := .obj [
  ("action", protectedActionDump action), ("evidence_hash", .str action.evidenceHash),
  ("plan_hash", .str action.planHash)]

def pendingOutput (run : RotationRun) (step : OperationStep) (action : ProtectedAction) : String :=
  (Json.obj [("approval_request", approvalRequest action), ("run_id", .str run.id.text),
    ("step_id", .str step.id.text)]).text

def ungrantedOutput (run : RotationRun) (step : OperationStep) (action : ProtectedAction) (approval : Approval) :
    String :=
  (Json.obj [("approval_id", .str approval.id.text), ("approval_request", approvalRequest action),
    ("run_id", .str run.id.text), ("step_id", .str step.id.text)]).text

def checkApproval (hashes : Hashes) (peers : Peers) (run : RotationRun) (step : OperationStep)
    (action : ProtectedAction) (approval : Approval) : Except Error Unit := do
  raiseIf (approval.actionDigest ≠ hashes.digest (protectedActionPayload action) ∨
      approval.planHash ≠ action.planHash ∨ approval.evidenceHash ≠ action.evidenceHash ∨
      approval.generationId ≠ action.generationId)
    (.value "protected action approval bindings changed")
  raiseIf (approval.decision = .rejected) (.value "protected action approval was rejected")
  raiseIf (approval.decision ≠ .approved ∨ approval.consumedAt = none)
    (.browserPause "protected action approval must be granted and consumed" (ungrantedOutput run step action approval))
  raiseIf (approval.expiresAt ≤ peers.clock (.approving step.id)) (.value "protected action approval expired")

def soleApproval (run : RotationRun) (step : OperationStep) (requested : ProtectedAction) :
    Option (ProtectedAction × List Approval) → Except Error (ProtectedAction × Approval)
  | none => .error (.browserPause "protected action approval is pending" (pendingOutput run step requested))
  | some (action, [approval]) => .ok (action, approval)
  | some (_, _) => .error (.value "protected action has multiple approval records")

/-- `_approval_for_step`. A resumed run asks under the next fence, as resuming takes one more. -/
def approvalForStep (hashes : Hashes) (peers : Peers) (catalog : Catalog) (run : RotationRun) (step : OperationStep)
    (payload : Parameters) (connectionId : String) (allowPreviousFence : Bool := false)
    (allowResumeFence : Bool := false) : Except Error Approval := do
  let context ← actionContext hashes peers catalog run step payload
  let approvals := peers.queryApprovals catalog.approvals run.organisationId run.id
  let candidates ← collect (candidateTokens run allowPreviousFence)
    (actionFor hashes run step connectionId context)
  let requested ← actionFor hashes run step connectionId context
    (if allowResumeFence then run.fencingToken + 1 else run.fencingToken)
  let matching ← matchCandidates catalog run approvals candidates
  let (action, approval) ← soleApproval run step requested matching
  checkApproval hashes peers run step action approval
  return approval

end Uumi.Coordinator
