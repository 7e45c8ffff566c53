import Uumi.Broker.Storage
import Uumi.Broker.Validate
import Uumi.Foundations.Interaction

/-! The tool broker. Executing a request is a program that calls the repository, the clock, a connector, the secret
store, the evidence sink and the audit log; every one of these calls may raise. -/
namespace Uumi.Broker
open Uumi.Contracts Uumi.Core Uumi.Foundations Uumi.Policy Uumi.Coordinator
open Uumi.Foundations.Program (lift)

/-- What the broker knows of a connector: its tools, whether it reconciles mutations, whether it is the secret
manager. -/
structure Connector where
  name : String
  tools : Finset String
  reconcilesMutations : Bool
  secretManager : Bool
  deriving DecidableEq

abbrev ConnectorRegistry := List ((ConnectionRole × ConnectionInterface × String) × Connector)

/-- `ConnectorRegistry.resolve`. A provider without a connector of its own platform uses the one of every platform. -/
def ConnectorRegistry.resolve (registry : ConnectorRegistry) (connection : Connection) (tool : String) :
    Except Error Connector := do
  let role ← toolRole tool
  raiseIf (role ∉ connection.roles)
    (.capability s!"connection {connection.id.text} does not provide the {role.value} role")
  let exactly := registry.lookup (role, connection.interface, connection.platform.value)
  let connector := if role = .provider then exactly.or (registry.lookup (role, connection.interface, "*")) else exactly
  let missing := Error.capability
    s!"no connector provides {tool} for {role.value}/{connection.interface.value}/{connection.platform.value}"
  let connector ← required connector missing
  raiseIf (tool ∉ connector.tools) missing
  return connector

def secretManagerConnector : Connector where
  name := "SecretManagerConnector"
  tools := {"secretStore.getVersion", "secretStore.testConsumerAccess", "secretStore.disableVersion",
    "secretStore.destroyVersion"}
  reconcilesMutations := false
  secretManager := true

def httpProviderConnector : Connector where
  name := "HttpProviderConnector"
  tools := {"provider.listCredentialMetadata", "provider.createCredential", "provider.getCredentialStatus",
    "provider.revokeCredential", "provider.testCredential"}
  reconcilesMutations := true
  secretManager := false

def cloudRunConnector : Connector where
  name := "CloudRunConnector"
  tools := {"runtime.inspectSecretBindings", "runtime.listServices", "runtime.deployCandidate",
    "runtime.shiftTraffic", "runtime.rollback"}
  reconcilesMutations := false
  secretManager := false

def ConnectorRegistry.registered : ConnectorRegistry := [
  ((.secretStore, .api, "google-secret-manager"), secretManagerConnector),
  ((.secretStore, .api, "google-cloud"), secretManagerConnector),
  ((.provider, .api, "*"), httpProviderConnector),
  ((.runtime, .api, "cloud-run"), cloudRunConnector),
  ((.runtime, .api, "google-cloud"), cloudRunConnector)]

/-- What a connector returns. -/
structure ConnectorResponse where
  result : List (String × Json)
  /-- Kind, content and content type of each piece. -/
  evidence : List (String × String × String) := []
  secret : Option String := none

inductive Call where
  | attempt (request : ToolRequest) (requestHash : Digest)
  | begin (request : ToolRequest) (requestHash : Digest) (reconciliation : Parameters)
      (now leaseExpiresAt : AwareDatetime)
  | reclaim (request : ToolRequest) (requestHash : Digest) (expectedExpiry now leaseExpiresAt : AwareDatetime)
  | checkpoint (request : ToolRequest) (requestHash : Digest) (result : ToolResult)
  | finish (request : ToolRequest) (requestHash : Digest) (result : ToolResult) (now : AwareDatetime)
  | run (organisationId runId : Identifier)
  | connection (organisationId connectionId : Identifier)
  | credential (organisationId credentialId : Identifier)
  | bindings (organisationId credentialId : Identifier)
  | controls (organisationId credentialId versionId : Identifier)
  | approval (organisationId approvalId : Identifier)
  | action (organisationId actionId : Identifier)
  | clock
  | prepare (connector : Connector) (tool : String) (payload : List (String × Json)) (context : ConnectorContext)
  | reconcile (connector : Connector) (tool : String) (payload : List (String × Json)) (state : Parameters)
      (context : ConnectorContext)
  | execute (connector : Connector) (tool : String) (payload : List (String × Json)) (context : ConnectorContext)
  | versionsFor (sink : Connection) (secret : String)
  | addVersionFor (sink : Connection) (secret value : String)
  | disableFor (sink : Connection) (version : String)
  | store (organisationId runId : Identifier) (kind content contentType : String) (now : AwareDatetime)
  | audit (request : ToolRequest) (requestHash : Digest) (result : ToolResult)

namespace Call

abbrev Answer : Call → Type
  | attempt .. => Option ToolAttempt
  | begin .. | reclaim .. | checkpoint .. | finish .. | disableFor .. | audit .. => Unit
  | run .. => RotationRun
  | connection .. => Connection
  | credential .. => ManagedCredential
  | bindings .. => List ConsumerBinding
  | controls .. => ControlVersion
  | approval .. => Approval
  | action .. => ProtectedAction
  | clock => AwareDatetime
  | prepare .. => Parameters
  | reconcile .. => Option ConnectorResponse
  | execute .. => ConnectorResponse
  | versionsFor .. => List (List (String × Json))
  | addVersionFor .. => List (String × Json)
  | store .. => Identifier

/-- The calls of connectors and of the secret store. -/
def IsConnector : Call → Prop
  | prepare .. | reconcile .. | execute .. | versionsFor .. | addVersionFor .. | disableFor .. => True
  | _ => False

end Call

abbrev BrokerM := Program Call Call.Answer Error

abbrev call (op : Call) : BrokerM op.Answer := .perform op

/-- The fixed parts of a broker. -/
structure BrokerService where
  hashes : Hashes
  capabilities : CapabilityKeys
  connectors : ConnectorRegistry
  attemptLeaseSeconds : Nat := 120

def BrokerService.leaseEnd (broker : BrokerService) (now : AwareDatetime) : AwareDatetime :=
  { now with instant := now.instant + broker.attemptLeaseSeconds * 1000000 }

def segment (value : String) : Except Error Identifier :=
  if h : identifierAccepts value = true then .ok ⟨value, h⟩
  else .error (.validation "value should match the identifier pattern")

/-- `_string`. -/
def stringOf (payload : List (String × Json)) (key : String) : Except Error String :=
  match textOf payload key with
  | some value => if value = "" then .error (.connector "invalid-parameter" s!"{key} is required" false) else .ok value
  | none => .error (.connector "invalid-parameter" s!"{key} is required" false)

/-- `{**first, **second}`. -/
def merge {α : Type} (first second : List (String × α)) : List (String × α) :=
  first.map (fun entry => (entry.1, (second.lookup entry.1).getD entry.2)) ++
    second.filter fun entry => (first.lookup entry.1).isNone

def validateApproval (broker : BrokerService) (request : ToolRequest) (claims : CapabilityClaims) (approvalId : String) :
    BrokerM Unit := do
  let approvalId ← lift (segment approvalId)
  let approval ← call (.approval request.organisationId approvalId)
  let action ← call (.action request.organisationId approval.actionId)
  lift (raiseIf (approval.decision ≠ .approved ∨ approval.consumedAt = none)
    (.approval "protected action approval has not been consumed"))
  lift (raiseIf (approval.runId ≠ request.runId ∨ action.runId ≠ request.runId)
    (.approval "protected action belongs to another run"))
  lift (raiseIf (action.kind.value ≠ request.tool.value)
    (.approval "protected action does not match the requested tool"))
  let actionHash := broker.hashes.digest (protectedActionPayload action)
  lift (raiseIf (claims.actionDigest ≠ actionHash ∨ approval.actionDigest ≠ actionHash)
    (.approval "protected action digest changed after approval"))

def authorizeMutation (broker : BrokerService) (request : ToolRequest) (run : RotationRun) (requestHash : Digest)
    (token : Option String) : BrokerM Unit := do
  let token ← lift (required token (.capability "mutating tools require an action capability"))
  let now ← call .clock
  let claims ← lift (verify broker.capabilities token now)
  lift (validateCapability broker.hashes.toHashing request run claims)
  match claims.approvalId with
  | none => lift (raiseIf (claims.actionDigest ≠ requestHash)
      (.capability "automatic capability action digest changed"))
  | some approvalId => validateApproval broker request claims approvalId

/-- What `execute` knows of an admitted request. -/
structure Admission where
  previous : Option ToolAttempt
  run : RotationRun
  connection : Connection
  credential : ManagedCredential
  now : AwareDatetime

def BrokerService.requestHash (broker : BrokerService) (request : ToolRequest) : Digest :=
  requestDigest broker.hashes.toHashing request.tool.value request.payload

def admitted (broker : BrokerService) (request : ToolRequest) (capability : Option String)
    (previous : Option ToolAttempt) : BrokerM Admission := do
  let run ← call (.run request.organisationId request.runId)
  let connection ← call (.connection request.organisationId request.connectionId)
  let credential ← call (.credential request.organisationId run.credentialId)
  let bindings ← call (.bindings request.organisationId run.credentialId)
  let controls ← call (.controls request.organisationId run.credentialId run.controlVersion)
  let now ← call .clock
  lift (validateRequest broker.hashes.lower request run connection credential bindings controls now)
  if request.tool.value ∉ readTools then
    authorizeMutation broker request run (broker.requestHash request) capability
  return { previous, run, connection, credential, now }

/-- The first part of `execute`: read the attempt of the request, and admit it. -/
def admission (broker : BrokerService) (request : ToolRequest) (capability : Option String) : BrokerM Admission := do
  let previous ← call (.attempt request (broker.requestHash request))
  admitted broker request capability previous

def Admission.context (admission : Admission) (request : ToolRequest) : ConnectorContext where
  requestId := request.id
  agentId := request.agentId
  connection := admission.connection
  run := admission.run
  now := admission.now
  idempotencyKey := request.id

def validateSecretSink (sink : Connection) (credential : ManagedCredential) (secretResource : String) :
    Except Error Unit := do
  raiseIf (sink.id ≠ credential.secretStoreConnectionId ∨ .secretStore ∉ sink.roles ∨ sink.interface ≠ .api)
    (.connector "secret-sink-not-assigned" "secret sink is not assigned to the credential" false)
  raiseIf (secretResource ≠ credential.secretResource.value)
    (.connector "secret-sink-mismatch" "secret resource differs from the credential mapping" false)
  raiseIf (¬ ∃ boundary ∈ sink.allowedResources,
      secretResource = boundary ∨ underBoundary secretResource boundary = true)
    (.connector "secret-sink-boundary" "secret resource escapes the assigned sink" false)

/-- `_secret_sink`: the connection and the resource that take the secret. -/
def secretSink (broker : BrokerService) (request : ToolRequest) (credential : ManagedCredential) :
    BrokerM (Connection × String) := do
  let sinkId ← lift (stringOf request.payload "sink_connection_id")
  let secretResource ← lift (stringOf request.payload "secret_resource")
  let sinkId ← lift (segment sinkId)
  let sink ← call (.connection request.organisationId sinkId)
  lift (validateSecretSink sink credential secretResource)
  let connector ← lift (broker.connectors.resolve sink "secretStore.getVersion")
  lift (raiseIf (connector.secretManager = false)
    (.connector "unsupported-secret-sink" "secret sink cannot accept direct secret transfer" false))
  return (sink, secretResource)

/-- `_compensate_created_credential`. -/
def compensate (broker : BrokerService) (response : ConnectorResponse) (context : ConnectorContext) : BrokerM Unit := do
  let providerId ← lift (required (textOf response.result "provider_id")
    (.connector "secret-transfer-cleanup" "created credential has no provider ID for cleanup" false))
  let connector ← lift (broker.connectors.resolve context.connection "provider.revokeCredential")
  let revoke : BrokerM Unit := do
    let _ ← call (.execute connector "provider.revokeCredential" [("provider_id", .str providerId)] context)
  revoke.tryCatch fun
    | .connector .. | .ambiguousMutation .. => lift (.error (.connector "secret-transfer-cleanup"
        "secret transfer failed and provider credential cleanup also failed" false))
    | e => lift (.error e)

/-- Write the secret. Where that fails, try to clean up, and leave the outcome to reconciliation. -/
def addVersion (broker : BrokerService) (sink : Connection) (secretResource secret : String) (response : ConnectorResponse)
    (context : ConnectorContext) : BrokerM (List (String × Json)) :=
  (call (.addVersionFor sink secretResource secret)).tryCatch fun _ => do
    (compensate broker response context).tryCatch fun _ => return
    lift (.error (.ambiguousMutation "secret version write outcome requires reconciliation"))

def transferSecret (broker : BrokerService) (request : ToolRequest) (credential : ManagedCredential)
    (response : ConnectorResponse) (secret : String) (context : ConnectorContext) : BrokerM ConnectorResponse := do
  let (sink, secretResource) ← secretSink broker request credential
  let stored ← addVersion broker sink secretResource secret response context
  return { result := merge response.result stored, evidence := response.evidence }

/-- What follows a failed transfer: unless its outcome is open, the created credential is cleaned up. -/
def abandonTransfer (broker : BrokerService) (response : ConnectorResponse) (context : ConnectorContext) :
    Error → BrokerM ConnectorResponse
  | .ambiguousMutation message => lift (.error (.ambiguousMutation message))
  | e => do
    compensate broker response context
    match e with
    | .connector .. => lift (.error e)
    | _ => lift (.error (.connector "secret-transfer-failed" "created credential could not be stored" false))

def storeProviderSecret (broker : BrokerService) (request : ToolRequest) (credential : ManagedCredential)
    (response : ConnectorResponse) (context : ConnectorContext) : BrokerM ConnectorResponse :=
  if request.tool.value ≠ "provider.createCredential" then
    match response.secret with
    | some _ => lift (.error (.connector "unexpected-secret"
        "connector returned a secret for a non-creation tool" false))
    | none => return response
  else
    match response.secret with
    | none => lift (.error (.connector "provider-secret-missing"
        "provider returned no one-time credential secret" false))
    | some secret =>
      (transferSecret broker request credential response secret context).tryCatch
        (abandonTransfer broker response context)

def containsSensitive (lower : String → String) (state : Parameters) : Bool :=
  state.any fun entry => lower entry.1 ∈ ["secret", "api_key", "password", "token", "value"]

def versionNames (versions : List (List (String × Json))) : List String :=
  versions.filterMap fun item => textOf item "name"

def sinkState (broker : BrokerService) (request : ToolRequest) (credential : ManagedCredential) : BrokerM Parameters :=
  if request.tool.value = "provider.createCredential" then do
    let (sink, secretResource) ← secretSink broker request credential
    let versions ← call (.versionsFor sink secretResource)
    return [("secret_resource", .text secretResource),
      ("before_secret_versions", .texts ((versionNames versions).insertionSort (· ≤ ·)))]
  else return []

def prepare (broker : BrokerService) (connector : Connector) (request : ToolRequest) (context : ConnectorContext)
    (credential : ManagedCredential) : BrokerM Parameters :=
  if connector.reconcilesMutations then do
    let value ← call (.prepare connector request.tool.value request.payload context)
    let state ← sinkState broker request credential
    let value := merge value state
    lift (raiseIf (containsSensitive broker.hashes.lower value = true) (.connector "invalid-reconciliation-state"
      "connector reconciliation state is invalid or contains sensitive material" false))
    return value
  else return []

def newVersions (before : List String) (versions : List (List (String × Json))) : List String :=
  versions.filterMap fun item => match textOf item "name" with
    | some name => if name ∉ before ∧ textOf item "state" = some "ENABLED" then some name else none
    | none => none

def recordedVersions (state : Parameters) (secretResource : String) : Option (List String) :=
  match state.lookup "secret_resource", state.lookup "before_secret_versions" with
  | some (.text resource), some (.texts before) => if resource = secretResource then some before else none
  | _, _ => none

def reconcileSecretSink (broker : BrokerService) (request : ToolRequest) (credential : ManagedCredential)
    (state : Parameters) : BrokerM Unit := do
  let (sink, secretResource) ← secretSink broker request credential
  let before ← lift (required (recordedVersions state secretResource)
    (.ambiguousMutation "secret sink reconciliation checkpoint is invalid"))
  let versions ← call (.versionsFor sink secretResource)
  match newVersions before versions with
  | [] => return
  | [name] => call (.disableFor sink name)
  | _ => lift (.error (.ambiguousMutation "stale secret write has multiple attributable cleanup candidates"))

def reconcile (broker : BrokerService) (connector : Connector) (request : ToolRequest) (context : ConnectorContext)
    (credential : ManagedCredential) (state : Parameters) : BrokerM (Option ConnectorResponse) := do
  lift (raiseIf (connector.reconcilesMutations = false) (.connector "stale-mutation-unrecoverable"
    "connector cannot reconcile an expired mutation attempt" false))
  let value ← call (.reconcile connector request.tool.value request.payload state context)
  if request.tool.value = "provider.createCredential" then
    reconcileSecretSink broker request credential state
  return value

def writeEvidence (request : ToolRequest) (now : AwareDatetime) :
    List (String × String × String) → BrokerM (List Identifier)
  | [] => return []
  | (kind, content, contentType) :: rest => do
    let stored ← call (.store request.organisationId request.runId kind content contentType now)
    return stored :: (← writeEvidence request now rest)

/-- Store the secret and the evidence of a response, and record its result before the attempt ends. -/
def settle (broker : BrokerService) (request : ToolRequest) (admission : Admission) (response : ConnectorResponse) :
    BrokerM ToolResult := do
  let response ← storeProviderSecret broker request admission.credential response (admission.context request)
  let evidenceIds ← writeEvidence request admission.now response.evidence
  let result : ToolResult := { requestId := request.id, succeeded := true, result := response.result, evidenceIds }
  call (.checkpoint request (broker.requestHash request) result)
  return result

def finish (broker : BrokerService) (request : ToolRequest) (result : ToolResult) : BrokerM Unit := do
  let now ← call .clock
  call (.finish request (broker.requestHash request) result now)

def failure (request : ToolRequest) (code : String) (retryable : Bool) : ToolResult where
  requestId := request.id
  succeeded := false
  errorCode := some code
  result := [("retryable", .bool retryable)]

/-- Execute the tool and settle its response. -/
def mutate (broker : BrokerService) (connector : Connector) (request : ToolRequest) (admission : Admission) :
    BrokerM ToolResult := do
  let response ← call (.execute connector request.tool.value request.payload (admission.context request))
  settle broker request admission response

/-- What follows an error. An ambiguous one leaves the attempt open; one of a connector is a failed result; any other
ends the attempt as failed and is raised. -/
def failed (broker : BrokerService) (request : ToolRequest) : Error → BrokerM ToolResult
  | .ambiguousMutation message => lift (.error (.ambiguousMutation message))
  | .connector code _ retryable => return failure request code retryable
  | e => do
    finish broker request (failure request "broker-internal-error" false)
    lift (.error e)

def executeTool (broker : BrokerService) (connector : Connector) (request : ToolRequest) (admission : Admission) :
    BrokerM ToolResult := do
  let result ← (mutate broker connector request admission).tryCatch (failed broker request)
  finish broker request result
  call (.audit request (broker.requestHash request) result)
  return result

def startAttempt (broker : BrokerService) (connector : Connector) (request : ToolRequest) (admission : Admission) :
    BrokerM ToolResult := do
  let reconciliation ← prepare broker connector request (admission.context request) admission.credential
  call (.begin request (broker.requestHash request) reconciliation admission.now (broker.leaseEnd admission.now))
  executeTool broker connector request admission

def resumeAttempt (broker : BrokerService) (connector : Connector) (request : ToolRequest) (admission : Admission)
    (previous : ToolAttempt) : BrokerM ToolResult := do
  lift (raiseIf (admission.now < previous.leaseExpiresAt)
    (.resourceConflict s!"tool request {request.id.text} is already running"))
  call (.reclaim request (broker.requestHash request) previous.leaseExpiresAt admission.now
    (broker.leaseEnd admission.now))
  let reconciled ← reconcile broker connector request (admission.context request) admission.credential
    previous.reconciliation
  match reconciled with
  | some response =>
    let result ← settle broker request admission response
    finish broker request result
    return result
  | none => executeTool broker connector request admission

def proceed (broker : BrokerService) (request : ToolRequest) (admission : Admission) : BrokerM ToolResult :=
  match admission.previous with
  | none => do
    let connector ← lift (broker.connectors.resolve admission.connection request.tool.value)
    startAttempt broker connector request admission
  | some previous =>
    if previous.status ≠ .running then
      lift (required previous.result (.runtime "terminal tool attempt has no result"))
    else do
      let connector ← lift (broker.connectors.resolve admission.connection request.tool.value)
      match previous.checkpoint with
      | some checkpoint =>
        finish broker request checkpoint
        return checkpoint
      | none => resumeAttempt broker connector request admission previous

def execute (broker : BrokerService) (request : ToolRequest) (capability : Option String) : BrokerM ToolResult := do
  let admitted ← admission broker request capability
  proceed broker request admitted

end Uumi.Broker
