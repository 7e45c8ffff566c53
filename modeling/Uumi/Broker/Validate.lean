import Uumi.Broker.Capability
import Uumi.Coordinator.Context

/-! What the broker admits: a request has to belong to its run, hold the fence of the run, use a connection of the
credential and stay within its resources, with a tool that controls, connection and stage allow. -/
namespace Uumi.Broker
open Uumi.Contracts Uumi.Core Uumi.Foundations Uumi.Policy Uumi.Coordinator

def readTools : Finset String :=
  {"provider.listCredentialMetadata", "provider.getCredentialStatus", "secretStore.getVersion",
    "secretStore.testConsumerAccess", "runtime.inspectSecretBindings", "telemetry.queryHealth",
    "telemetry.queryCredentialUsage"}

def stageTools : Stage → Finset String
  | .trigger => ∅
  | .preflight =>
    {"provider.listCredentialMetadata", "provider.getCredentialStatus", "runtime.inspectSecretBindings"}
  | .plan => {"provider.listCredentialMetadata", "runtime.inspectSecretBindings"}
  | .create => {"provider.createCredential", "provider.getCredentialStatus"}
  | .store => {"secretStore.getVersion", "secretStore.testConsumerAccess", "runtime.inspectSecretBindings"}
  | .deploy => {"runtime.deployCandidate", "runtime.rollback"}
  | .verify =>
    {"provider.getCredentialStatus", "secretStore.getVersion", "runtime.inspectSecretBindings", "verification.run"}
  | .rollout => {"runtime.shiftTraffic", "runtime.rollback"}
  | .observe => {"telemetry.queryHealth", "telemetry.queryCredentialUsage", "runtime.rollback"}
  | .approval => ∅
  | .revoke =>
    {"provider.revokeCredential", "provider.getCredentialStatus", "secretStore.disableVersion",
      "secretStore.destroyVersion", "verification.run"}
  | .complete => ∅

def toolRole (tool : String) : Except Error ConnectionRole :=
  match String.ofList (before ['.'] tool.toList) with
  | "provider" => .ok .provider
  | "runtime" => .ok .runtime
  | "secretStore" => .ok .secretStore
  | "telemetry" => .ok .telemetry
  | "incident" => .ok .incident
  | _ => .error (.capability s!"tool {tool} has no connection role")

def afterScheme (url : List Char) : List Char :=
  let scheme := url.takeWhile (· ≠ ':')
  match scheme, url.drop scheme.length with
  | c :: _, ':' :: rest =>
    if c.isAlpha ∧ scheme.all fun d => d.isAlphanum ∨ d ∈ ['+', '-', '.'] then rest else url
  | _, _ => url

def hostOf (lower : String → String) (netloc : List Char) : Option String :=
  let address := (netloc.reverse.takeWhile (· ≠ '@')).reverse
  let host :=
    if '[' ∈ address then ((address.dropWhile (· ≠ '[')).drop 1).takeWhile (· ≠ ']')
    else address.takeWhile (· ≠ ':')
  if host = [] then none
  else some (lower (String.ofList (host.takeWhile (· ≠ '%'))) ++ String.ofList (host.dropWhile (· ≠ '%')))

/-- `urlparse(url).hostname`. What stands between brackets is not checked to be an address. -/
def urlHostname (lower : String → String) (url : String) : Except Error (Option String) :=
  match afterScheme ((url.toList.dropWhile (·.toNat ≤ 32)).filter (· ∉ ['\t', '\r', '\n'])) with
  | '/' :: '/' :: rest =>
    let netloc := rest.takeWhile (· ∉ ['/', '?', '#'])
    if ('[' ∈ netloc) ≠ (']' ∈ netloc) then .error (.value "Invalid IPv6 URL")
    else .ok (hostOf lower netloc)
  | _ => .ok none

/-- `_allowed`: the resource or its host is a pattern, or lies below it, or matches its wildcard. -/
def allowed (lower : String → String) (resource : String) (patterns : List String) : Except Error Bool := do
  let hostname ← urlHostname lower resource
  let comparable := hostname.getD resource
  return patterns.any fun pattern =>
    comparable = pattern ∨ underBoundary comparable pattern ∨
      (1 < pattern.length ∧ ['*'].isSuffixOf pattern.toList ∧ pattern.toList.dropLast.isPrefixOf comparable.toList) ∨
      (['*', '.'].isPrefixOf pattern.toList ∧ (pattern.toList.drop 1).isSuffixOf comparable.toList)

def textOf (payload : List (String × Json)) (key : String) : Option String :=
  match payload.lookup key with
  | some (.str value) => some value
  | _ => none

def resourceKeys (tool : String) : List String :=
  ["provider_id", "service", "version", "target", "resource"] ++
    (if "secretStore.".toList.isPrefixOf tool.toList then ["secret_resource"] else [])

def resources (tool : String) (payload : List (String × Json)) (connection : Connection) : List String :=
  if "provider.".toList.isPrefixOf tool.toList then
    ((textOf payload "provider_id").map fun id => s!"{connection.platform.value}:credentials:{id}").toList
  else payload.filterMap fun
    | (key, .str value) => if key ∈ resourceKeys tool then some value else none
    | _ => none

def withinBoundary (lower : String → String) (patterns : List String) : List String → Except Error Bool
  | [] => .ok true
  | resource :: rest => do
    if ← allowed lower resource patterns then withinBoundary lower patterns rest else return false

def HoldsFence (request : ToolRequest) (run : RotationRun) (now : AwareDatetime) : Prop :=
  run.status = .running ∧ request.fencingToken = run.fencingToken ∧
    ∃ lease ∈ run.lease, lease.fencingToken = run.fencingToken ∧ now < lease.expiresAt

instance (request : ToolRequest) (run : RotationRun) (now : AwareDatetime) :
    Decidable (HoldsFence request run now) := by
  unfold HoldsFence
  infer_instance

def validateRequest (lower : String → String) (request : ToolRequest) (run : RotationRun) (connection : Connection)
    (credential : ManagedCredential) (bindings : List ConsumerBinding) (controls : ControlVersion)
    (now : AwareDatetime) : Except Error Unit := do
  raiseIf (request.organisationId ≠ run.organisationId ∨ request.runId ≠ run.id)
    (.capability "tool request does not belong to its run")
  raiseIf (controls.organisationId ≠ run.organisationId ∨ controls.credentialId ≠ run.credentialId ∨
      controls.id ≠ run.controlVersion)
    (.capability "credential controls do not belong to the run")
  raiseIf (¬ HoldsFence request run now) (.capability "tool request does not hold the current run fence")
  raiseIf (request.connectionId ≠ connection.id ∨ connection.organisationId ≠ run.organisationId)
    (.capability "tool connection does not belong to the run organisation")
  let role ← toolRole request.tool.value
  raiseIf (role = .provider ∧ connection.id ≠ credential.connectionId)
    (.capability "provider tool is not using the credential management connection")
  raiseIf (role = .secretStore ∧ connection.id ≠ credential.secretStoreConnectionId)
    (.capability "secret-store tool is not using the credential secret store")
  raiseIf (role = .runtime ∧ connection.id ∉ bindings.map (·.runtimeConnectionId))
    (.capability "runtime tool is not using a declared consumer binding")
  raiseIf (request.tool.value ∉ controls.definition.allowedTools)
    (.capability "tool is not allowed by the credential controls")
  raiseIf (request.tool.value ∉ connection.capabilities)
    (.capability "connection does not declare the requested capability")
  raiseIf (request.tool.value ∉ stageTools run.stage)
    (.capability s!"tool {request.tool.value} is not eligible in stage {run.stage.value}")
  let within ← withinBoundary lower connection.allowedResources
    (resources request.tool.value request.payload connection)
  raiseIf (within = false) (.capability "tool parameters escape the connection resource boundary")

def BindsRequest (hashing : Hashing) (request : ToolRequest) (run : RotationRun) (claims : CapabilityClaims) : Prop :=
  claims.organisationId = request.organisationId.text ∧ claims.runId = request.runId.text ∧
    claims.agentId = request.agentId.text ∧ claims.tool = request.tool.value ∧
    claims.connectionId = request.connectionId.text ∧ claims.stage = run.stage ∧
    claims.fencingToken = request.fencingToken ∧
    claims.requestDigest = requestDigest hashing request.tool.value request.payload

instance (hashing : Hashing) (request : ToolRequest) (run : RotationRun) (claims : CapabilityClaims) :
    Decidable (BindsRequest hashing request run claims) := by
  unfold BindsRequest
  infer_instance

def validateCapability (hashing : Hashing) (request : ToolRequest) (run : RotationRun) (claims : CapabilityClaims) :
    Except Error Unit :=
  raiseIf (¬ BindsRequest hashing request run claims)
    (.capability "action capability does not bind the exact tool request")

/-- The tool of an admitted request is one of its stage, for a running run. -/
theorem validateRequest_ok {lower : String → String} {request : ToolRequest} {run : RotationRun}
    {connection : Connection} {credential : ManagedCredential} {bindings : List ConsumerBinding}
    {controls : ControlVersion} {now : AwareDatetime}
    (h : validateRequest lower request run connection credential bindings controls now = .ok ()) :
    request.organisationId = run.organisationId ∧ request.runId = run.id ∧ run.status = .running ∧
      request.tool.value ∈ stageTools run.stage := by
  simp only [validateRequest, unit_bind_ok, raiseIf_ok, not_or, not_not] at h
  obtain ⟨⟨ho, hr⟩, -, hf, -, h⟩ := h
  rw [bind_ok] at h
  obtain ⟨role, -, h⟩ := h
  simp only [unit_bind_ok, raiseIf_ok, not_not] at h
  exact ⟨ho, hr, hf.1, h.2.2.2.2.2.1⟩

end Uumi.Broker
