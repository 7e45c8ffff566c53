import Uumi.Policy.Payloads
import Uumi.Storage.Inventory

/-! The controls of a credential: compiled from its inventory and the preferences of an operator, and updated when the
preferences change. -/
namespace Uumi.Inventory
open Uumi.Contracts Uumi.Core Uumi.Foundations Uumi.Policy

def triggerEvents : AutomaticTrigger → Finset String
  | .expiry => {"credential-expiring", "credential-rotation-due"}
  | .drift => {"credential-inventory-drift", "credential-provider-drift", "credential-runtime-drift"}
  | .verifiedExposure => {"credential-exposure-detected"}

/-- `_trigger_events`. -/
def eventsOf (preferences : ControlPreferences) : Finset String := preferences.automaticTriggers.biUnion triggerEvents

def emergencyEvents (preferences : ControlPreferences) : Finset String :=
  if .verifiedExposure ∈ preferences.automaticTriggers then {"credential-exposure-detected"} else ∅

def lastWith {α : Type} (key : α → Identifier) (items : List α) (id : Identifier) : Option α :=
  items.reverse.find? (key · = id)

def connectionById (connections : List Connection) (id : Identifier) : Except Error Connection :=
  required (lastWith (fun connection : Connection => connection.id) connections id) (.key id.text)

def serviceById (services : List ConsumerService) (id : Identifier) : Except Error ConsumerService :=
  required (lastWith ConsumerService.id services id) (.key id.text)

def validateExposureSources (connections : List Connection) (preferences : ControlPreferences) : Except Error Unit :=
  forEach preferences.exposureSources fun source =>
    raiseIf (¬ ∃ connection ∈ lastWith (fun connection : Connection => connection.id) connections source.connectionId,
        .incident ∈ connection.roles ∧ connection.interface = .api ∧ connection.status = .ready ∧
          source.resource.value ∈ connection.allowedResources)
      (.resourceConflict "exposure source is not available to this organisation")

/-- What the controls of a credential are compiled from, and by whom. -/
structure Configuration where
  credential : ManagedCredential
  bindings : List ConsumerBinding
  services : List ConsumerService
  connections : List Connection
  actorId : Identifier
  now : AwareDatetime

abbrev Template := Stage × ProbeFields

/-- The identifiers that `new_id` draws for the versions and the probes, one after another. -/
structure FreshIds where
  version : Nat → Identifier
  probe : Nat → Identifier

namespace Configuration
variable (configuration : Configuration)

def management : Except Error Connection :=
  connectionById configuration.connections configuration.credential.connectionId

def secretStore : Except Error Connection :=
  connectionById configuration.connections configuration.credential.secretStoreConnectionId

def testsCredential (connection : Connection) : Bool :=
  connection.platform = configuration.credential.provider && decide (.provider ∈ connection.roles) &&
    connection.interface = .api && connection.status = .ready &&
    connection.http.any fun http => http.testCredential.isSome && http.credentialAuth.isSome

def verification (management : Connection) : Except Error (Option Connection) :=
  if management.interface = .browser then .ok none
  else do
    let connection ← required (configuration.connections.find? configuration.testsCredential)
      (.resourceConflict "credential automation requires a typed workload authentication test")
    return some connection

def probe (kind : ProbeKind) (connectionId : Identifier) (target : Text 1 1024) (generationBinding : GenerationBinding) :
    ProbeFields where
  id := configuration.credential.id
  organisationId := configuration.credential.organisationId
  kind := kind
  connectionId := connectionId
  target := target
  generationBinding := generationBinding

/-- `provider_id or id` of the credential. -/
def providerTarget : Except Error (Text 1 1024) :=
  let providerId := (configuration.credential.providerId.map Text.value).getD ""
  Text.build 1 1024 "target" (if providerId = "" then configuration.credential.id.text else providerId)

def secretTarget : Except Error (Text 1 1024) :=
  Text.build 1 1024 "target" ((configuration.credential.secretReference.map Text.value).getD "")

/-- The probes of a generation of the credential at its provider, if there is a connection that tests it. -/
def providerProbes (management secretStore : Connection) (verification : Option Connection) (stage : Stage)
    (generation : GenerationBinding) (negative : Bool) : Except Error (List Template) :=
  match verification with
  | none => .ok []
  | some verification => do
    let target ← configuration.providerTarget
    return [
      (stage, { configuration.probe .provider management.id target generation with
        targetBinding := .providerId
        negative := negative }),
      (stage, { configuration.probe .credential verification.id target generation with
        targetBinding := .providerId
        negative := negative
        secretReference := configuration.credential.secretReference
        secretConnectionId := some secretStore.id })]

def secretProbe (secretStore : Connection) (stage : Stage) (generation : GenerationBinding) :
    Except Error Template := do
  let target ← configuration.secretTarget
  return (stage, { configuration.probe .secret secretStore.id target generation with
    targetBinding := .secretReference })

def credentialProbes (management secretStore : Connection) (verification : Option Connection) (stage : Stage)
    (generation : GenerationBinding) (negative : Bool) : Except Error (List Template) := do
  let provider ← configuration.providerProbes management secretStore verification stage generation negative
  let secret ← configuration.secretProbe secretStore stage generation
  return provider ++ [secret]

def runtimeTarget (binding : ConsumerBinding) : Text 1 1024 where
  value := binding.runtimeResource.value
  bounded := ⟨binding.runtimeResource.bounded.1, binding.runtimeResource.bounded.2.trans (by decide)⟩

def thresholds (windowSeconds : Nat) : Except Error TelemetryThresholds := do
  raiseIf (windowSeconds < 60 ∨ 86400 < windowSeconds)
    (.validation "window_seconds should be between 60 and 86400")
  return { windowSeconds }

/-- The probes on one telemetry connection: the health of the new generation, twice, and the use of the old one. -/
def telemetryProbes (preferences : ControlPreferences) (connectionId : Identifier) : Except Error (List Template) := do
  let connection ← connectionById configuration.connections connectionId
  let resource ← required connection.allowedResources.head? (.runtime "tuple index out of range")
  let target ← Text.build 1 1024 "target" resource
  let telemetry ← thresholds preferences.maximumObservationSeconds
  let health := { configuration.probe .telemetry connection.id target .target with telemetry := some telemetry }
  return [(.verify, health), (.observe, health),
    (.observe, { health with generationBinding := .current, negative := true })]

def bindingProbes (preferences : ControlPreferences) (binding : ConsumerBinding) : Except Error (List Template) := do
  let runtime := configuration.probe .runtime binding.runtimeConnectionId (runtimeTarget binding) .target
  let service ← serviceById configuration.services binding.serviceId
  let telemetry ← collect service.telemetryConnectionIds (configuration.telemetryProbes preferences)
  return (.verify, runtime) :: (.observe, runtime) :: telemetry.flatten

def templates (preferences : ControlPreferences) (management secretStore : Connection)
    (verification : Option Connection) : Except Error (List Template) := do
  let accepted ← configuration.credentialProbes management secretStore verification .verify .target false
  let rejected ← configuration.credentialProbes management secretStore verification .revoke .current true
  let consumers ← collect configuration.bindings (configuration.bindingProbes preferences)
  return accepted ++ rejected ++ consumers.flatten

/-- `add`: an approved version of the probe, under identifiers of its own. -/
def addProbe (hashing : Hashing) (fresh : FreshIds) (n : Nat) (template : Template) :
    Except Error (Stage × ProbeVersion) := do
  let definition ← ProbeDefinition.build { template.2 with id := fresh.version n }
  return (template.1, {
    id := definition.id
    organisationId := definition.organisationId
    probeId := fresh.probe n
    number := 1
    definition := definition
    digest := hashing.digest (probePayload definition.toProbeFields)
    state := .active
    createdBy := configuration.actorId
    createdAt := configuration.now
    approval := some (configuration.actorId, configuration.now)
    identity := ⟨rfl, rfl⟩
    approved := nofun })

def addProbes (hashing : Hashing) (fresh : FreshIds) (n : Nat) : List Template → Except Error (List (Stage × ProbeVersion))
  | [] => .ok []
  | template :: templates => do
    let added ← configuration.addProbe hashing fresh n template
    let rest ← addProbes hashing fresh (n + 1) templates
    return added :: rest

def telemetryEnabled : Bool :=
  configuration.bindings.any fun binding =>
    (lastWith ConsumerService.id configuration.services binding.serviceId).any fun service =>
      service.telemetryConnectionIds ≠ []

def rollbackAction (binding : ConsumerBinding) : RecoveryAction where
  tool := ⟨"runtime.rollback", by decide⟩
  operation := ⟨"rollback", by decide⟩
  parameters := [("connection_id", .text binding.runtimeConnectionId.text), ("service", .text binding.runtimeResource.value)]

def rollback : Except Error RecoveryBranch :=
  if h : configuration.bindings.map rollbackAction ≠ [] then
    .ok {
      mode := .rollback
      actions := configuration.bindings.map rollbackAction
      preservesOldGeneration := true
      actions_nonempty := h
      retry_unprotected := nofun }
  else .error (.validation "actions should have at least 1 item")

end Configuration

def revokeTools (browserManaged : Bool) : Finset String :=
  {if browserManaged then "browser.revokeCredential" else "provider.revokeCredential",
    "secretStore.disableVersion", "secretStore.destroyVersion"}

def allowedTools (browserManaged telemetry : Bool) : Finset String :=
  {"secretStore.getVersion", "secretStore.testConsumerAccess", "secretStore.disableVersion",
    "secretStore.destroyVersion", "runtime.inspectSecretBindings", "runtime.deployCandidate", "runtime.shiftTraffic",
    "runtime.rollback", "verification.run"} ∪
  (if browserManaged then
    {"browser.click", "browser.secure-capture", "browser.revokeCredential", "provider.testCredential"}
  else
    {"provider.listCredentialMetadata", "provider.getCredentialStatus", "provider.createCredential",
      "provider.revokeCredential", "provider.testCredential"}) ∪
  (if telemetry then {"telemetry.queryHealth", "telemetry.queryCredentialUsage"} else ∅)

def protectedTools (browserManaged approval : Bool) : Finset String :=
  (if browserManaged then {"browser.secure-capture"} else ∅) ∪ (if approval then revokeTools browserManaged else ∅)

def requiredChecksOf (approval telemetry : Bool) (stage : Stage) : Finset String :=
  match stage with
  | .preflight => if approval then requiredChecks .preflight else requiredChecks .preflight \ {"approvers-known"}
  | .approval => if approval then requiredChecks .approval else {"approval-not-required", "evidence-current"}
  | .verify => if telemetry then requiredChecks .verify else requiredChecks .verify \ {"telemetry-healthy"}
  | .observe =>
    if telemetry then requiredChecks .observe
    else requiredChecks .observe \ {"telemetry-healthy", "old-use-clear"}
  | stage => requiredChecks stage

/-- The versions of the probes of a stage. -/
def assigned (probes : List (Stage × ProbeVersion)) (stage : Stage) : List Identifier :=
  (probes.filter (·.1 = stage)).map (·.2.id)

def compiledFields (configuration : Configuration) (preferences : ControlPreferences) (browserManaged : Bool)
    (probes : List (Stage × ProbeVersion)) (rollback : RecoveryBranch) : ControlFields where
  requiredChecks := requiredChecksOf preferences.requireRevokeApproval configuration.telemetryEnabled
  allowedTools := allowedTools browserManaged configuration.telemetryEnabled
  protectedTools := protectedTools browserManaged preferences.requireRevokeApproval
  allowedRecoveryModes := {.rollback}
  maximumObservationSeconds := preferences.maximumObservationSeconds
  requireRevokeApproval := preferences.requireRevokeApproval
  requireGenerationTelemetry := configuration.telemetryEnabled
  rotateBeforeExpirySeconds := preferences.rotateBeforeExpirySeconds
  automaticTriggers := eventsOf preferences
  emergencyTriggers := emergencyEvents preferences
  exposureSources := preferences.exposureSources
  probeVersions stage := if stage ∈ [.verify, .observe, .revoke] then some (assigned probes stage) else none
  recovery stage := if stage ∈ [.deploy, .verify, .rollout, .observe] then some rollback else none

def compileControls (hashing : Hashing) (fresh : FreshIds) (configuration : Configuration)
    (preferences : ControlPreferences) : Except Error (ControlDefinition × List ProbeVersion) := do
  validateExposureSources configuration.connections preferences
  let management ← configuration.management
  let secretStore ← configuration.secretStore
  let verification ← configuration.verification management
  let templates ← configuration.templates preferences management secretStore verification
  let probes ← configuration.addProbes hashing fresh 0 templates
  let rollback ← configuration.rollback
  let definition ← ControlDefinition.build
    (compiledFields configuration preferences (management.interface = .browser) probes rollback)
  return (definition, probes.map Prod.snd)

def updatedTools (browserManaged approval : Bool) (tools : Finset String) : Finset String :=
  let tools := if browserManaged then insert "browser.secure-capture" tools else tools
  if approval then tools ∪ revokeTools browserManaged else tools \ revokeTools browserManaged

def updatedChecks (approval : Bool) (checks : Stage → Finset String) (stage : Stage) : Finset String :=
  match stage with
  | .preflight =>
    if approval then checks .preflight ∪ {"approvers-known"} else checks .preflight \ {"approvers-known"}
  | .approval => if approval then requiredChecks .approval else {"approval-not-required", "evidence-current"}
  | stage => checks stage

/-- `update_controls`. What it changes is not validated. -/
def updateControls (current : ControlFields) (preferences : ControlPreferences) : ControlFields :=
  { current with
    automaticTriggers := eventsOf preferences
    emergencyTriggers := emergencyEvents preferences
    exposureSources := preferences.exposureSources
    rotateBeforeExpirySeconds := preferences.rotateBeforeExpirySeconds
    maximumObservationSeconds := preferences.maximumObservationSeconds
    protectedTools := updatedTools ("browser.secure-capture" ∈ current.allowedTools)
      preferences.requireRevokeApproval current.protectedTools
    requireRevokeApproval := preferences.requireRevokeApproval
    requiredChecks := updatedChecks preferences.requireRevokeApproval current.requiredChecks }

/-- The version that is added for a template: active, with the stage and the probe of the template. -/
structure Added (hashing : Hashing) (template : Template) (added : Stage × ProbeVersion) : Prop where
  stage : added.1 = template.1
  fields : added.2.definition.toProbeFields = { template.2 with id := added.2.id }
  state : added.2.state = .active
  digest : added.2.digest = hashing.digest (probePayload added.2.definition.toProbeFields)

section
variable {hashing : Hashing} {fresh : FreshIds} {configuration : Configuration} {preferences : ControlPreferences}
  {templates : List Template}

private theorem addProbe_ok {n : Nat} {template : Template} {added : Stage × ProbeVersion}
    (h : configuration.addProbe hashing fresh n template = .ok added) : Added hashing template added := by
  unfold Configuration.addProbe at h
  rw [bind_ok] at h
  obtain ⟨definition, hdefinition, h⟩ := h
  rw [pure_ok] at h
  subst h
  have hfields : definition.toProbeFields = { template.2 with id := fresh.version n } := by
    unfold ProbeDefinition.build at hdefinition
    split at hdefinition
    · cases hdefinition
      rfl
    · cases hdefinition
  refine ⟨rfl, ?_, rfl, rfl⟩
  change definition.toProbeFields = { template.2 with id := definition.id }
  rw [hfields]

/-- Probes are added template by template. -/
theorem addProbes_ok {n : Nat} {probes : List (Stage × ProbeVersion)}
    (h : configuration.addProbes hashing fresh n templates = .ok probes) :
    List.Forall₂ (Added hashing) templates probes := by
  induction templates generalizing n probes with
  | nil =>
    cases h
    exact .nil
  | cons template templates ih =>
    rw [Configuration.addProbes, bind_ok] at h
    obtain ⟨added, hadded, h⟩ := h
    rw [bind_ok] at h
    obtain ⟨rest, hrest, h⟩ := h
    rw [pure_ok] at h
    subst h
    exact .cons (addProbe_ok hadded) (ih hrest)

/-- The probes on a telemetry connection, up to the window. -/
theorem telemetryProbes_ok {id : Identifier} (h : configuration.telemetryProbes preferences id = .ok templates) :
    ∃ connection resource target, connectionById configuration.connections id = .ok connection ∧
      connection.allowedResources.head? = some resource ∧ Text.build 1 1024 "target" resource = .ok target ∧
      ∃ health : ProbeFields,
        health = { configuration.probe .telemetry connection.id target .target with
          telemetry := some { windowSeconds := preferences.maximumObservationSeconds } } ∧
        templates = [(.verify, health), (.observe, health),
          (.observe, { health with generationBinding := .current, negative := true })] := by
  unfold Configuration.telemetryProbes at h
  rw [bind_ok] at h
  obtain ⟨connection, hconnection, h⟩ := h
  rw [required_bind_ok] at h
  obtain ⟨resource, hresource, h⟩ := h
  rw [bind_ok] at h
  obtain ⟨target, htarget, h⟩ := h
  rw [bind_ok] at h
  obtain ⟨telemetry, htelemetry, h⟩ := h
  rw [pure_ok] at h
  rw [Configuration.thresholds, unit_bind_ok, pure_ok] at htelemetry
  exact ⟨connection, resource, target, hconnection, hresource, htarget, _, rfl, by rw [← h, ← htelemetry.2]⟩

/-- The probes of a consumer: on its runtime, and on its telemetry connections. -/
theorem bindingProbes_ok {binding : ConsumerBinding} (h : configuration.bindingProbes preferences binding = .ok templates) :
    ∃ service telemetry, lastWith ConsumerService.id configuration.services binding.serviceId = some service ∧
      collect service.telemetryConnectionIds (configuration.telemetryProbes preferences) = .ok telemetry ∧
      ∃ runtime : ProbeFields, runtime = configuration.probe .runtime binding.runtimeConnectionId
          (Configuration.runtimeTarget binding) .target ∧
        templates = [(.verify, runtime), (.observe, runtime)] ++ telemetry.flatten := by
  unfold Configuration.bindingProbes at h
  rw [bind_ok] at h
  obtain ⟨service, hservice, h⟩ := h
  rw [bind_ok] at h
  obtain ⟨telemetry, htelemetry, h⟩ := h
  rw [pure_ok] at h
  rw [serviceById, required_ok] at hservice
  exact ⟨service, telemetry, hservice, htelemetry, _, rfl, h.symm⟩

/-- What a compilation went through. -/
theorem compileControls_ok {hashing : Hashing} {fresh : FreshIds} {configuration : Configuration}
    {preferences : ControlPreferences} {compiled : ControlDefinition × List ProbeVersion}
    (h : compileControls hashing fresh configuration preferences = .ok compiled) :
    ∃ management secretStore verification templates probes rollback,
      configuration.management = .ok management ∧ configuration.secretStore = .ok secretStore ∧
      configuration.verification management = .ok verification ∧
      configuration.templates preferences management secretStore verification = .ok templates ∧
      configuration.addProbes hashing fresh 0 templates = .ok probes ∧ configuration.rollback = .ok rollback ∧
      compiled.1.toControlFields =
        compiledFields configuration preferences (management.interface = .browser) probes rollback ∧
      compiled.2 = probes.map Prod.snd := by
  unfold compileControls at h
  rw [unit_bind_ok] at h
  simp only [bind_ok, pure_ok] at h
  obtain ⟨-, management, hmanagement, secretStore, hsecretStore, verification, hverification, templates, htemplates,
    probes, hprobes, rollback, hrollback, definition, hdefinition, rfl⟩ := h
  exact ⟨management, secretStore, verification, templates, probes, rollback, hmanagement, hsecretStore, hverification,
    htemplates, hprobes, hrollback, ControlDefinition.build_ok.mp hdefinition, rfl⟩

end

open Uumi.Storage (sampleProvider sampleSecretStore sampleRuntime sampleCredential sampleService sampleBinding)

def sampleTestedProvider : Connection :=
  { sampleProvider with
    http := some {
      auth := .bearer
      testCredential := some ⟨"GET", ⟨"/keys", by decide⟩⟩
      credentialAuth := some .bearer
      test_with_auth := rfl }
    accepted := by decide }

def sampleTelemetry : Connection where
  id := ⟨"connection-4", by decide⟩
  organisationId := organisationOne
  platform := platformTwo
  roles := {.telemetry}
  interface := .api
  authorization := .workloadIdentity
  authorizationReference := some "workload-identity://demo"
  capabilities := {"telemetry.queryHealth"}
  allowedResources := ["projects/demo"]
  status := .ready
  accepted := by decide

def sampleConsumer : ConsumerService :=
  { sampleService with
    telemetryConnectionIds := [sampleTelemetry.id]
    telemetry_unique := by decide
    runtime_distinct := by decide }

def Configuration.sample : Configuration where
  credential := sampleCredential
  bindings := [sampleBinding]
  services := [sampleConsumer]
  connections := [sampleTestedProvider, sampleSecretStore, sampleRuntime, sampleTelemetry]
  actorId := operatorOne
  now := ⟨0, 0⟩

def FreshIds.sample : FreshIds where
  version n := [⟨"version-0", by decide⟩, ⟨"version-1", by decide⟩, ⟨"version-2", by decide⟩,
    ⟨"version-3", by decide⟩, ⟨"version-4", by decide⟩, ⟨"version-5", by decide⟩, ⟨"version-6", by decide⟩,
    ⟨"version-7", by decide⟩, ⟨"version-8", by decide⟩, ⟨"version-9", by decide⟩].getD n ⟨"version-10", by decide⟩
  probe _ := probeOne

def samplePreferences (seconds : Nat) (h : 60 ≤ seconds ∧ seconds ≤ 604800) : ControlPreferences where
  automaticTriggers := {.expiry}
  rotateBeforeExpirySeconds := 604800
  maximumObservationSeconds := seconds
  triggers_nonempty := by decide
  rotate_bounds := by decide
  observation_bounds := h
  sources_unique := .nil
  exposure_enabled := by decide

end Uumi.Inventory
