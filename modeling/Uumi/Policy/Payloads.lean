import Uumi.Contracts.Approval
import Uumi.Contracts.Playbook
import Uumi.Contracts.Verification
import Uumi.Policy.Digest

/-! Canonical JSON of probe definitions, verification reports, plans, playbooks and protected actions. -/
namespace Uumi.Policy
open Uumi.Contracts Uumi.Foundations

def natural (n : Nat) : Json := .int n

def headersPayload (headers : List (String × String)) : Json :=
  .obj ((headers.mergeSort fun a b => a.1 ≤ b.1).map fun e => (e.1, .str e.2))

def confirmationPayload (c : DownstreamConfirmation) : Json := .obj [
  ("correlation_field", .str c.correlationField.value),
  ("expected_status", .arr (c.expectedStatus.map natural)), ("headers", headersPayload c.headers),
  ("interval_seconds", natural c.intervalSeconds), ("method", .str c.method),
  ("required_fields", parametersPayload c.requiredFields), ("target", .str c.target.value)]

def telemetryPayload (t : TelemetryThresholds) : Json := .obj [
  ("maximum_auth_failure_count", natural t.maximumAuthFailureCount),
  ("maximum_error_count", natural t.maximumErrorCount), ("minimum_count", natural t.minimumCount),
  ("window_seconds", natural t.windowSeconds)]

def probePayload (p : ProbeFields) : Json := .obj (
  optional "body_reference" (p.bodyReference.map (.str ·.value)) ++
  optional "confirmation" (p.confirmation.map confirmationPayload) ++
  [("connection_id", .str p.connectionId.text)] ++
  optional "expected_generation_id" (p.expectedGenerationId.map (.str ·.text)) ++
  [("expected_status", .arr (p.expectedStatus.map natural)),
    ("generation_binding", .str p.generationBinding.value), ("headers", headersPayload p.headers),
    ("id", .str p.id.text), ("kind", .str p.kind.value), ("method", .str p.method),
    ("negative", .bool p.negative), ("organisation_id", .str p.organisationId.text),
    ("required_fields", parametersPayload p.requiredFields)] ++
  optional "secret_connection_id" (p.secretConnectionId.map (.str ·.text)) ++
  optional "secret_reference" (p.secretReference.map (.str ·.value)) ++
  [("target", .str p.target.value), ("target_binding", .str p.targetBinding.value)] ++
  optional "telemetry" (p.telemetry.map telemetryPayload) ++
  [("timeout_seconds", natural p.timeoutSeconds)])

def observationsPayload (entries : List (String × Option ParameterValue)) : Json :=
  .obj ((entries.mergeSort fun a b => a.1 ≤ b.1).map fun e => (e.1, e.2.elim .null ParameterValue.payload))

def resultPayload (hashing : Hashing) (r : ProbeResult) : Json := .obj (
  [("checks", textSet r.checks), ("completed_at", instant hashing r.completedAt)] ++
  optional "error" (r.error.map (.str ·.value)) ++
  [("evidence_ids", texts r.evidenceIds)] ++
  optional "generation_id" (r.generationId.map (.str ·.text)) ++
  [("observations", observationsPayload r.observations)] ++
  optional "observed_status" (r.observedStatus.map .int) ++
  [("probe_id", .str r.probeId.text), ("started_at", instant hashing r.startedAt),
    ("status", .str r.status.value)])

def reportPayload (hashing : Hashing) (r : VerificationReport) : Json := .obj [
  ("checks", textSet r.checks), ("completed_at", instant hashing r.completedAt),
  ("evidence_ids", texts r.evidenceIds), ("generation_id", .str r.generationId.text),
  ("id", .str r.id.text), ("organisation_id", .str r.organisationId.text),
  ("results", .arr (r.results.map (resultPayload hashing))), ("run_id", .str r.runId.text),
  ("started_at", instant hashing r.startedAt), ("status", .str r.status.value)]

def planPayload (p : RotationPlan) : Json := .obj (
  optional "browser_playbook_version" (p.browserPlaybookVersion.map (.str ·.text)) ++
  [("consumer_ids", texts p.consumerIds), ("control_version", .str p.controlVersion.text),
    ("credential_id", .str p.credentialId.text), ("id", .str p.id.text),
    ("observation_seconds", natural p.observationSeconds), ("organisation_id", .str p.organisationId.text),
    ("recovery_ids", stageMap fun s => (p.recoveryIds s).map (.str ·.text)),
    ("rollout", .arr (p.rollout.map .int)), ("run_id", .str p.runId.text),
    ("strategy", .str p.strategy.value), ("target_scopes", textSet p.targetScopes)])

def selectorPayload (s : Selector) : Json := .obj (
  [("exact", .bool s.exact), ("kind", .str s.kind.value)] ++ optional "name" (s.name.map (.str ·.value)) ++
  [("value", .str s.value.value)])

def checkpointPayload (c : PageCheckpoint) : Json := .obj [
  ("forbidden_text", .arr (c.forbiddenText.map .str)), ("required_text", .arr (c.requiredText.map .str)),
  ("url_pattern", .str c.urlPattern.value)]

def securePayload (f : SecureField) : Json := .obj (
  [("name", .str f.name.text)] ++
  optional "provider_display_name_selector" (f.providerDisplayNameSelector.map selectorPayload) ++
  [("provider_id_attribute", .str f.providerIdAttribute.value),
    ("provider_id_selector", selectorPayload f.providerIdSelector), ("selector", selectorPayload f.selector)])

def outputPayload (o : StepOutput) : Json := .obj [
  ("attribute", .str o.attributeName.value), ("name", .str o.name.text), ("selector", selectorPayload o.selector)]

def stepPayload (s : StepFields) : Json := .obj (
  optional "checkpoint" (s.checkpoint.map checkpointPayload) ++
  [("effect", .str s.effect.value), ("evidence_checks", .arr ((s.evidenceChecks.sort (· ≤ ·)).map .str)),
    ("id", .str s.id.text), ("objective", .str s.objective.value), ("operation", .str s.operation.value),
    ("outputs", .arr (s.outputs.map outputPayload)), ("parameters", parametersPayload s.parameters),
    ("protected", .bool s.isProtected), ("retry_limit", natural s.retryLimit)] ++
  optional "secure_field" (s.secureField.map securePayload) ++
  [("selectors", .arr (s.selectors.map selectorPayload)), ("stage", .str s.stage.value),
    ("timeout_seconds", natural s.timeoutSeconds), ("tool", .str s.tool.value)])

def playbookPayload (d : DraftFields) : Json := .obj (
  [("allowed_domains", .arr (d.allowedDomains.map .str))] ++
  optional "login_url_pattern" (d.loginUrlPattern.map (.str ·.value)) ++
  [("name", .str d.name.value), ("platform", .str d.platform.value),
    ("steps", .arr (d.steps.map fun s : PlaybookStep => stepPayload s.toStepFields))])

def protectedActionFields (a : ProtectedAction) (playbook : List (String × Json)) : Json := .obj (
  [("control_version", .str a.controlVersion.text), ("credential_id", .str a.credentialId.text),
    ("evidence_hash", .str a.evidenceHash), ("generation_id", .str a.generationId.text), ("id", .str a.id.text),
    ("kind", .str a.kind.value), ("organisation_id", .str a.organisationId.text),
    ("parameters", parametersPayload a.parameters), ("plan_hash", .str a.planHash)] ++ playbook ++
  [("preconditions", observationsPayload a.preconditions), ("provider_id", .str a.providerId.value),
    ("resource", .str a.resource.value), ("run_id", .str a.runId.text)])

def protectedActionPayload (a : ProtectedAction) : Json :=
  protectedActionFields a (optional "playbook_version" (a.playbookVersion.map (.str ·.text)))

def protectedActionDump (a : ProtectedAction) : Json :=
  protectedActionFields a [("playbook_version", a.playbookVersion.elim .null (.str ·.text))]

end Uumi.Policy
