import Mathlib
import Uumi.Contracts.Run

/-! Deterministic probes and the reports of their runs. -/
namespace Uumi.Contracts
open Uumi.Core Uumi.Foundations

inductive ProbeKind where
  | http | email | provider | secret | runtime | telemetry | generation | credential
  deriving DecidableEq

def ProbeKind.value : ProbeKind → String
  | .http => "http"
  | .email => "email"
  | .provider => "provider"
  | .secret => "secret-store"
  | .runtime => "runtime"
  | .telemetry => "telemetry"
  | .generation => "generation"
  | .credential => "credential-authentication"

inductive VerificationStatus where
  | passed | failed | inconclusive
  deriving DecidableEq

def VerificationStatus.value : VerificationStatus → String
  | .passed => "passed"
  | .failed => "failed"
  | .inconclusive => "inconclusive"

inductive ProbeState where
  | draft | active | superseded
  deriving DecidableEq

inductive GenerationBinding where
  | none | target | current
  deriving DecidableEq

def GenerationBinding.value : GenerationBinding → String
  | .none => "none"
  | .target => "target"
  | .current => "current"

inductive TargetBinding where
  | static | providerId | secretReference
  deriving DecidableEq

def TargetBinding.value : TargetBinding → String
  | .static => "static"
  | .providerId => "provider-id"
  | .secretReference => "secret-reference"

structure TelemetryThresholds where
  minimumCount : Nat := 1
  maximumErrorCount : Nat := 0
  maximumAuthFailureCount : Nat := 0
  windowSeconds : Nat := 300
  deriving DecidableEq

/-- The second request of an email probe, which confirms the delivery. -/
structure DownstreamConfirmation where
  target : Text 1 1024
  method : String := "GET"
  headers : List (String × String) := []
  expectedStatus : List Nat := [200]
  requiredFields : Parameters
  correlationField : Text 1 128
  intervalSeconds : Nat := 2
  deriving DecidableEq

/-- The fields of a probe definition before its validator has run. -/
structure ProbeFields where
  id : Identifier
  organisationId : Identifier
  kind : ProbeKind
  connectionId : Identifier
  target : Text 1 1024
  method : String := "GET"
  headers : List (String × String) := []
  bodyReference : Option (Text 0 1024) := none
  secretReference : Option (Text 0 1024) := none
  secretConnectionId : Option Identifier := none
  expectedStatus : List Nat := [200]
  expectedGenerationId : Option Identifier := none
  generationBinding : GenerationBinding := .none
  targetBinding : TargetBinding := .static
  requiredFields : Parameters := []
  confirmation : Option DownstreamConfirmation := none
  telemetry : Option TelemetryThresholds := none
  timeoutSeconds : Nat := 30
  negative : Bool := false
  deriving DecidableEq

namespace ProbeFields

def secretBound (probe : ProbeFields) : Bool := probe.secretReference.isSome && probe.secretConnectionId.isSome

def validateProbe (probe : ProbeFields) : Except Error Unit := do
  raiseIf (probe.kind = .email ∧ probe.confirmation = none)
    (.validation "email probes require downstream confirmation")
  raiseIf (probe.kind ≠ .email ∧ probe.confirmation ≠ none)
    (.validation "downstream confirmation is only valid for email probes")
  raiseIf (probe.kind = .telemetry ∧ probe.telemetry = none)
    (.validation "telemetry probes require explicit thresholds")
  raiseIf (probe.kind ≠ .telemetry ∧ probe.telemetry ≠ none)
    (.validation "telemetry thresholds are only valid for telemetry probes")
  raiseIf (probe.generationBinding = .none ∧ probe.expectedGenerationId ≠ none)
    (.validation "an expected generation requires a generation binding")
  raiseIf (probe.targetBinding ≠ .static ∧ probe.kind ∉ [.credential, .provider, .secret])
    (.validation "dynamic targets are only valid for provider and secret probes")
  raiseIf (probe.secretReference.isNone ≠ probe.secretConnectionId.isNone)
    (.validation "probe secret reference and connection must be set together")
  raiseIf ((probe.kind == .credential) ≠ probe.secretBound)
    (.validation "credential authentication probes require one secret-store binding")

end ProbeFields

/-- A probe definition that its model validator accepts. -/
structure ProbeDefinition extends ProbeFields where
  accepted : ProbeFields.validateProbe toProbeFields = .ok ()
  deriving DecidableEq

def ProbeDefinition.build (fields : ProbeFields) : Except Error ProbeDefinition :=
  match h : fields.validateProbe with
  | .ok () => .ok ⟨fields, h⟩
  | .error e => .error e

/-- A stored version of a probe. It carries the identity of its definition, and an active one was
approved. -/
structure ProbeVersion where
  id : Identifier
  organisationId : Identifier
  probeId : Identifier
  number : Nat
  definition : ProbeDefinition
  digest : Digest
  state : ProbeState
  createdBy : Identifier
  createdAt : AwareDatetime
  approval : Option (Identifier × AwareDatetime) := none
  identity : definition.id = id ∧ definition.organisationId = organisationId
  approved : state = .active → approval ≠ none
  deriving DecidableEq

/-- What one probe observed. A failed one says why. -/
structure ProbeResult where
  probeId : Identifier
  status : VerificationStatus
  observedStatus : Option Int := none
  generationId : Option Identifier := none
  checks : Finset String
  evidenceIds : List Identifier
  observations : List (String × Option ParameterValue) := []
  error : Option (Text 0 1024) := none
  startedAt : AwareDatetime
  completedAt : AwareDatetime
  checks_nonempty : checks ≠ ∅
  evidence_nonempty : evidenceIds ≠ []
  explained : status = .failed → ((error.map Text.value).getD "") ≠ ""

/-- A passed probe has nothing to explain. -/
theorem passed_explains : VerificationStatus.passed = .failed →
    ((none : Option (Text 0 1024)).map Text.value).getD "" ≠ "" :=
  nofun

instance : DecidableEq ProbeResult := fun a b =>
  decidable_of_iff
    (a.probeId = b.probeId ∧ a.status = b.status ∧ a.observedStatus = b.observedStatus ∧
      a.generationId = b.generationId ∧ a.checks = b.checks ∧ a.evidenceIds = b.evidenceIds ∧
      a.observations = b.observations ∧ a.error = b.error ∧ a.startedAt = b.startedAt ∧
      a.completedAt = b.completedAt)
    (by cases a; cases b; simp only [ProbeResult.mk.injEq])

/-- The results of the probes of one verification. Nothing but passed probes makes a passed report. -/
structure VerificationReport where
  id : Identifier
  organisationId : Identifier
  runId : Identifier
  generationId : Identifier
  status : VerificationStatus
  results : List ProbeResult
  checks : Finset String
  evidenceIds : List Identifier
  startedAt : AwareDatetime
  completedAt : AwareDatetime
  results_nonempty : results ≠ []
  checks_nonempty : checks ≠ ∅
  evidence_nonempty : evidenceIds ≠ []
  passed : status = .passed → ∀ result ∈ results, result.status = .passed

instance : DecidableEq VerificationReport := fun a b =>
  decidable_of_iff
    (a.id = b.id ∧ a.organisationId = b.organisationId ∧ a.runId = b.runId ∧
      a.generationId = b.generationId ∧ a.status = b.status ∧ a.results = b.results ∧
      a.checks = b.checks ∧ a.evidenceIds = b.evidenceIds ∧ a.startedAt = b.startedAt ∧
      a.completedAt = b.completedAt)
    (by cases a; cases b; simp only [VerificationReport.mk.injEq])

end Uumi.Contracts
