import Mathlib
import Uumi.Policy.Rules

/-! Credential controls: the checks, tools and recovery branches that govern the runs of one
credential, pinned by a version with a digest. -/
namespace Uumi.Contracts
open Uumi.Core Uumi.Foundations Uumi.Policy

structure RecoveryAction where
  tool : Text 3 128
  operation : Text 1 96
  parameters : Parameters := []
  isProtected : Bool := false
  deriving DecidableEq

/-- A recovery branch has an action, and a retry protects none of its actions. -/
structure RecoveryBranch where
  mode : RecoveryMode
  actions : List RecoveryAction
  preservesOldGeneration : Bool
  actions_nonempty : actions ≠ []
  retry_unprotected : mode = .retry → ∀ action ∈ actions, action.isProtected = false
  deriving DecidableEq

structure ExposureSource where
  connectionId : Identifier
  resource : Text 1 512
  deriving DecidableEq

/-- What may start a rotation by itself. -/
inductive AutomaticTrigger where
  | expiry | drift | verifiedExposure
  deriving DecidableEq

/-- What an operator chooses of the controls of a credential. -/
structure ControlPreferences where
  automaticTriggers : Finset AutomaticTrigger
  rotateBeforeExpirySeconds : Nat
  maximumObservationSeconds : Nat
  requireRevokeApproval : Bool := false
  exposureSources : List ExposureSource := []
  triggers_nonempty : automaticTriggers ≠ ∅
  rotate_bounds : 300 ≤ rotateBeforeExpirySeconds ∧ rotateBeforeExpirySeconds ≤ 7776000
  observation_bounds : 60 ≤ maximumObservationSeconds ∧ maximumObservationSeconds ≤ 604800
  sources_unique : exposureSources.Nodup
  exposure_enabled : .verifiedExposure ∈ automaticTriggers ↔ exposureSources ≠ []
  deriving DecidableEq

inductive Confidence where
  | low | medium | high | verified
  deriving DecidableEq

def Confidence.value : Confidence → String
  | .low => "low"
  | .medium => "medium"
  | .high => "high"
  | .verified => "verified"

/-- The fields of a control definition before its validator has run. The checks are defined for
every stage; probe versions and recovery branches for some. -/
structure ControlFields where
  requiredChecks : Stage → Finset String
  allowedTools : Finset String
  protectedTools : Finset String := ∅
  allowedRecoveryModes : Finset RecoveryMode
  maximumObservationSeconds : Nat
  requireRevokeApproval : Bool := false
  preserveOldGeneration : Bool := true
  requireGenerationTelemetry : Bool := true
  rotateBeforeExpirySeconds : Nat := 604800
  maximumMetadataAgeSeconds : Nat := 86400
  requireRuntimeAlignment : Bool := true
  automaticTriggers : Finset String := ∅
  emergencyTriggers : Finset String := ∅
  exposureSources : List ExposureSource := []
  minimumAutomaticConfidence : Confidence := .verified
  probeVersions : Stage → Option (List Identifier) := fun _ => none
  recovery : Stage → Option RecoveryBranch := fun _ => none

namespace ControlFields

/-- The checks that a definition may not omit, given its approval and telemetry settings. -/
def mandatory (fields : ControlFields) (stage : Stage) : Finset String :=
  match stage, fields.requireRevokeApproval, fields.requireGenerationTelemetry with
  | .preflight, false, _ => Policy.requiredChecks .preflight \ {"approvers-known"}
  | .approval, false, _ => {"approval-not-required", "evidence-current"}
  | .verify, _, false => Policy.requiredChecks .verify \ {"telemetry-healthy"}
  | .observe, _, false => Policy.requiredChecks .observe \ {"telemetry-healthy", "old-use-clear"}
  | stage, _, _ => Policy.requiredChecks stage

def checkMandatory (fields : ControlFields) : List Stage → Except Error Unit
  | [] => .ok ()
  | stage :: stages => do
    let missing := fields.mandatory stage \ fields.requiredChecks stage
    raiseIf (missing ≠ ∅) (.validation
      (s!"controls omit mandatory {stage.value} checks: " ++ String.intercalate ", " (missing.sort (· ≤ ·))))
    fields.checkMandatory stages

def InBounds (fields : ControlFields) : Prop :=
  fields.allowedTools ≠ ∅ ∧ fields.allowedRecoveryModes ≠ ∅ ∧
  60 ≤ fields.maximumObservationSeconds ∧ fields.maximumObservationSeconds ≤ 604800 ∧
  300 ≤ fields.rotateBeforeExpirySeconds ∧ fields.rotateBeforeExpirySeconds ≤ 7776000 ∧
  300 ≤ fields.maximumMetadataAgeSeconds ∧ fields.maximumMetadataAgeSeconds ≤ 2592000

instance (fields : ControlFields) : Decidable fields.InBounds := by
  unfold InBounds
  infer_instance

def validateCoverage (fields : ControlFields) : Except Error Unit := do
  raiseIf (¬ fields.InBounds) (.validation "control fields are out of bounds")
  fields.checkMandatory Stage.all
  raiseIf (¬ fields.protectedTools ⊆ fields.allowedTools)
    (.validation "protected tools must also be allowed")
  raiseIf (fields.requireGenerationTelemetry ∧ "verification.run" ∉ fields.allowedTools)
    (.validation "generation telemetry controls require verification.run")
  raiseIf (¬ fields.emergencyTriggers ⊆ fields.automaticTriggers)
    (.validation "emergency triggers must also be automatic triggers")

end ControlFields

/-- A control definition that its validator accepts. -/
structure ControlDefinition extends ControlFields where
  accepted : ControlFields.validateCoverage toControlFields = .ok ()

namespace ControlDefinition

def build (fields : ControlFields) : Except Error ControlDefinition :=
  match h : fields.validateCoverage with
  | .ok () => .ok ⟨fields, h⟩
  | .error e => .error e

/-- A definition is built from its own fields. -/
theorem build_ok {fields : ControlFields} {definition : ControlDefinition} :
    build fields = .ok definition ↔ definition.toControlFields = fields := by
  unfold build
  constructor
  · split
    · intro h
      cases h
      rfl
    · nofun
  · rintro rfl
    split
    · rfl
    · rename_i e he
      rw [definition.accepted] at he
      cases he

private theorem checkMandatory_ok (fields : ControlFields) (stages : List Stage)
    (h : fields.checkMandatory stages = .ok ()) :
    ∀ stage ∈ stages, fields.mandatory stage ⊆ fields.requiredChecks stage := by
  induction stages with
  | nil => simp
  | cons stage stages ih =>
    simp only [ControlFields.checkMandatory, unit_bind_ok, raiseIf_ok, not_not,
      Finset.sdiff_eq_empty_iff_subset] at h
    obtain ⟨hs, ht⟩ := h
    intro t hmem
    rcases List.mem_cons.mp hmem with rfl | hmem
    · exact hs
    · exact ih ht t hmem

/-- An accepted definition requires every mandatory check of every stage. -/
theorem mandatory_subset (definition : ControlDefinition) (stage : Stage) :
    definition.toControlFields.mandatory stage ⊆ definition.requiredChecks stage := by
  have h := definition.accepted
  simp only [ControlFields.validateCoverage, unit_bind_ok] at h
  exact checkMandatory_ok _ _ h.2.1 stage (Stage.mem_all stage)

def sample : ControlDefinition where
  requiredChecks := requiredChecks
  allowedTools := {"verification.run"}
  allowedRecoveryModes := {.rollback}
  maximumObservationSeconds := 3600
  requireRevokeApproval := true
  accepted := by decide

end ControlDefinition

structure ControlVersion where
  id : Identifier
  organisationId : Identifier
  credentialId : Identifier
  number : Nat
  definition : ControlDefinition
  digest : Digest
  createdBy : Identifier
  createdAt : AwareDatetime

end Uumi.Contracts
