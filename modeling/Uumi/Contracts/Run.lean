import Uumi.Core.Errors
import Uumi.Foundations.Results

/-! The rotation run, its lease, its failure and the steps recorded for it. A run value
carries the proof that the model validator accepts it. -/
namespace Uumi.Contracts
open Uumi.Foundations Uumi.Core

/-- Text whose length lies between the two bounds of its field. -/
structure Text (min max : Nat) where
  value : String
  bounded : min ≤ value.length ∧ value.length ≤ max
  deriving DecidableEq

/-- Texts with one value are one text. -/
theorem Text.value_injective {min max : Nat} : Function.Injective (@Text.value min max) := by
  rintro ⟨a, _⟩ ⟨b, _⟩ h
  cases h
  rfl

-- Texts that concrete records share.
def platformOne : Text 1 64 := ⟨"platform-1", by decide⟩
def platformTwo : Text 1 64 := ⟨"platform-2", by decide⟩
def keyResource : Text 1 1024 := ⟨"projects/demo/secrets/key", by decide⟩
def keyVersionOne : Text 0 1024 := ⟨"projects/demo/secrets/key/versions/1", by decide⟩
def keyVersionTwo : Text 0 1024 := ⟨"projects/demo/secrets/key/versions/2", by decide⟩
def providerKeyTwo : Text 0 256 := ⟨"key-2", by decide⟩
def revokeOperation : Text 1 96 := ⟨"revoke", by decide⟩

abbrev Digest := String

structure StageProof where
  runId : Identifier
  organisationId : Identifier
  stage : Stage
  checks : Finset String
  evidenceIds : List Identifier
  actorId : Identifier
  recordedAt : AwareDatetime
  checks_nonempty : checks ≠ ∅
  evidence_nonempty : evidenceIds ≠ []
  deriving DecidableEq

structure RuntimeDeployment where
  bindingId : Identifier
  connectionId : Identifier
  service : Text 1 512
  candidateRevision : Text 1 512
  rollbackRevision : Text 1 512
  deriving DecidableEq

structure Trigger where
  source : Text 1 64
  kind : Text 1 96
  eventId : Text 1 256
  actorId : Identifier
  reason : Text 1 1024
  urgency : Text 1 32
  receivedAt : AwareDatetime
  deriving DecidableEq

structure Lease where
  ownerId : Identifier
  fencingToken : Nat
  expiresAt : AwareDatetime
  token_pos : 0 < fencingToken
  deriving DecidableEq

structure Failure where
  code : Text 1 96
  message : Text 1 1024
  retryable : Bool
  evidenceIds : List Identifier
  deriving DecidableEq

structure RunStep where
  id : Identifier
  organisationId : Identifier
  runId : Identifier
  operation : String
  commandHash : Digest
  actorId : Identifier
  beforeStage : Option Stage
  afterStage : Stage
  beforeStatus : Option RunStatus
  afterStatus : RunStatus
  revision : Nat
  proof : Option StageProof
  recordedAt : AwareDatetime
  deriving DecidableEq

/-- The fields of a rotation run before its model validator has run. -/
structure RunFields where
  id : Identifier
  organisationId : Identifier
  credentialId : Identifier
  trigger : Trigger
  controlVersion : Identifier
  stage : Stage := .trigger
  status : RunStatus := .pending
  lease : Option Lease := none
  fencingToken : Nat := 0
  browserPlaybookVersion : Option Identifier := none
  planId : Option Identifier := none
  planHash : Option Digest := none
  currentGenerationId : Option Identifier := none
  targetGenerationId : Option Identifier := none
  deployments : List RuntimeDeployment := []
  failure : Option Failure := none
  recoveryId : Option Identifier := none
  recoveryStage : Option Stage := none
  recoveryMode : Option RecoveryMode := none
  recoveryFailure : Option Failure := none
  recoveryEvidenceIds : List Identifier := []
  createdAt : AwareDatetime
  updatedAt : AwareDatetime
  revision : Nat := 0
  deriving DecidableEq

namespace RunFields

def problemStates : List RunStatus := [.failed, .cleanup]

def recoveryBound (status : RunStatus) : Bool := status == .recovering || status == .compensated

def validateTerminalState (run : RunFields) : Except Error Unit := do
  raiseIf (run.status = .completed ∧ run.stage ≠ .complete)
    (.validation "a completed run must be in the complete stage")
  raiseIf (∃ lease ∈ run.lease, lease.fencingToken ≠ run.fencingToken)
    (.validation "the active lease must use the run fencing token")
  raiseIf (run.status ∈ problemStates ∧ run.failure = none)
    (.validation "failed and cleanup-required runs require failure details")
  raiseIf (run.status ∉ problemStates ∧ run.failure ≠ none)
    (.validation "failure details require a failed or cleanup-required run")
  raiseIf (recoveryBound run.status ≠ run.recoveryStage.isSome)
    (.validation "recovery states require the failed stage binding")
  raiseIf (run.status = .compensated ∧
      (run.recoveryStage = none ∨ run.recoveryMode = none ∨ run.recoveryEvidenceIds = []))
    (.validation "compensated runs require a complete recovery outcome")

/-- What the model validator accepts, clause by clause. -/
structure Valid (run : RunFields) : Prop where
  completed : run.status = .completed → run.stage = .complete
  lease : ∀ lease ∈ run.lease, lease.fencingToken = run.fencingToken
  failure : run.status ∈ problemStates ↔ run.failure ≠ none
  recovery : recoveryBound run.status = run.recoveryStage.isSome
  compensated : run.status = .compensated →
    run.recoveryStage ≠ none ∧ run.recoveryMode ≠ none ∧ run.recoveryEvidenceIds ≠ []

/-- The validator of terminal states accepts exactly the valid runs. -/
theorem validateTerminalState_ok (run : RunFields) :
    validateTerminalState run = .ok () ↔ run.Valid := by
  simp only [validateTerminalState, unit_bind_ok, raiseIf_ok]
  constructor
  · rintro ⟨h1, h2, h3, h4, h5, h6⟩
    refine ⟨?_, ?_, ?_, not_not.mp h5, ?_⟩
    · intro h
      by_contra hs
      exact h1 ⟨h, hs⟩
    · intro lease hl
      by_contra ht
      exact h2 ⟨lease, hl, ht⟩
    · constructor
      · intro hp hf
        exact h3 ⟨hp, hf⟩
      · intro hf
        by_contra hp
        exact h4 ⟨hp, hf⟩
    · intro hc
      refine ⟨?_, ?_, ?_⟩ <;> intro h
      · exact h6 ⟨hc, .inl h⟩
      · exact h6 ⟨hc, .inr (.inl h)⟩
      · exact h6 ⟨hc, .inr (.inr h)⟩
  · intro h
    refine ⟨?_, ?_, ?_, ?_, ?_, ?_⟩
    · rintro ⟨hs, hn⟩
      exact hn (h.completed hs)
    · rintro ⟨lease, hl, hn⟩
      exact hn (h.lease lease hl)
    · rintro ⟨hp, hf⟩
      exact h.failure.mp hp hf
    · rintro ⟨hp, hf⟩
      exact hp (h.failure.mpr hf)
    · exact not_not.mpr h.recovery
    · rintro ⟨hc, hn⟩
      obtain ⟨h1, h2, h3⟩ := h.compensated hc
      rcases hn with hn | hn | hn
      · exact h1 hn
      · exact h2 hn
      · exact h3 hn

/-- The validator raises nothing but validation errors. -/
theorem validateTerminalState_error {run : RunFields} {e : Error}
    (h : validateTerminalState run = .error e) : ∃ message, e = .validation message := by
  simp only [validateTerminalState, bind_error, raiseIf_error] at h
  rcases h with ⟨_, h⟩ | ⟨_, _, ⟨_, h⟩ | ⟨_, _, ⟨_, h⟩ | ⟨_, _, ⟨_, h⟩ | ⟨_, _, ⟨_, h⟩ | ⟨_, _, _, h⟩⟩⟩⟩⟩ <;>
    exact ⟨_, h.symm⟩

end RunFields

/-- A rotation run that its model validator accepts. -/
structure RotationRun extends RunFields where
  accepted : RunFields.validateTerminalState toRunFields = .ok ()
  deriving DecidableEq

namespace RotationRun

/-- Every run is valid. -/
theorem valid (run : RotationRun) : run.toRunFields.Valid :=
  (RunFields.validateTerminalState_ok _).mp run.accepted

def modelValidate (fields : RunFields) : Except Error RotationRun :=
  match h : fields.validateTerminalState with
  | .ok () => .ok ⟨fields, h⟩
  | .error e => .error e

/-- The validator accepts a run exactly when it has these fields. -/
theorem modelValidate_ok (fields : RunFields) (run : RotationRun) :
    modelValidate fields = .ok run ↔ run.toRunFields = fields := by
  unfold modelValidate
  constructor
  · split
    · rintro h
      cases h
      rfl
    · nofun
  · rintro rfl
    split
    · rfl
    · rename_i e he
      rw [run.accepted] at he
      cases he

/-- Valid fields are a run. -/
theorem modelValidate_of_valid {fields : RunFields} (h : fields.Valid) :
    ∃ run, modelValidate fields = .ok run ∧ run.toRunFields = fields := by
  refine ⟨⟨fields, (RunFields.validateTerminalState_ok _).mpr h⟩, ?_, rfl⟩
  exact (modelValidate_ok _ _).mpr rfl

/-- Any other fields are refused. -/
theorem modelValidate_of_not_valid {fields : RunFields} (h : ¬ fields.Valid) :
    ∃ message, modelValidate fields = .error (.validation message) := by
  unfold modelValidate
  split
  · rename_i hok
    exact absurd ((RunFields.validateTerminalState_ok _).mp hok) h
  · rename_i e he
    obtain ⟨message, rfl⟩ := RunFields.validateTerminalState_error he
    exact ⟨message, rfl⟩

def sample : RotationRun where
  id := runOne
  organisationId := organisationOne
  credentialId := credentialOne
  trigger :=
    { source := ⟨"dashboard", by decide⟩
      kind := ⟨"rotation-requested", by decide⟩
      eventId := ⟨"event-1", by decide⟩
      actorId := operatorOne
      reason := ⟨"scheduled", by decide⟩
      urgency := ⟨"normal", by decide⟩
      receivedAt := ⟨0, 0⟩ }
  controlVersion := controlsOne
  createdAt := ⟨0, 0⟩
  updatedAt := ⟨0, 0⟩
  accepted := by decide

def sampleRecovering : RotationRun where
  toRunFields :=
    { sample.toRunFields with
      stage := .deploy
      status := .recovering
      lease := some { ownerId := workerOne, fencingToken := 2, expiresAt := ⟨100, 0⟩, token_pos := Nat.two_pos }
      fencingToken := 2
      recoveryStage := some .deploy
      revision := 4 }
  accepted := by decide

end RotationRun
end Uumi.Contracts
