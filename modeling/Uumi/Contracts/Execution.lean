import Uumi.Contracts.Command
import Uumi.Contracts.Plan
import Uumi.Foundations.Json

/-! Stage executions: what the coordinator is asked to execute, and what it records about it. -/
namespace Uumi.Contracts
open Uumi.Core Uumi.Foundations

structure StageExecutionRequest where
  organisationId : Identifier
  runId : Identifier
  stage : Stage
  expectedRevision : Nat
  fencingToken : Nat
  token_pos : 0 < fencingToken

inductive StageExecutionStatus where
  | succeeded | paused | failed | recovered
  deriving DecidableEq, Repr

def StageExecutionStatus.value : StageExecutionStatus → String
  | .succeeded => "succeeded"
  | .paused => "paused"
  | .failed => "failed"
  | .recovered => "recovered"

/-- The fields of a stage execution before its model validator has run. -/
structure ExecutionFields where
  id : Identifier
  organisationId : Identifier
  runId : Identifier
  stage : Stage
  status : StageExecutionStatus
  checks : Finset String := ∅
  evidenceIds : List Identifier := []
  bindings : StageBindings := {}
  recoveryMode : Option RecoveryMode := none
  output : List (String × Json) := []
  reason : Option String := none
  retryable : Bool := false
  startedAt : AwareDatetime
  completedAt : AwareDatetime

namespace ExecutionFields

def completed : List StageExecutionStatus := [.succeeded, .recovered]

def validateResult (fields : ExecutionFields) : Except Error Unit := do
  raiseIf (∃ reason ∈ fields.reason, 1024 < reason.length) (.validation "reason should have at most 1024 characters")
  raiseIf (fields.status ∈ completed ∧ (fields.checks = ∅ ∨ fields.evidenceIds = [] ∨ fields.reason ≠ none))
    (.validation "completed stage execution requires checks and evidence")
  raiseIf (fields.status ∉ completed ∧ fields.reason.getD "" = "")
    (.validation "paused and failed stage execution requires a reason")
  raiseIf (¬ (fields.status = .recovered ↔ fields.recoveryMode ≠ none))
    (.validation "recovered execution requires exactly one recovery mode")

/-- What the model validator accepts, clause by clause. -/
structure Valid (fields : ExecutionFields) : Prop where
  bounded : ∀ reason ∈ fields.reason, reason.length ≤ 1024
  proven : fields.status ∈ completed → fields.checks ≠ ∅ ∧ fields.evidenceIds ≠ [] ∧ fields.reason = none
  explained : fields.status ∉ completed → ∃ reason, fields.reason = some reason ∧ reason ≠ ""
  mode : fields.status = .recovered ↔ fields.recoveryMode ≠ none

private theorem validateResult_ok (fields : ExecutionFields) : fields.validateResult = .ok () ↔ fields.Valid := by
  simp only [validateResult, unit_bind_ok, raiseIf_ok, not_not, not_and, not_or, not_exists, Nat.not_lt]
  constructor
  · rintro ⟨hbounded, hproven, hexplained, hmode⟩
    refine ⟨hbounded, hproven, fun h => ?_, hmode⟩
    cases hr : fields.reason with
    | none => exact absurd (by rw [hr]; rfl) (hexplained h)
    | some reason => exact ⟨reason, rfl, by simpa [hr] using hexplained h⟩
  · rintro ⟨hbounded, hproven, hexplained, hmode⟩
    refine ⟨hbounded, hproven, fun h => ?_, hmode⟩
    obtain ⟨reason, hr, hne⟩ := hexplained h
    simpa [hr] using hne

end ExecutionFields

/-- A stage execution that its model validator accepts. -/
structure StageExecutionResult extends ExecutionFields where
  accepted : ExecutionFields.validateResult toExecutionFields = .ok ()

namespace StageExecutionResult

/-- Every result satisfies its own validator. -/
theorem valid (result : StageExecutionResult) : result.toExecutionFields.Valid :=
  (ExecutionFields.validateResult_ok _).mp result.accepted

/-- Build a result from its fields, whose reason is stripped, or raise what the validator raises. -/
def modelValidate (fields : ExecutionFields) : Except Error StageExecutionResult :=
  match h : ({ fields with reason := fields.reason.map strip } : ExecutionFields).validateResult with
  | .ok () => .ok ⟨{ fields with reason := fields.reason.map strip }, h⟩
  | .error e => .error e

/-- The validator strips the reason and keeps the other fields. -/
theorem modelValidate_ok {fields : ExecutionFields} {result : StageExecutionResult}
    (h : modelValidate fields = .ok result) :
    result.toExecutionFields = { fields with reason := fields.reason.map strip } := by
  unfold modelValidate at h
  split at h
  · cases h
    rfl
  · cases h

/-- A result is what its stripped fields build. -/
theorem modelValidate_of {fields : ExecutionFields} {result : StageExecutionResult}
    (h : result.toExecutionFields = { fields with reason := fields.reason.map strip }) :
    modelValidate fields = .ok result := by
  obtain ⟨stripped, accepted⟩ := result
  subst h
  unfold modelValidate
  split
  · rfl
  · rename_i e he
    cases accepted.symm.trans he

end StageExecutionResult
end Uumi.Contracts
