import Uumi.Contracts.Run
import Uumi.Foundations.Json

/-! Calls of tools through the broker, their results and the attempts that record them. -/
namespace Uumi.Contracts
open Uumi.Core Uumi.Foundations

/-- A call of a tool through the broker. -/
structure ToolRequest where
  id : Identifier
  organisationId : Identifier
  runId : Identifier
  agentId : Identifier
  tool : Text 1 128
  connectionId : Identifier
  payload : List (String × Json) := []
  fencingToken : Nat
  token_pos : 0 < fencingToken

def ToolRequest.key (request : ToolRequest) : Identifier × Identifier := (request.organisationId, request.id)

/-- Every error code of the sources fits its bound. -/
structure ToolResult where
  requestId : Identifier
  succeeded : Bool
  result : List (String × Json) := []
  errorCode : Option String := none
  evidenceIds : List Identifier := []

namespace ToolResult

/-- What results are compared by: their fields, and their mappings whatever the order of the keys. -/
def content (result : ToolResult) : Identifier × Bool × String × Option String × List Identifier :=
  (result.requestId, result.succeeded, (Json.obj result.result).sortKeys.text, result.errorCode, result.evidenceIds)

/-- Equality of results. -/
def Same (a b : ToolResult) : Prop := a.content = b.content

instance (a b : ToolResult) : Decidable (a.Same b) := by
  unfold Same
  infer_instance

/-- A result has its own content. -/
theorem Same.refl (a : ToolResult) : a.Same a := rfl

/-- Having the same content is symmetric. -/
theorem Same.symm {a b : ToolResult} (h : a.Same b) : b.Same a := Eq.symm h

/-- Having the same content is transitive. -/
theorem Same.trans {a b c : ToolResult} (h : a.Same b) (h' : b.Same c) : a.Same c := Eq.trans h h'

/-- Results with the same content succeed alike. -/
theorem Same.succeeded {a b : ToolResult} (h : a.Same b) : a.succeeded = b.succeeded :=
  congrArg (fun content => content.2.1) h

end ToolResult

inductive ToolAttemptStatus where
  | running | succeeded | failed
  deriving DecidableEq

/-- The record of a request that the broker began to execute. A terminal attempt has a result and a completion time,
and keeps no checkpoint. -/
structure ToolAttempt where
  id : Identifier
  organisationId : Identifier
  runId : Identifier
  requestDigest : Digest
  tool : Text 1 128
  status : ToolAttemptStatus
  result : Option ToolResult := none
  checkpoint : Option ToolResult := none
  reconciliation : Parameters := []
  startedAt : AwareDatetime
  leaseExpiresAt : AwareDatetime
  completedAt : Option AwareDatetime := none
  terminal : status ≠ .running ↔ result.isSome ∧ completedAt.isSome
  no_checkpoint : status ≠ .running → checkpoint = none

namespace ToolAttempt

/-- A terminal attempt has a result. -/
theorem result_of_terminal (attempt : ToolAttempt) (h : attempt.status ≠ .running) :
    ∃ result, attempt.result = some result :=
  Option.isSome_iff_exists.mp (attempt.terminal.mp h).1

/-- Only a running attempt has a checkpoint. -/
theorem running_of_checkpoint (attempt : ToolAttempt) {result : ToolResult}
    (h : attempt.checkpoint = some result) : attempt.status = .running := by
  by_contra hs
  rw [attempt.no_checkpoint hs] at h
  cases h

end ToolAttempt
end Uumi.Contracts
