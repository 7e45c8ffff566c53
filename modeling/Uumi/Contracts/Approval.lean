import Uumi.Contracts.Plan

/-! Protected actions and the approvals that bind them by digest. -/
namespace Uumi.Contracts
open Uumi.Core Uumi.Foundations

def sameMapping {α : Type} [DecidableEq α] (a b : List (String × α)) : Bool :=
  (a ++ b).all fun entry => a.lookup entry.1 = b.lookup entry.1

private theorem sameMapping_self {α : Type} [DecidableEq α] (a : List (String × α)) : sameMapping a a = true := by
  simp [sameMapping]

/-- Equal mappings have the same entries. -/
theorem lookup_of_sameMapping {α : Type} [DecidableEq α] {a b : List (String × α)}
    (h : sameMapping a b = true) (key : String) : a.lookup key = b.lookup key := by
  simp only [sameMapping, List.all_eq_true, decide_eq_true_eq] at h
  by_cases hk : ∃ entry ∈ a ++ b, entry.1 = key
  · obtain ⟨entry, hmem, rfl⟩ := hk
    exact h entry hmem
  · have absent {c : List (String × α)} (hc : ∀ entry ∈ c, entry ∈ a ++ b) : c.lookup key = none := by
      refine List.lookup_eq_none_iff.mpr fun entry hmem => ?_
      simpa using fun he => hk ⟨entry, hc entry hmem, he.symm⟩
    rw [absent fun _ => List.mem_append_left _, absent fun _ => List.mem_append_right _]

/-- An operation on a credential that needs an approval. -/
structure ProtectedAction where
  id : Identifier
  organisationId : Identifier
  runId : Identifier
  kind : Text 1 96
  resource : Text 1 512
  credentialId : Identifier
  generationId : Identifier
  providerId : Text 1 256
  controlVersion : Identifier
  playbookVersion : Option Identifier := none
  planHash : Digest
  evidenceHash : Digest
  preconditions : List (String × Option ParameterValue) := []
  parameters : Parameters := []
  deriving DecidableEq

def ProtectedAction.equals (a b : ProtectedAction) : Bool :=
  { a with preconditions := [], parameters := [] } = { b with preconditions := [], parameters := [] } &&
    sameMapping a.preconditions b.preconditions && sameMapping a.parameters b.parameters

/-- Every action equals itself. -/
theorem ProtectedAction.equals_self (a : ProtectedAction) : a.equals a = true := by
  simp [equals, sameMapping_self]

inductive ApprovalDecision where
  | pending | approved | rejected | cancelled | moreEvidence | extend
  deriving DecidableEq

/-- A decision has an approver and a time, only an approved action is consumed, and no decision but a
cancellation is later than the expiry. -/
structure Approval where
  id : Identifier
  organisationId : Identifier
  runId : Identifier
  actionId : Identifier
  actionDigest : Digest
  planHash : Digest
  evidenceHash : Digest
  generationId : Identifier
  requestedBy : Identifier
  capabilityHash : Digest
  decision : ApprovalDecision := .pending
  approverId : Option Identifier := none
  expiresAt : AwareDatetime
  createdAt : AwareDatetime
  decidedAt : Option AwareDatetime := none
  consumedAt : Option AwareDatetime := none
  revision : Nat := 0
  decided : decision ≠ .pending ↔ decidedAt.isSome ∧ approverId.isSome
  consumed : consumedAt.isSome → decision = .approved
  in_time : decision ≠ .cancelled → ∀ moment ∈ decidedAt, moment ≤ expiresAt
  deriving DecidableEq

def Approval.validateDecision (approval : Approval) : Except Error Unit := do
  raiseIf ((approval.decision ≠ .pending) ≠ (approval.decidedAt.isSome ∧ approval.approverId.isSome))
    (.validation "a decision requires an approver and decision time")
  raiseIf (approval.consumedAt.isSome ∧ approval.decision ≠ .approved)
    (.validation "only an approved action can be consumed")
  raiseIf (approval.decision ≠ .cancelled ∧ ∃ moment ∈ approval.decidedAt, approval.expiresAt < moment)
    (.validation "an approval decision cannot be recorded after expiry")

/-- The fields of an approval carry what the validator asks for. -/
theorem Approval.validateDecision_ok (approval : Approval) : approval.validateDecision = .ok () := by
  simp only [validateDecision, unit_bind_ok, raiseIf_ok, not_not, ne_eq]
  refine ⟨propext approval.decided, ?_, ?_⟩
  · rintro ⟨hconsumed, hdecision⟩
    exact hdecision (approval.consumed hconsumed)
  · rintro ⟨hdecision, moment, hmoment, hlate⟩
    exact absurd (approval.in_time hdecision moment hmoment) (AwareDatetime.not_le.mpr hlate)

end Uumi.Contracts
