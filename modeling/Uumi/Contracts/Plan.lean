import Mathlib
import Uumi.Contracts.Control

/-! Rotation plans, the operations of their stages and the recovery branches planned for them. -/
namespace Uumi.Contracts
open Uumi.Core Uumi.Foundations

def isWhitespace (c : Char) : Bool :=
  let n := c.toNat
  (0x9 ≤ n && n ≤ 0xd) || n == 0x20 || n == 0x85 || n == 0xa0 || n == 0x1680 || (0x2000 ≤ n && n ≤ 0x200a) ||
    n == 0x2028 || n == 0x2029 || n == 0x202f || n == 0x205f || n == 0x3000

def strip (s : String) : String :=
  String.ofList ((s.toList.dropWhile isWhitespace).rdropWhile isWhitespace)

private theorem dropWhile_rdropWhile {α : Type} {p : α → Bool} {l : List α} (h : l.dropWhile p = l) :
    (l.rdropWhile p).dropWhile p = l.rdropWhile p := by
  cases hr : l.rdropWhile p with
  | nil => rfl
  | cons a r =>
    have hpre : a :: r <+: l := hr ▸ List.rdropWhile_prefix p l
    obtain ⟨t, rfl⟩ := hpre
    have ha : ¬ p a = true := by
      intro ha
      rw [List.cons_append, List.dropWhile_cons_of_pos ha] at h
      have hlen := congrArg List.length h
      have hle := (List.dropWhile_suffix p (l := r ++ t)).length_le
      rw [List.length_cons] at hlen
      omega
    rw [List.dropWhile_cons_of_neg ha]

/-- A stripped text has nothing left to strip. -/
@[simp] theorem strip_strip (s : String) : strip (strip s) = strip s := by
  rw [strip, strip, String.toList_ofList]
  have hdrop := dropWhile_rdropWhile (List.dropWhile_idempotent isWhitespace s.toList)
  rw [hdrop, List.rdropWhile_idempotent]

/-- A text without blanks has nothing to strip. -/
theorem strip_of_solid {s : String} (h : ∀ c ∈ s.toList, isWhitespace c = false) : strip s = s := by
  have hdrop : s.toList.dropWhile isWhitespace = s.toList := by
    cases hs : s.toList with
    | nil => rfl
    | cons c cs => rw [List.dropWhile_cons_of_neg (by simp [h c (by simp [hs])])]
  rw [strip, hdrop, List.rdropWhile_eq_self_iff.mpr, String.ofList_toList]
  intro hne
  simp [h _ (List.getLast_mem hne)]

def Text.build (min max : Nat) (field value : String) : Except Error (Text min max) :=
  if h : min ≤ (strip value).length ∧ (strip value).length ≤ max then .ok ⟨strip value, h⟩
  else .error (.validation s!"{field} should have between {min} and {max} characters")

def Identifier.build (value : String) : Except Error Identifier :=
  if h : identifierAccepts (strip value) = true then .ok ⟨strip value, h⟩
  else .error (.validation "value should match the identifier pattern")

/-- One operation of a stage, with the checks that its evidence supports. -/
structure OperationStep where
  id : Identifier
  stage : Stage
  tool : Text 3 128
  operation : Text 1 96
  objective : Text 1 1024
  parameters : Parameters := []
  isProtected : Bool := false
  evidenceChecks : Finset String
  checks_nonempty : evidenceChecks ≠ ∅

instance : DecidableEq OperationStep := fun a b =>
  decidable_of_iff
    (a.id = b.id ∧ a.stage = b.stage ∧ a.tool = b.tool ∧ a.operation = b.operation ∧
      a.objective = b.objective ∧ a.parameters = b.parameters ∧ a.isProtected = b.isProtected ∧
      a.evidenceChecks = b.evidenceChecks)
    (by cases a; cases b; simp only [OperationStep.mk.injEq])

inductive RotationStrategy where
  | parallel | dual | immediate | multi
  deriving DecidableEq

def RotationStrategy.value : RotationStrategy → String
  | .parallel => "parallel"
  | .dual => "dual-slot"
  | .immediate => "immediate"
  | .multi => "multi-consumer"

/-- A rollout is a strictly increasing list of percentages that ends at a hundred. -/
structure RotationPlan where
  id : Identifier
  organisationId : Identifier
  runId : Identifier
  credentialId : Identifier
  controlVersion : Identifier
  browserPlaybookVersion : Option Identifier := none
  strategy : RotationStrategy
  targetScopes : Finset String
  consumerIds : List Identifier
  rollout : List Int := [5, 25, 50, 100]
  observationSeconds : Nat
  recoveryIds : Stage → Option Identifier
  consumers_nonempty : consumerIds ≠ []
  observation_bounds : 0 < observationSeconds ∧ observationSeconds ≤ 604800
  recovery_nonempty : ∃ stage, recoveryIds stage ≠ none
  increasing : rollout.Pairwise (· < ·)
  ends_at_hundred : rollout.getLast? = some 100
  within_bounds : ∀ percent ∈ rollout, 0 < percent ∧ percent ≤ 100

/-- Every plan has a step of its rollout. -/
theorem RotationPlan.rollout_nonempty (plan : RotationPlan) : plan.rollout ≠ [] := by
  intro h
  have := plan.ends_at_hundred
  rw [h] at this
  cases this

/-- A recovery branch of the controls, planned for a stage of a run. -/
structure RecoveryPlan where
  id : Identifier
  organisationId : Identifier
  runId : Identifier
  failedStage : Stage
  mode : RecoveryMode
  steps : List RecoveryAction
  preservesOldGeneration : Bool
  requiresApproval : Bool
  steps_nonempty : steps ≠ []

instance : DecidableEq RecoveryPlan := fun a b =>
  decidable_of_iff
    (a.id = b.id ∧ a.organisationId = b.organisationId ∧ a.runId = b.runId ∧
      a.failedStage = b.failedStage ∧ a.mode = b.mode ∧ a.steps = b.steps ∧
      a.preservesOldGeneration = b.preservesOldGeneration ∧ a.requiresApproval = b.requiresApproval)
    (by cases a; cases b; simp only [RecoveryPlan.mk.injEq])

/-- What a recovery that ran to its end stored. -/
structure RecoveryResult where
  id : Identifier
  organisationId : Identifier
  runId : Identifier
  recoveryId : Identifier
  failedStage : Stage
  mode : RecoveryMode
  checks : Finset String
  evidenceIds : List Identifier
  checks_nonempty : checks ≠ ∅
  evidence_nonempty : evidenceIds ≠ []

instance : DecidableEq RecoveryResult := fun a b =>
  decidable_of_iff
    (a.id = b.id ∧ a.organisationId = b.organisationId ∧ a.runId = b.runId ∧
      a.recoveryId = b.recoveryId ∧ a.failedStage = b.failedStage ∧ a.mode = b.mode ∧
      a.checks = b.checks ∧ a.evidenceIds = b.evidenceIds)
    (by cases a; cases b; simp only [RecoveryResult.mk.injEq])

end Uumi.Contracts
