import Uumi.Contracts.Run

/-! The checks that each stage requires, and the gate that a stage proof has to pass. -/
namespace Uumi.Policy
open Uumi.Contracts Uumi.Core Uumi.Foundations

def requiredChecks : Stage → Finset String
  | .trigger => {"request-authenticated", "source-deduplicated", "lease-held"}
  | .preflight => {"provider-ready", "credential-known", "scopes-known", "playbook-eligible",
      "management-authenticated", "store-ready", "consumers-known", "runtime-ready", "verifier-ready",
      "approvers-known", "overlap-supported", "mutation-declared", "no-conflict"}
  | .plan => {"plan-bound", "controls-pinned", "plan-hashed", "recovery-ready"}
  | .create => {"replacement-created", "mutation-resolved", "generation-recorded"}
  | .store => {"secret-stored", "consumer-accessible", "plaintext-isolated"}
  | .deploy => {"candidate-deployed", "version-bound", "generation-tagged", "rollback-ready"}
  | .verify => {"provider-valid", "store-valid", "deployment-valid", "telemetry-healthy",
      "coverage-complete", "rollback-ready"}
  | .rollout => {"production-promoted", "rollout-healthy"}
  | .observe => {"telemetry-healthy", "old-use-clear", "consumers-current"}
  | .approval => {"approval-valid", "action-digest-valid", "evidence-current"}
  | .revoke => {"old-revoked", "replacement-valid", "old-rejected", "old-secret-disabled"}
  | .complete => {"consumers-current", "replacement-valid", "old-rejected", "audit-complete"}

/-- A gate defines the required checks of every stage. -/
structure GatePolicy where
  required : Stage → Finset String := requiredChecks

namespace GatePolicy

def validate (policy : GatePolicy) (proof : StageProof) : Except Error Unit :=
  let missing := policy.required proof.stage \ proof.checks
  raiseIf (missing ≠ ∅) (.policyViolation proof.stage missing)

def checks (policy : GatePolicy) (stage : Stage) : Finset String := policy.required stage

/-- A gate lets a proof pass exactly when the proof contains every check of its stage. -/
@[simp] theorem validate_ok (policy : GatePolicy) (proof : StageProof) :
    policy.validate proof = .ok () ↔ policy.checks proof.stage ⊆ proof.checks := by
  simp [validate, checks, Finset.sdiff_eq_empty_iff_subset]

end GatePolicy
end Uumi.Policy
