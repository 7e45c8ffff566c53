import Uumi.Coordinator.Rollout

/-! The stages around a revocation: the first requires an approval of every protected step, the second
executes the steps, verifies replacement and rejection, and disables the old secret. -/
namespace Uumi.Coordinator
open Uumi.Contracts Uumi.Core Uumi.Foundations Uumi.Policy Uumi.Storage

def disableOld (secretStore : Identifier) (reference : Text 0 1024) : OperationStep where
  id := ⟨"secret_store_disable_old", by decide⟩
  stage := .revoke
  tool := ⟨"secretStore.disableVersion", by decide⟩
  operation := ⟨"disable", by decide⟩
  objective := ⟨"Disable the superseded secret-store version.", by decide⟩
  parameters := [("connection_id", .text secretStore.text), ("version", .text reference.value)]
  evidenceChecks := {"old-secret-disabled"}
  checks_nonempty := by decide

def oldGeneration (catalog : Catalog) (run : RotationRun) : Except Error CredentialGeneration := do
  let id ← requiredId run.currentGenerationId "old generation"
  getGeneration catalog run.organisationId id

def revocationSteps (tools : Finset String) (context : RotationContext) (old : CredentialGeneration) :
    List OperationStep :=
  (stepsOf tools context .revoke).map ProviderStep.toOperationStep ++
    (old.secretReference.map (disableOld context.secretStore.id)).toList

def protectedSteps (hashes : Hashes) (peers : Peers) (catalog : Catalog) (run : RotationRun) :
    Except Error (List OperationStep) := do
  let version ← control hashes catalog run
  let context ← rotationContext hashes peers catalog run
  let old ← oldGeneration catalog run
  let tools := version.definition.protectedTools
  return ((revocationSteps tools context old).filter (·.tool.value ∈ tools)).map fun step =>
    { step with isProtected := true }

def approvalPayload (hashes : Hashes) (catalog : Catalog) (run : RotationRun) (step : OperationStep) :
    Except Error (String × Parameters) := do
  let context ← stepContext hashes catalog run
  let payload ← resolve context step.parameters
  let (connectionId, payload) ← popConnection payload
    (.value s!"protected operation {step.id.text} has no connection_id")
  return (connectionId, payload.filter (·.1 ≠ "approval_id"))

def approveStep (hashes : Hashes) (peers : Peers) (catalog : Catalog) (run : RotationRun) (step : OperationStep) :
    Except Error Approval := do
  let (connectionId, payload) ← approvalPayload hashes catalog run step
  approvalForStep hashes peers catalog run step payload connectionId false true

def approval (hashes : Hashes) (peers : Peers) (catalog : Catalog) (run : RotationRun) :
    Except Error StageOutcome := do
  let version ← control hashes catalog run
  if version.definition.requireRevokeApproval then do
    let steps ← protectedSteps hashes peers catalog run
    let approvals ← collect steps (approveStep hashes peers catalog run)
    raiseIf (approvals = []) (.value "revocation controls declare no protected approval action")
    return { checks := {"approval-valid", "action-digest-valid", "evidence-current"}, evidenceIds := [] }
  else
    return { checks := {"approval-not-required", "evidence-current"}, evidenceIds := [] }

def requiresProviderRevocation (browserManaged : Bool) (providerId : Option (Text 0 256)) : Bool :=
  !browserManaged || providerId.isSome

def revokeAtProvider (hashes : Hashes) (peers : Peers) (catalog : Catalog) (run : RotationRun)
    (context : RotationContext) (old : CredentialGeneration) : Except Error (List Output × List Identifier) :=
  if requiresProviderRevocation context.browserPlaybook.isSome old.providerId then
    executeProviderSteps hashes peers catalog run context .revoke
  else
    return ([[("outcome", .str "Provider revocation not applicable"),
      ("reason", .str "bootstrap generation has no provider credential")]], [])

def disableSecret (hashes : Hashes) (peers : Peers) (catalog : Catalog) (run : RotationRun)
    (context : RotationContext) (old : CredentialGeneration) : Except Error (List Identifier) :=
  match old.secretReference with
  | none => return []
  | some reference => do
    let (result, ids) ← executeOperation hashes peers catalog run (disableOld context.secretStore.id reference)
    raiseIf (Output.text? result "state" ≠ some "DISABLED") (.value "old secret version was not disabled")
    return ids

def revocationChecks (replacement rejection : VerificationReport) (secretReference : Option (Text 0 1024))
    (browserManaged : Bool) : Except Error (Finset String) := do
  raiseIf (¬ browserManaged ∧ "credential-accepted" ∉ replacement.checks)
    (.value "revocation has no replacement credential authentication proof")
  raiseIf (¬ ({"secret-version-enabled"} ∪
      (if browserManaged then ∅ else {"provider-credential-revoked", "credential-rejected"}) ⊆ rejection.checks))
    (.value "revocation has incomplete old-credential rejection proof")
  raiseIf (secretReference = none) (.value "revocation has no old secret version to disable")
  return {"old-revoked", "replacement-valid", "old-rejected", "old-secret-disabled"}

def revocationReports (hashes : Hashes) (peers : Peers) (catalog : Catalog) (run : RotationRun) :
    Except Error (VerificationReport × VerificationReport × Catalog) := do
  let (replacement, catalog) ← runVerification hashes peers catalog run false false (some .verify)
    (some "replacement")
  raiseIf (replacement.status ≠ .passed) (.value "replacement credential failed verification before revocation")
  let (rejection, catalog) ← runVerification hashes peers catalog run true false (some .revoke)
    (some "old-rejected")
  raiseIf (rejection.status ≠ .passed) (.value "old credential still works after provider revocation")
  return (replacement, rejection, catalog)

/-- `_revoke`. The incident of the run is contained by the last parameter. -/
def revoke (hashes : Hashes) (peers : Peers) (catalog : Catalog) (run : RotationRun)
    (containIncident : Except Error Unit) : Except Error (StageOutcome × Catalog) := do
  let context ← rotationContext hashes peers catalog run
  let old ← oldGeneration catalog run
  let (outputs, evidence) ← revokeAtProvider hashes peers catalog run context old
  let (replacement, rejection, catalog) ← revocationReports hashes peers catalog run
  raiseIf (context.browserPlaybook.isSome ∧
      requiresProviderRevocation context.browserPlaybook.isSome old.providerId ∧
      ¬ ∃ output ∈ outputs, Output.text? output "outcome" = some "Step completed")
    (.value "browser playbook did not prove credential revocation")
  let ids ← disableSecret hashes peers catalog run context old
  let current ← requiredId run.currentGenerationId "old generation"
  let (_, store) ← Generation.revoke catalog.toInventoryStore run.organisationId current rejection.id
    (peers.clock (.revoking rejection.id))
  let catalog := { catalog with toInventoryStore := store }
  containIncident
  let _ ← verificationChecks hashes catalog run replacement .verify
  let checks ← revocationChecks replacement rejection old.secretReference context.browserPlaybook.isSome
  return ({
    checks
    evidenceIds := (evidence ++ ids ++ replacement.evidenceIds ++ rejection.evidenceIds).eraseDups }, catalog)

end Uumi.Coordinator
