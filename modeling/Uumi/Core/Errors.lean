import Uumi.Contracts.Base

/-! Exceptions raised by the services, with their messages. -/
namespace Uumi.Core
open Uumi.Contracts

inductive Error where
  | revisionConflict (message : String)
  | leaseConflict (message : String)
  | transitionRejected (message : String)
  | policyViolation (stage : Stage) (missing : Finset String)
  | runNotFound (message : String)
  | activeRunConflict (message : String)
  | idempotencyConflict (message : String)
  | storageIntegrity (message : String)
  | resourceNotFound (message : String)
  | resourceConflict (message : String)
  | capability (message : String)
  | approval (message : String)
  | authorization (message : String)
  | playbook (message : String)
  /-- A browser that is where its provider has to sign in again. -/
  | authenticationRequired (message : String)
  /-- Firestore refuses to create a document that exists. -/
  | alreadyExists (message : String)
  /-- A contract validator rejected a value. -/
  | validation (message : String)
  /-- A plain value error. -/
  | value (message : String)
  /-- A key that a mapping does not have. -/
  | key (name : String)
  /-- An error of a connector, with its code. -/
  | connector (code message : String) (retryable : Bool)
  /-- A connector does not know whether its mutation took effect. -/
  | ambiguousMutation (message : String)
  /-- A publisher marks an event that is not its own, or not as it is. -/
  | outboxLease (message : String)
  /-- Any other exception, such as one of a client library. -/
  | runtime (message : String)
  /-- A stage that ends with an error of a tool. -/
  | stageExecution (message : String) (retryable : Bool)
  /-- A stage that waits for somebody, with the text of its JSON output. -/
  | browserPause (message output : String)
  deriving DecidableEq

namespace Error

/-- The errors that a run transition raises on purpose. -/
def IsTransitionError : Error → Prop
  | .revisionConflict _ | .leaseConflict _ | .transitionRejected _ | .policyViolation _ _ => True
  | _ => False

instance (e : Error) : Decidable e.IsTransitionError := by
  cases e <;> simp only [IsTransitionError] <;> infer_instance

def className : Error → String
  | .revisionConflict _ => "RevisionConflictError"
  | .leaseConflict _ => "LeaseConflictError"
  | .transitionRejected _ => "TransitionRejectedError"
  | .policyViolation _ _ => "PolicyViolationError"
  | .runNotFound _ => "RunNotFoundError"
  | .activeRunConflict _ => "ActiveRunConflictError"
  | .idempotencyConflict _ => "IdempotencyConflictError"
  | .storageIntegrity _ => "StorageIntegrityError"
  | .resourceNotFound _ => "ResourceNotFoundError"
  | .resourceConflict _ => "ResourceConflictError"
  | .capability _ => "CapabilityError"
  | .approval _ => "ApprovalError"
  | .authorization _ => "AuthorizationError"
  | .playbook _ => "PlaybookError"
  | .authenticationRequired _ => "AuthenticationRequiredError"
  | .alreadyExists _ => "AlreadyExists"
  | .validation _ => "ValidationError"
  | .value _ => "ValueError"
  | .key _ => "KeyError"
  | .connector _ _ _ => "ConnectorError"
  | .ambiguousMutation _ => "AmbiguousMutationError"
  | .outboxLease _ => "OutboxLeaseError"
  | .runtime _ => "RuntimeError"
  | .stageExecution _ _ => "StageExecutionError"
  | .browserPause _ _ => "BrowserPauseError"

end Error
end Uumi.Core
