import Uumi.Contracts.Run

/-! Events of a run and the outbox records that deliver them. -/
namespace Uumi.Contracts

inductive EventKind where
  | runCreated | runStarted | leaseRenewed | stageCompleted | runPaused | runResumed
  | cleanupRequired | runFailed | runCancelled | recoveryStarted | recoveryCompleted | runCompleted
  deriving DecidableEq, Repr

/-- A value of an event payload. -/
inductive EventValue where
  | text (value : String)
  | number (value : Nat)
  deriving DecidableEq

structure RunEvent where
  id : Identifier
  organisationId : Identifier
  runId : Identifier
  credentialId : Identifier
  kind : EventKind
  revision : Nat
  stage : Stage
  status : RunStatus
  actorId : Identifier
  occurredAt : AwareDatetime
  payload : List (String × EventValue)
  deriving DecidableEq

/-- An undelivered outbox record; the delivery fields have their defaults when it is written. -/
structure OutboxEvent where
  event : RunEvent
  availableAt : AwareDatetime
  deriving DecidableEq

end Uumi.Contracts
