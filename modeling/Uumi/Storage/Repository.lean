import Uumi.Contracts.Event
import Uumi.Policy.Digest
import Uumi.State.Machine

/-! What the run repository checks and builds on the way to a write: command hashes, identity
checks, outbox records. -/
namespace Uumi.Storage
open Uumi.Contracts Uumi.Core Uumi.Foundations Uumi.Policy

structure MutationResult where
  run : RotationRun
  step : RunStep
  applied : Bool
  deriving DecidableEq

abbrev Transition := RotationRun → Except Error RotationRun

def creationHash (hashing : Hashing) (command : CreateRunCommand) : Digest :=
  hashing.digest (creationPayload hashing command)

def mutationHash (hashing : Hashing) (command : RunCommand) : Digest :=
  hashing.digest (commandPayload hashing command)

def validateCreate (run : RotationRun) (command : CreateRunCommand) : Except Error Unit :=
  raiseIf (run.organisationId ≠ command.organisationId ∨ run.credentialId ≠ command.credentialId ∨
      run.controlVersion ≠ command.controlVersion ∨ run.trigger ≠ command.trigger ∨
      run.id ≠ command.runId.getD run.id)
    (.storageIntegrity "created run does not match its command")

def validateTransition (previous updated : RotationRun) (organisationId : Identifier) :
    Except Error Unit := do
  raiseIf (updated.organisationId ≠ organisationId ∨ updated.id ≠ previous.id)
    (.storageIntegrity "a transition cannot change run identity")
  raiseIf (updated.revision ≠ previous.revision + 1)
    (.storageIntegrity "a transition must increment the revision exactly once")

def buildOutbox (eventId : Identifier) (run : RotationRun) (kind : EventKind) (actorId : Identifier)
    (occurredAt : AwareDatetime) (payload : List (String × EventValue)) : OutboxEvent where
  event :=
    { id := eventId
      organisationId := run.organisationId
      runId := run.id
      credentialId := run.credentialId
      kind := kind
      revision := run.revision
      stage := run.stage
      status := run.status
      actorId := actorId
      occurredAt := occurredAt
      payload := payload }
  availableAt := occurredAt

def resolvedEvent (kind : EventKind) (run : RotationRun) : EventKind :=
  if run.status = .completed then .runCompleted else kind

section
variable {hashing : Hashing}

private theorem digest_injective (h : Function.Injective hashing.sha256) : Function.Injective hashing.digest :=
  fun _ _ he => Json.text_injective (h he)

/-- Commands with one hash are one command. -/
theorem mutationHash_injective (h : Function.Injective hashing.sha256) :
    Function.Injective (mutationHash hashing) :=
  fun _ _ he => commandPayload_injective (digest_injective h he)

/-- Create commands with one hash differ in their ids at most. -/
theorem creationHash_eq (h : Function.Injective hashing.sha256) {c d : CreateRunCommand}
    (he : creationHash hashing c = creationHash hashing d) : { d with id := c.id } = c :=
  creationPayload_injective (digest_injective h he)

/-- A mutation and a creation have different hashes. -/
theorem mutationHash_ne_creationHash (h : Function.Injective hashing.sha256) (c : RunCommand)
    (d : CreateRunCommand) : mutationHash hashing c ≠ creationHash hashing d :=
  fun he => commandPayload_ne_creationPayload c d (digest_injective h he)

end
end Uumi.Storage
