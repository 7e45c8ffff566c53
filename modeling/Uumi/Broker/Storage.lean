import Uumi.Contracts.Tool
import Uumi.Foundations.Documents

/-! The broker's repository of tool attempts. Every operation is one transaction: it writes all of its change, or
raises and writes nothing. -/
namespace Uumi.Broker
open Uumi.Contracts Uumi.Core Uumi.Foundations

abbrev Attempts := Collection (Identifier × Identifier) ToolAttempt

def sameAttempt (attempt : ToolAttempt) (request : ToolRequest) (requestHash : Digest) : Except Error Unit :=
  raiseIf (attempt.organisationId ≠ request.organisationId ∨ attempt.runId ≠ request.runId ∨
      attempt.tool ≠ request.tool ∨ attempt.requestDigest ≠ requestHash)
    (.resourceConflict s!"tool request ID {request.id.text} is bound to different parameters")

def current (attempts : Attempts) (request : ToolRequest) (requestHash : Digest) (missing : String) :
    Except Error ToolAttempt := do
  let attempt ← required (attempts request.key)
    (.storageIntegrity s!"tool request {request.id.text} {missing}")
  sameAttempt attempt request requestHash
  return attempt

namespace Attempts

def attempt (attempts : Attempts) (request : ToolRequest) (requestHash : Digest) :
    Except Error (Option ToolAttempt) :=
  match attempts request.key with
  | none => .ok none
  | some attempt => do
    sameAttempt attempt request requestHash
    return some attempt

/-- The attempt that `begin` creates. -/
def started (request : ToolRequest) (requestHash : Digest) (reconciliation : Parameters)
    (now leaseExpiresAt : AwareDatetime) : ToolAttempt where
  id := request.id
  organisationId := request.organisationId
  runId := request.runId
  requestDigest := requestHash
  tool := request.tool
  status := .running
  reconciliation := reconciliation
  startedAt := now
  leaseExpiresAt := leaseExpiresAt
  terminal := by simp
  no_checkpoint := by simp

def begin (attempts : Attempts) (request : ToolRequest) (requestHash : Digest) (reconciliation : Parameters)
    (now leaseExpiresAt : AwareDatetime) : Except Error Attempts :=
  match attempts request.key with
  | some stored => do
    sameAttempt stored request requestHash
    .error (.resourceConflict s!"tool request {request.id.text} is already running")
  | none => .ok (attempts.set request.key
      (started request requestHash reconciliation now leaseExpiresAt))

def reclaim (attempts : Attempts) (request : ToolRequest) (requestHash : Digest)
    (expectedExpiry now leaseExpiresAt : AwareDatetime) : Except Error Attempts := do
  let attempt ← current attempts request requestHash "disappeared"
  raiseIf (attempt.status ≠ .running ∨ attempt.leaseExpiresAt.instant ≠ expectedExpiry.instant ∨
      now < attempt.leaseExpiresAt ∨ attempt.checkpoint.isSome)
    (.resourceConflict s!"tool request {request.id.text} cannot be reclaimed")
  return attempts.set request.key { attempt with leaseExpiresAt }

def checkpointed (attempt : ToolAttempt) (result : ToolResult) (running : attempt.status = .running) :
    ToolAttempt :=
  { attempt with
    checkpoint := some result
    no_checkpoint := fun h => absurd running h }

def completed (attempts : Attempts) (request : ToolRequest) (attempt : ToolAttempt) (result : ToolResult) :
    Except Error Attempts :=
  if ∃ earlier ∈ attempt.result, earlier.Same result then .ok attempts
  else .error (.resourceConflict s!"tool request {request.id.text} already completed")

def checkpoint (attempts : Attempts) (request : ToolRequest) (requestHash : Digest) (result : ToolResult) :
    Except Error Attempts := do
  let attempt ← current attempts request requestHash "was not started"
  if running : attempt.status = .running then
    raiseIf (∃ earlier ∈ attempt.checkpoint, ¬ earlier.Same result)
      (.resourceConflict s!"tool request {request.id.text} checkpoint changed")
    return attempts.set request.key (checkpointed attempt result running)
  else completed attempts request attempt result

def terminated (attempt : ToolAttempt) (result : ToolResult) (now : AwareDatetime) : ToolAttempt :=
  { attempt with
    status := if result.succeeded then .succeeded else .failed
    result := some result
    checkpoint := none
    completedAt := some now
    terminal := by
      simp only [Option.isSome_some, and_self, iff_true]
      split <;> nofun
    no_checkpoint := fun _ => rfl }

def finish (attempts : Attempts) (request : ToolRequest) (requestHash : Digest) (result : ToolResult)
    (now : AwareDatetime) : Except Error Attempts := do
  let attempt ← current attempts request requestHash "was not started"
  if attempt.status = .running then
    return attempts.set request.key (terminated attempt result now)
  else completed attempts request attempt result

end Attempts

/-- The attempt of a request is stored under its key and has its digest. -/
theorem current_ok {attempts : Attempts} {request : ToolRequest} {requestHash : Digest} {missing : String}
    {attempt : ToolAttempt} :
    current attempts request requestHash missing = .ok attempt ↔
      attempts request.key = some attempt ∧ sameAttempt attempt request requestHash = .ok () := by
  simp only [current, required_bind_ok, unit_bind_ok, pure_ok]
  constructor
  · rintro ⟨_, hr, hs, rfl⟩
    exact ⟨hr, hs⟩
  · rintro ⟨hr, hs⟩
    exact ⟨_, hr, hs, rfl⟩

namespace Attempts

/-- What is found for a request is what is stored under its key. -/
theorem attempt_ok {attempts : Attempts} {request : ToolRequest} {requestHash : Digest} {found : Option ToolAttempt}
    (h : attempts.attempt request requestHash = .ok found) : attempts request.key = found := by
  unfold attempt at h
  cases hk : attempts request.key with
  | none =>
    rw [hk] at h
    cases h
    rfl
  | some stored =>
    rw [hk] at h
    simp only [unit_bind_ok, pure_ok] at h
    exact h.2

/-- An attempt begins where none is stored. -/
theorem begin_ok {attempts after : Attempts} {request : ToolRequest} {requestHash : Digest}
    {reconciliation : Parameters} {now leaseExpiresAt : AwareDatetime}
    (h : attempts.begin request requestHash reconciliation now leaseExpiresAt = .ok after) :
    attempts request.key = none ∧
      after = attempts.set request.key
        (started request requestHash reconciliation now leaseExpiresAt) := by
  unfold begin at h
  cases hk : attempts request.key with
  | none =>
    rw [hk] at h
    cases h
    exact ⟨rfl, rfl⟩
  | some stored =>
    rw [hk] at h
    simp at h

/-- An attempt is reclaimed from the lease that was seen to expire. -/
theorem reclaim_ok {attempts after : Attempts} {request : ToolRequest} {requestHash : Digest}
    {expectedExpiry now leaseExpiresAt : AwareDatetime}
    (h : attempts.reclaim request requestHash expectedExpiry now leaseExpiresAt = .ok after) :
    ∃ attempt, attempts request.key = some attempt ∧ attempt.status = .running ∧
      attempt.leaseExpiresAt.instant = expectedExpiry.instant ∧ attempt.leaseExpiresAt ≤ now ∧
      attempt.checkpoint = none ∧
      after = attempts.set request.key { attempt with leaseExpiresAt } := by
  simp only [reclaim] at h
  rw [bind_ok] at h
  obtain ⟨attempt, hc, h⟩ := h
  simp only [unit_bind_ok, raiseIf_ok, not_or, not_not, AwareDatetime.not_lt, Bool.not_eq_true,
    Option.isSome_eq_false_iff, Option.isNone_iff_eq_none, pure_ok] at h
  obtain ⟨⟨hs, hl, hn, hp⟩, rfl⟩ := h
  exact ⟨attempt, (current_ok.mp hc).1, hs, hl, hn, hp, rfl⟩

/-- A checkpoint is stored in a running attempt, or repeats the result of a terminal one. -/
theorem checkpoint_ok {attempts after : Attempts} {request : ToolRequest} {requestHash : Digest} {result : ToolResult}
    (h : attempts.checkpoint request requestHash result = .ok after) :
    ∃ attempt, attempts request.key = some attempt ∧
      ((∃ running : attempt.status = .running, (∀ earlier ∈ attempt.checkpoint, earlier.Same result) ∧
          after = attempts.set request.key (checkpointed attempt result running)) ∨
        (attempt.status ≠ .running ∧ (∃ earlier ∈ attempt.result, earlier.Same result) ∧ after = attempts)) := by
  simp only [checkpoint] at h
  rw [bind_ok] at h
  obtain ⟨attempt, hc, h⟩ := h
  refine ⟨attempt, (current_ok.mp hc).1, ?_⟩
  split at h
  · rename_i running
    simp only [unit_bind_ok, raiseIf_ok, not_exists, not_and, not_not, pure_ok] at h
    exact .inl ⟨running, h.1, h.2.symm⟩
  · rename_i running
    unfold completed at h
    split at h
    · rename_i same
      cases h
      exact .inr ⟨running, same, rfl⟩
    · cases h

/-- A result ends a running attempt, or repeats the result of a terminal one. -/
theorem finish_ok {attempts after : Attempts} {request : ToolRequest} {requestHash : Digest} {result : ToolResult}
    {now : AwareDatetime} (h : attempts.finish request requestHash result now = .ok after) :
    ∃ attempt, attempts request.key = some attempt ∧
      ((attempt.status = .running ∧
          after = attempts.set request.key (terminated attempt result now)) ∨
        (attempt.status ≠ .running ∧ (∃ earlier ∈ attempt.result, earlier.Same result) ∧ after = attempts)) := by
  simp only [finish] at h
  rw [bind_ok] at h
  obtain ⟨attempt, hc, h⟩ := h
  refine ⟨attempt, (current_ok.mp hc).1, ?_⟩
  split at h
  · rename_i running
    simp only [pure_ok] at h
    exact .inl ⟨running, h.symm⟩
  · rename_i running
    unfold completed at h
    split at h
    · rename_i same
      cases h
      exact .inr ⟨running, same, rfl⟩
    · cases h

end Attempts
end Uumi.Broker
