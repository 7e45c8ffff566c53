import Uumi.Contracts.Approval
import Uumi.Core.Errors
import Uumi.Foundations.Documents
import Uumi.Policy.Payloads

/-! The approval service over its repository: a request writes an action and its approval at once, a decision
and a consumption change the approval only. -/
namespace Uumi.Contracts

def Approval.decide (current : Approval) (decision : ApprovalDecision) (actor : Identifier) (now : AwareDatetime)
    (undecided : current.decision = .pending) (decides : decision ≠ .pending)
    (in_time : decision ≠ .cancelled → now < current.expiresAt) : Approval :=
  { current with
    decision, approverId := some actor, decidedAt := some now, revision := current.revision + 1
    decided := ⟨fun _ => ⟨rfl, rfl⟩, fun _ => decides⟩
    consumed := fun h => absurd (current.consumed h) (by rw [undecided]; nofun)
    in_time := fun hd moment hm => by
      cases hm
      exact Int.le_of_lt (in_time hd) }

def Approval.consume (current : Approval) (now : AwareDatetime) (approved : current.decision = .approved) :
    Approval :=
  { current with consumedAt := some now, revision := current.revision + 1, consumed := fun _ => approved }

def Approval.requested (id : Identifier) (action : ProtectedAction) (actionDigest planHash evidenceHash : Digest)
    (requester : Identifier) (capabilityHash : Digest) (expires now : AwareDatetime) : Approval where
  id := id
  organisationId := action.organisationId
  runId := action.runId
  actionId := action.id
  actionDigest := actionDigest
  planHash := planHash
  evidenceHash := evidenceHash
  generationId := action.generationId
  requestedBy := requester
  capabilityHash := capabilityHash
  expiresAt := expires
  createdAt := now
  decided := by simp
  consumed := by simp
  in_time := by simp

end Uumi.Contracts

namespace Uumi.Storage
open Uumi.Contracts Uumi.Core Uumi.Foundations Uumi.Policy

/-- The approvals and the actions, each under organisation and id. -/
structure ApprovalStore where
  approvals : Collection (Identifier × Identifier) Approval
  actions : Collection (Identifier × Identifier) ProtectedAction

def replays (current approval : Approval) : Bool :=
  current = { approval with createdAt := current.createdAt, revision := current.revision }

def storedAction (store : ApprovalStore) (o id : Identifier) (action : ProtectedAction) : Bool :=
  (store.actions (o, id)).any (·.equals action)

/-- `FirestoreApprovalRepository.create`. -/
def createApproval (store : ApprovalStore) (approval : Approval) (action : ProtectedAction) :
    Except Error (Approval × ApprovalStore) :=
  match store.approvals (approval.organisationId, approval.id) with
  | some current => do
    raiseIf (¬ (replays current approval ∧ storedAction store approval.organisationId action.id action))
      (.resourceConflict s!"approval {approval.id.text} already exists")
    return (current, store)
  | none => do
    raiseIf (store.actions (approval.organisationId, action.id)).isSome
      (.resourceConflict s!"action {action.id.text} is already awaiting approval")
    return (approval, {
      approvals := store.approvals.set (approval.organisationId, approval.id) approval
      actions := store.actions.set (approval.organisationId, action.id) action })

def urlSafe (isalnum : String → Bool) (token : String) : Bool :=
  43 ≤ token.length && isalnum (String.ofList (token.toList.filter fun c => c ≠ '-' && c ≠ '_'))

/-- `ApprovalService.request`. -/
def requestApproval (hashing : Hashing) (isalnum : String → Bool) (store : ApprovalStore) (id : Identifier)
    (action : ProtectedAction) (planHash evidenceHash : Digest) (requester : Identifier)
    (expires : AwareDatetime) (token : String) (now : AwareDatetime) : Except Error (Approval × ApprovalStore) := do
  raiseIf (action.planHash ≠ planHash ∨ action.evidenceHash ≠ evidenceHash)
    (.approval "approval hashes do not match the protected action")
  raiseIf (expires ≤ now) (.approval "approval expiry must be in the future")
  raiseIf (urlSafe isalnum token = false) (.approval "approval capability must be a URL-safe 256-bit value")
  createApproval store (Approval.requested id action (hashing.digest (protectedActionPayload action)) planHash
    evidenceHash requester (hashing.sha256 token) expires now) action

/-- `ApprovalService.decide`. -/
def decideApproval (store : ApprovalStore) (o id : Identifier) (revision : Nat) (decision : ApprovalDecision)
    (actor : Identifier) (now : AwareDatetime) : Except Error (Approval × ApprovalStore) :=
  if decides : decision = .pending then .error (.approval "a pending decision cannot be submitted")
  else do
    let current ← required (store.approvals (o, id)) (.resourceNotFound s!"approval {id.text} was not found")
    raiseIf (current.revision ≠ revision)
      (.resourceConflict s!"approval expected revision {revision}, found {current.revision}")
    if undecided : current.decision = .pending then
      if late : decision ≠ .cancelled ∧ current.expiresAt ≤ now then .error (.approval "approval has expired")
      else
        let changed := current.decide decision actor now undecided decides fun h =>
          AwareDatetime.not_le.mp fun hl => late ⟨h, hl⟩
        return (changed, { store with approvals := store.approvals.set (o, id) changed })
    else do
      raiseIf (¬ (current.decision = decision ∧ current.approverId = some actor))
        (.approval "approval already has a decision")
      return (current, store)

/-- The bindings of a consumption: capability, action, plan and evidence. -/
def consumes (current : Approval) (capabilityHash actionDigest planHash evidenceHash : Digest) : Prop :=
  capabilityHash = current.capabilityHash ∧ actionDigest = current.actionDigest ∧ planHash = current.planHash ∧
    evidenceHash = current.evidenceHash

instance (current : Approval) (c a p e : Digest) : Decidable (consumes current c a p e) :=
  inferInstanceAs (Decidable (_ ∧ _ ∧ _ ∧ _))

/-- `FirestoreApprovalRepository.consume`. -/
def consumeStored (store : ApprovalStore) (o id : Identifier)
    (capabilityHash actionDigest planHash evidenceHash : Digest) (now : AwareDatetime) :
    Except Error (Approval × ApprovalStore) := do
  let current ← required (store.approvals (o, id)) (.resourceNotFound s!"approval {id.text} was not found")
  if current.consumedAt.isSome then do
    raiseIf (¬ consumes current capabilityHash actionDigest planHash evidenceHash)
      (.approval "approval capability was consumed with different bindings")
    return (current, store)
  else if approved : current.decision = .approved then do
    raiseIf (current.expiresAt ≤ now) (.approval "approval has expired")
    raiseIf (capabilityHash ≠ current.capabilityHash) (.approval "approval capability binding changed")
    raiseIf (actionDigest ≠ current.actionDigest) (.approval "approval action binding changed")
    raiseIf (planHash ≠ current.planHash) (.approval "approval plan binding changed")
    raiseIf (evidenceHash ≠ current.evidenceHash) (.approval "approval evidence binding changed")
    let changed := current.consume now approved
    return (changed, { store with approvals := store.approvals.set (o, id) changed })
  else .error (.approval "approval was not granted")

/-- `ApprovalService.consume`. -/
def consumeApproval (hashing : Hashing) (store : ApprovalStore) (o id : Identifier) (capability : String)
    (action : ProtectedAction) (planHash evidenceHash : Digest) (now : AwareDatetime) :
    Except Error (Approval × ApprovalStore) := do
  raiseIf (action.planHash ≠ planHash ∨ action.evidenceHash ≠ evidenceHash)
    (.approval "approval hashes do not match the protected action")
  consumeStored store o id (hashing.sha256 capability) (hashing.digest (protectedActionPayload action)) planHash
    evidenceHash now

/-- Where no approval is stored under the id, a request stores a pending one. -/
theorem requestApproval_ok {hashing : Hashing} {isalnum : String → Bool} {store after : ApprovalStore}
    {id requester : Identifier} {action : ProtectedAction} {planHash evidenceHash : Digest}
    {expires now : AwareDatetime} {token : String} {approval : Approval}
    (new : store.approvals (action.organisationId, id) = none) :
    requestApproval hashing isalnum store id action planHash evidenceHash requester expires token now =
        .ok (approval, after) ↔
      action.planHash = planHash ∧ action.evidenceHash = evidenceHash ∧ now < expires ∧
      urlSafe isalnum token = true ∧ store.actions (action.organisationId, action.id) = none ∧
      approval = Approval.requested id action (hashing.digest (protectedActionPayload action)) planHash
        evidenceHash requester (hashing.sha256 token) expires now ∧
      after = {
        approvals := store.approvals.set (action.organisationId, id) approval
        actions := store.actions.set (action.organisationId, action.id) action } := by
  generalize hd : hashing.digest (protectedActionPayload action) = digest
  generalize hr : Approval.requested id action digest planHash evidenceHash requester (hashing.sha256 token)
    expires now = requested
  have ho : requested.organisationId = action.organisationId := by rw [← hr]; rfl
  have hi : requested.id = id := by rw [← hr]; rfl
  simp only [requestApproval, hd, hr, createApproval, ho, hi, new, unit_bind_ok, raiseIf_ok, not_or, not_not,
    AwareDatetime.not_le, Bool.not_eq_false, Bool.not_eq_true, pure_ok, Prod.mk.injEq, Option.isSome_eq_false_iff,
    Option.isNone_iff_eq_none]
  constructor
  · rintro ⟨⟨hp, he⟩, ht, hu, ha, rfl, rfl⟩
    exact ⟨hp, he, ht, hu, ha, rfl, rfl⟩
  · rintro ⟨hp, he, ht, hu, ha, rfl, rfl⟩
    exact ⟨⟨hp, he⟩, ht, hu, ha, rfl, rfl⟩

/-- A decision on a pending approval. -/
theorem decideApproval_ok {store after : ApprovalStore} {o id actor : Identifier} {revision : Nat}
    {decision : ApprovalDecision} {now : AwareDatetime} {current approval : Approval}
    (read : store.approvals (o, id) = some current) (undecided : current.decision = .pending)
    (h : decideApproval store o id revision decision actor now = .ok (approval, after)) :
    ∃ decides in_time, approval = current.decide decision actor now undecided decides in_time ∧
      after = { store with approvals := store.approvals.set (o, id) approval } := by
  unfold decideApproval at h
  split at h
  · cases h
  · rename_i decides
    rw [read] at h
    simp only [required, ok_bind, unit_bind_ok, undecided, ↓reduceDIte] at h
    obtain ⟨_, h⟩ := h
    split at h
    · cases h
    · simp only [pure_ok, Prod.mk.injEq] at h
      obtain ⟨rfl, rfl⟩ := h
      exact ⟨decides, _, rfl, rfl⟩

/-- A consumption of an approved approval. -/
theorem consumeApproval_ok {hashing : Hashing} {store after : ApprovalStore} {o id : Identifier} {capability : String}
    {action : ProtectedAction} {planHash evidenceHash : Digest} {now : AwareDatetime} {current approval : Approval}
    (read : store.approvals (o, id) = some current) (unused : current.consumedAt = none)
    (h : consumeApproval hashing store o id capability action planHash evidenceHash now = .ok (approval, after)) :
    ∃ approved, approval = current.consume now approved ∧ now < current.expiresAt ∧
      current.actionDigest = hashing.digest (protectedActionPayload action) ∧
      after = { store with approvals := store.approvals.set (o, id) approval } := by
  simp only [consumeApproval, unit_bind_ok, consumeStored, read, required, ok_bind, unused, Option.isSome_none,
    Bool.false_eq_true, ↓reduceIte] at h
  obtain ⟨-, h⟩ := h
  split at h
  · rename_i approved
    simp only [unit_bind_ok, raiseIf_ok, not_not, pure_ok, Prod.mk.injEq, AwareDatetime.not_le] at h
    obtain ⟨hlive, -, hdigest, -, -, rfl, rfl⟩ := h
    exact ⟨approved, rfl, hlive, hdigest.symm, rfl⟩
  · cases h

/-- An approval that was requested for an action, then approved and consumed. -/
structure Granted (hashing : Hashing) (store : ApprovalStore) (action : ProtectedAction) (expires : AwareDatetime)
    (approval : Approval) (after : ApprovalStore) : Prop where
  absent : store.actions (action.organisationId, action.id) = none
  new : store.approvals (action.organisationId, approval.id) = none
  organisation : approval.organisationId = action.organisationId
  run : approval.runId = action.runId
  bound : approval.actionId = action.id
  digest : approval.actionDigest = hashing.digest (protectedActionPayload action)
  plan : approval.planHash = action.planHash
  evidence : approval.evidenceHash = action.evidenceHash
  generation : approval.generationId = action.generationId
  expires : approval.expiresAt = expires
  approved : approval.decision = .approved
  consumed : approval.consumedAt.isSome
  actions : after.actions = store.actions.set (action.organisationId, action.id) action
  approvals : after.approvals = store.approvals.set (action.organisationId, approval.id) approval

/-- The three calls that grant an action: a request under a new id, an approval and a consumption. -/
structure GrantCalls (hashing : Hashing) (isalnum : String → Bool) (store : ApprovalStore) (action : ProtectedAction)
    (expires : AwareDatetime) (after : ApprovalStore) where
  id : Identifier
  requester : Identifier
  approver : Identifier
  token : String
  times : Fin 3 → AwareDatetime
  requested : Approval × ApprovalStore
  decided : Approval × ApprovalStore
  approval : Approval
  new : store.approvals (action.organisationId, id) = none
  request : requestApproval hashing isalnum store id action action.planHash action.evidenceHash requester expires
    token (times 0) = .ok requested
  decide : decideApproval requested.2 action.organisationId id requested.1.revision .approved approver (times 1) =
    .ok decided
  consume : consumeApproval hashing decided.2 action.organisationId id token action action.planHash
    action.evidenceHash (times 2) = .ok (approval, after)

/-- The calls of a grant leave the approval granted. -/
theorem GrantCalls.granted {hashing : Hashing} {isalnum : String → Bool} {store after : ApprovalStore}
    {action : ProtectedAction} {expires : AwareDatetime} (calls : GrantCalls hashing isalnum store action expires after) :
    Granted hashing store action expires calls.approval after := by
  obtain ⟨id, requester, approver, token, times, ⟨a₁, s₁⟩, ⟨a₂, s₂⟩, a₃, new, request, decide, consume⟩ := calls
  obtain ⟨-, -, -, -, absent, rfl, rfl⟩ := (requestApproval_ok new).mp request
  obtain ⟨_, _, rfl, rfl⟩ := decideApproval_ok (Collection.set_same ..) rfl decide
  obtain ⟨_, rfl, -, -, rfl⟩ := consumeApproval_ok (Collection.set_same ..) rfl consume
  exact
    { absent, new, organisation := rfl, run := rfl, bound := rfl, digest := rfl, plan := rfl, evidence := rfl
      generation := rfl, expires := rfl, approved := rfl, consumed := rfl, actions := rfl
      approvals := by
        change Collection.set (Collection.set (Collection.set _ _ _) _ _) _ _ = Collection.set _ _ _
        simp only [Collection.set, Function.update_idem]
        rfl }

private theorem decide_pending {store : ApprovalStore} {o id actor : Identifier} {decision : ApprovalDecision}
    {now : AwareDatetime} {current : Approval} (read : store.approvals (o, id) = some current)
    (undecided : current.decision = .pending) (decides : decision ≠ .pending) (live : now < current.expiresAt) :
    decideApproval store o id current.revision decision actor now =
      .ok (current.decide decision actor now undecided decides fun _ => live, { store with
        approvals := store.approvals.set (o, id) (current.decide decision actor now undecided decides fun _ => live) }) := by
  have hlate : ¬ (decision ≠ .cancelled ∧ current.expiresAt ≤ now) := fun h => AwareDatetime.not_le.mpr live h.2
  rw [decideApproval, dif_neg decides, read]
  simp only [required, ok_bind, unit_bind_ok, raiseIf_ok, not_not, true_and, dif_pos undecided, dif_neg hlate]
  rfl

private theorem consume_approved {hashing : Hashing} {store : ApprovalStore} {o id : Identifier} {capability : String}
    {action : ProtectedAction} {now : AwareDatetime} {current : Approval} (read : store.approvals (o, id) = some current)
    (approved : current.decision = .approved) (unused : current.consumedAt = none) (live : now < current.expiresAt)
    (bound : consumes current (hashing.sha256 capability) (hashing.digest (protectedActionPayload action))
      action.planHash action.evidenceHash) :
    consumeApproval hashing store o id capability action action.planHash action.evidenceHash now =
      .ok (current.consume now approved, { store with
        approvals := store.approvals.set (o, id) (current.consume now approved) }) := by
  obtain ⟨hcapability, hdigest, hplan, hevidence⟩ := bound
  rw [consumeApproval, consumeStored, read]
  simp only [required, ok_bind, unused, Option.isSome_none, Bool.false_eq_true, ↓reduceIte, dif_pos approved,
    unit_bind_ok, raiseIf_ok, not_or, not_not, hcapability, hdigest, hplan, hevidence, true_and]
  exact ⟨AwareDatetime.not_le.mpr live, rfl⟩

/-- An action without a request can be granted before its approval expires. -/
theorem exists_grant {hashing : Hashing} {isalnum : String → Bool} {store : ApprovalStore} {action : ProtectedAction}
    {id : Identifier} {token : String} {now expires : AwareDatetime} (person : Identifier)
    (absent : store.actions (action.organisationId, action.id) = none)
    (new : store.approvals (action.organisationId, id) = none) (safe : urlSafe isalnum token = true)
    (live : now < expires) :
    ∃ after, ∃ calls : GrantCalls hashing isalnum store action expires after, calls.approval.id = id := by
  exact ⟨_, {
    id, requester := person, approver := person, token, times := fun _ => now
    requested := _, decided := _, approval := _, new
    request := (requestApproval_ok new).mpr ⟨rfl, rfl, live, safe, absent, rfl, rfl⟩
    decide := decide_pending (Collection.set_same ..) rfl (by decide) live
    consume := consume_approved (Collection.set_same ..) rfl rfl live ⟨rfl, rfl, rfl, rfl⟩ }, rfl⟩

end Uumi.Storage
