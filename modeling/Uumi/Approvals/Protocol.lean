import Uumi.Foundations.WriteOnce
import Uumi.Storage.Approvals

/-! The approval service over whole runs: whatever the order of its calls, a decision and a consumption are written
once. -/
namespace Uumi.Approvals
open Uumi.Contracts Uumi.Core Uumi.Foundations Uumi.Policy Uumi.Storage

/-- The calls of the service that may write a document. -/
inductive Call where
  | request (id : Identifier) (action : ProtectedAction) (planHash evidenceHash : Digest) (requester : Identifier)
      (expires : AwareDatetime) (token : String)
  | decide (o id : Identifier) (revision : Nat) (decision : ApprovalDecision) (actor : Identifier)
  | consume (o id : Identifier) (capability : String) (action : ProtectedAction) (planHash evidenceHash : Digest)

def perform (hashing : Hashing) (isalnum : String → Bool) (store : ApprovalStore) (now : AwareDatetime) :
    Call → Except Error (Approval × ApprovalStore)
  | .request id action planHash evidenceHash requester expires token =>
    requestApproval hashing isalnum store id action planHash evidenceHash requester expires token now
  | .decide o id revision decision actor => decideApproval store o id revision decision actor now
  | .consume o id capability action planHash evidenceHash =>
    consumeApproval hashing store o id capability action planHash evidenceHash now

def after (hashing : Hashing) (isalnum : String → Bool) (store : ApprovalStore) (now : AwareDatetime) (call : Call) :
    ApprovalStore :=
  match perform hashing isalnum store now call with
  | .ok (_, written) => written
  | .error _ => store

/-- The four hashes a consumption presents. -/
def Presents (hashing : Hashing) (current : Approval) : Call → Prop
  | .consume _ _ capability action planHash evidenceHash => consumes current (hashing.sha256 capability)
      (hashing.digest (protectedActionPayload action)) planHash evidenceHash
  | _ => False

/-- What a call that returns did. -/
inductive Effect (hashing : Hashing) (s : ApprovalStore) (now : AwareDatetime) (call : Call) : ApprovalStore → Prop
  | requested (approval : Approval) (action : ProtectedAction)
      (new : s.approvals (approval.organisationId, approval.id) = none)
      (absent : s.actions (approval.organisationId, action.id) = none)
      (pending : approval.decision = .pending) (unused : approval.consumedAt = none) :
      Effect hashing s now call {
        approvals := s.approvals.set (approval.organisationId, approval.id) approval
        actions := s.actions.set (approval.organisationId, action.id) action }
  | decided (o id actor : Identifier) (decision : ApprovalDecision) (current : Approval)
      (read : s.approvals (o, id) = some current) (undecided : current.decision = .pending)
      (decides : decision ≠ .pending) (in_time : decision ≠ .cancelled → now < current.expiresAt) :
      Effect hashing s now call { s with
        approvals := s.approvals.set (o, id) (current.decide decision actor now undecided decides in_time) }
  | consumed (o id : Identifier) (current : Approval) (read : s.approvals (o, id) = some current)
      (unused : current.consumedAt = none) (approved : current.decision = .approved)
      (live : now < current.expiresAt) (bound : Presents hashing current call) :
      Effect hashing s now call { s with approvals := s.approvals.set (o, id) (current.consume now approved) }
  | unchanged : Effect hashing s now call s

/-- A call that returned before left this in the store. -/
def Applied (s : ApprovalStore) : Call → Prop
  | .request id action .. => (s.approvals (action.organisationId, id)).isSome
  | .decide o id .. => ∃ current, s.approvals (o, id) = some current ∧ current.decision ≠ .pending
  | .consume o id .. => ∃ current, s.approvals (o, id) = some current ∧ current.consumedAt.isSome

section
variable {hashing : Hashing} {isalnum : String → Bool} {s s' : ApprovalStore} {now : AwareDatetime}
  {approval : Approval}

private theorem request_effect {id requester : Identifier} {action : ProtectedAction} {planHash evidenceHash : Digest}
    {expires : AwareDatetime} {token : String} (call : Call)
    (h : requestApproval hashing isalnum s id action planHash evidenceHash requester expires token now =
      .ok (approval, s')) :
    Effect hashing s now call s' ∧ (s'.approvals (action.organisationId, id)).isSome ∧
      ((s.approvals (action.organisationId, id)).isSome → s' = s) := by
  cases hread : s.approvals (action.organisationId, id) with
  | none =>
    rw [requestApproval_ok hread] at h
    obtain ⟨-, -, -, -, habsent, rfl, rfl⟩ := h
    refine ⟨.requested (Approval.requested id action _ _ _ _ _ _ _) action hread habsent rfl rfl, ?_, nofun⟩
    exact Option.isSome_iff_exists.mpr ⟨_, Collection.set_same _ _ _⟩
  | some current =>
    simp only [requestApproval, unit_bind_ok, createApproval] at h
    obtain ⟨-, -, -, h⟩ := h
    rw [show s.approvals ((Approval.requested id action (hashing.digest (protectedActionPayload action)) planHash
      evidenceHash requester (hashing.sha256 token) expires now).organisationId, (Approval.requested id action
      (hashing.digest (protectedActionPayload action)) planHash evidenceHash requester (hashing.sha256 token) expires
      now).id) = some current from hread] at h
    simp only [unit_bind_ok, pure_ok, Prod.mk.injEq] at h
    obtain ⟨-, -, rfl⟩ := h
    refine ⟨.unchanged, ?_, fun _ => rfl⟩
    rw [hread]
    rfl

private theorem decide_effect {o id actor : Identifier} {revision : Nat} {decision : ApprovalDecision} (call : Call)
    (h : decideApproval s o id revision decision actor now = .ok (approval, s')) :
    Effect hashing s now call s' ∧ (∃ current, s'.approvals (o, id) = some current ∧ current.decision ≠ .pending) ∧
      ((∃ current, s.approvals (o, id) = some current ∧ current.decision ≠ .pending) → s' = s) := by
  unfold decideApproval at h
  split at h
  · cases h
  · rename_i decides
    rw [required_bind_ok] at h
    obtain ⟨current, hread, h⟩ := h
    rw [unit_bind_ok] at h
    obtain ⟨-, h⟩ := h
    split at h
    · rename_i undecided
      split at h
      · cases h
      · rename_i late
        cases h
        refine ⟨.decided o id actor decision current hread undecided decides _, ⟨_, Collection.set_same _ _ _, decides⟩, ?_⟩
        rintro ⟨other, hother, hne⟩
        obtain rfl := Option.some.inj (hread.symm.trans hother)
        exact absurd undecided hne
    · rename_i undecided
      simp only [unit_bind_ok, pure_ok, Prod.mk.injEq] at h
      obtain ⟨-, -, rfl⟩ := h
      exact ⟨.unchanged, ⟨current, hread, undecided⟩, fun _ => rfl⟩

private theorem consume_effect {o id : Identifier} {capability : String} {action : ProtectedAction}
    {planHash evidenceHash : Digest}
    (h : consumeApproval hashing s o id capability action planHash evidenceHash now = .ok (approval, s')) :
    Effect hashing s now (.consume o id capability action planHash evidenceHash) s' ∧
      (∃ current, s'.approvals (o, id) = some current ∧ current.consumedAt.isSome) ∧
      ((∃ current, s.approvals (o, id) = some current ∧ current.consumedAt.isSome) → s' = s) := by
  simp only [consumeApproval, unit_bind_ok, consumeStored, required_bind_ok] at h
  obtain ⟨-, current, hread, h⟩ := h
  split at h
  · rename_i hconsumed
    simp only [unit_bind_ok, pure_ok, Prod.mk.injEq] at h
    obtain ⟨-, -, rfl⟩ := h
    exact ⟨.unchanged, ⟨current, hread, hconsumed⟩, fun _ => rfl⟩
  · rename_i hunused
    rw [Bool.not_eq_true, Option.isSome_eq_false_iff, Option.isNone_iff_eq_none] at hunused
    split at h
    · rename_i approved
      simp only [unit_bind_ok, raiseIf_ok, not_not, pure_ok, Prod.mk.injEq, AwareDatetime.not_le] at h
      obtain ⟨hlive, hcapability, hdigest, hplan, hevidence, -, rfl⟩ := h
      refine ⟨.consumed o id current hread hunused approved hlive ⟨hcapability, hdigest, hplan, hevidence⟩,
        ⟨_, Collection.set_same _ _ _, rfl⟩, ?_⟩
      rintro ⟨other, hother, hconsumed⟩
      obtain rfl := Option.some.inj (hread.symm.trans hother)
      rw [hunused] at hconsumed
      cases hconsumed
    · cases h

/-- A call that returns has one of four effects, is applied from then on, and changes nothing if it was before. -/
theorem perform_effect {call : Call} (h : perform hashing isalnum s now call = .ok (approval, s')) :
    Effect hashing s now call s' ∧ Applied s' call ∧ (Applied s call → s' = s) := by
  cases call with
  | request id action planHash evidenceHash requester expires token => exact request_effect _ h
  | decide o id revision decision actor => exact decide_effect _ h
  | consume o id capability action planHash evidenceHash => exact consume_effect h

private theorem after_effect (call : Call) : Effect hashing s now call (after hashing isalnum s now call) := by
  unfold after
  split
  · rename_i written hperform
    exact (perform_effect hperform).1
  · exact .unchanged

private theorem after_applied {call : Call} (h : Applied s call) : after hashing isalnum s now call = s := by
  unfold after
  split
  · rename_i written hperform
    exact (perform_effect hperform).2.2 h
  · rfl

def terms (approval : Approval) : Digest × Digest × Digest × Digest × AwareDatetime :=
  (approval.capabilityHash, approval.actionDigest, approval.planHash, approval.evidenceHash, approval.expiresAt)

def verdict (approval : Approval) : ApprovalDecision × Option Identifier × Option AwareDatetime :=
  (approval.decision, approval.approverId, approval.decidedAt)

/-- What a call does to the approval under a key. -/
inductive Change (hashing : Hashing) (now : AwareDatetime) (call : Call) : Option Approval → Option Approval → Prop
  | kept (stored : Option Approval) : Change hashing now call stored stored
  | created (approval : Approval) (pending : approval.decision = .pending) (unused : approval.consumedAt = none) :
      Change hashing now call none (some approval)
  | decided (current : Approval) (actor : Identifier) (decision : ApprovalDecision)
      (undecided : current.decision = .pending) (decides : decision ≠ .pending)
      (in_time : decision ≠ .cancelled → now < current.expiresAt) :
      Change hashing now call (some current) (some (current.decide decision actor now undecided decides in_time))
  | consumed (current : Approval) (unused : current.consumedAt = none) (approved : current.decision = .approved)
      (live : now < current.expiresAt) (bound : Presents hashing current call) :
      Change hashing now call (some current) (some (current.consume now approved))

/-- Every effect changes each approval in one of these ways. -/
theorem Effect.change {call : Call} (h : Effect hashing s now call s') (key : Identifier × Identifier) :
    Change hashing now call (s.approvals key) (s'.approvals key) := by
  cases h with
  | requested approval action new absent pending unused =>
    by_cases hkey : key = (approval.organisationId, approval.id)
    · subst hkey
      rw [new]
      change Change hashing now call none (Collection.set _ _ _ _)
      rw [Collection.set_same]
      exact .created approval pending unused
    · change Change hashing now call _ (Collection.set _ _ _ _)
      rw [Collection.set_of_ne hkey]
      exact .kept _
  | decided o id actor decision current read undecided decides in_time =>
    by_cases hkey : key = (o, id)
    · subst hkey
      rw [read]
      change Change hashing now call _ (Collection.set _ _ _ _)
      rw [Collection.set_same]
      exact .decided current actor decision undecided decides in_time
    · change Change hashing now call _ (Collection.set _ _ _ _)
      rw [Collection.set_of_ne hkey]
      exact .kept _
  | consumed o id current read unused approved live bound =>
    by_cases hkey : key = (o, id)
    · subst hkey
      rw [read]
      change Change hashing now call _ (Collection.set _ _ _ _)
      rw [Collection.set_same]
      exact .consumed current unused approved live bound
    · change Change hashing now call _ (Collection.set _ _ _ _)
      rw [Collection.set_of_ne hkey]
      exact .kept _
  | unchanged => exact .kept _

/-- A stored action stays as it is: an action is only ever created. -/
theorem Effect.action_kept {call : Call} (h : Effect hashing s now call s') {key : Identifier × Identifier}
    (hstored : (s.actions key).isSome) : s'.actions key = s.actions key := by
  cases h with
  | requested approval action new absent pending unused =>
    refine Collection.set_of_ne ?_
    rintro rfl
    rw [absent] at hstored
    cases hstored
  | decided | consumed | unchanged => rfl

section
variable {call : Call} {stored stored' : Option Approval}

private theorem Change.terms_kept (h : Change hashing now call stored stored') (hstored : (stored.map terms).isSome) :
    stored'.map terms = stored.map terms := by
  cases h with
  | created => cases hstored
  | kept | decided | consumed => rfl

private theorem Change.verdict_kept (h : Change hashing now call stored stored')
    (hstored : ∃ v ∈ stored.map verdict, v.1 ≠ .pending) : stored'.map verdict = stored.map verdict := by
  cases h with
  | created =>
    obtain ⟨v, hv, -⟩ := hstored
    cases hv
  | decided current actor decision undecided =>
    obtain ⟨v, hv, hne⟩ := hstored
    cases hv
    exact absurd undecided hne
  | kept | consumed => rfl

private theorem Change.consumption_kept (h : Change hashing now call stored stored')
    (hstored : (stored.bind Approval.consumedAt).isSome) :
    stored'.bind Approval.consumedAt = stored.bind Approval.consumedAt := by
  cases h with
  | created => cases hstored
  | consumed current unused =>
    rw [Option.bind_some, unused] at hstored
    cases hstored
  | kept | decided => rfl

end

end

/-- Any sequence of calls, each at any time of its own. -/
structure ApprovalRun (hashing : Hashing) (isalnum : String → Bool) where
  store : ℕ → ApprovalStore
  call : ℕ → Call
  clock : ℕ → AwareDatetime
  next : ∀ n, store (n + 1) = after hashing isalnum (store n) (clock n) (call n)

namespace ApprovalRun
variable {hashing : Hashing} {isalnum : String → Bool} (run : ApprovalRun hashing isalnum) (o id : Identifier)

def approval (n : ℕ) : Option Approval := (run.store n).approvals (o, id)

/-- The decision on the approval changes in a step. -/
def Decides (n : ℕ) : Prop :=
  ∃ before later, run.approval o id n = some before ∧ run.approval o id (n + 1) = some later ∧
    later.decision ≠ before.decision

/-- The consumption of the approval changes in a step. -/
def Consumes (n : ℕ) : Prop :=
  ∃ before later, run.approval o id n = some before ∧ run.approval o id (n + 1) = some later ∧
    later.consumedAt ≠ before.consumedAt

/-- The protocol that one approval follows along a run. -/
structure Follows : Prop where
  decided_once : ∀ i j, run.Decides o id i → run.Decides o id j → i = j
  decided : ∀ n, run.Decides o id n → ∃ before later, run.approval o id n = some before ∧
    run.approval o id (n + 1) = some later ∧ before.decision = .pending ∧ later.decidedAt = some (run.clock n) ∧
    (later.decision = .approved ∨ later.decision = .rejected → run.clock n < before.expiresAt)
  verdict_kept : ∀ i j before, i ≤ j → run.approval o id i = some before → before.decision ≠ .pending →
    ∃ later, run.approval o id j = some later ∧ verdict later = verdict before
  consumed_once : ∀ i j, run.Consumes o id i → run.Consumes o id j → i = j
  consumed : ∀ n, run.Consumes o id n → ∃ before later, run.approval o id n = some before ∧
    run.approval o id (n + 1) = some later ∧ before.consumedAt = none ∧ later.consumedAt = some (run.clock n) ∧
    before.decision = .approved ∧ run.clock n < before.expiresAt ∧ Presents hashing before (run.call n)
  created : ∀ n later, run.approval o id n = none → run.approval o id (n + 1) = some later →
    later.decision = .pending ∧ later.consumedAt = none
  terms_kept : ∀ i j before, i ≤ j → run.approval o id i = some before →
    ∃ later, run.approval o id j = some later ∧ terms later = terms before
  action_kept : ∀ i j action, i ≤ j → (run.store i).actions (o, id) = some action →
    (run.store j).actions (o, id) = some action
  valid : ∀ n approval, run.approval o id n = some approval → approval.validateDecision = .ok ()

variable {run o id}

/-- What a call of a run does to the stored approvals. -/
theorem effect (n : ℕ) : Effect hashing (run.store n) (run.clock n) (run.call n) (run.store (n + 1)) := by
  rw [run.next n]
  exact after_effect _

variable (o id) in
/-- What a call of a run does to one approval. -/
theorem change (n : ℕ) :
    Change hashing (run.clock n) (run.call n) (run.approval o id n) (run.approval o id (n + 1)) :=
  (effect n).change (o, id)

private theorem terms_once : WriteOnce (fun t => t.isSome = true) fun n => (run.approval o id n).map terms :=
  fun n => (change o id n).terms_kept

private theorem verdict_once : WriteOnce (fun v => ∃ d ∈ v, d.1 ≠ .pending) fun n => (run.approval o id n).map verdict :=
  fun n => (change o id n).verdict_kept

private theorem consumption_once :
    WriteOnce (fun t => t.isSome = true) fun n => (run.approval o id n).bind Approval.consumedAt :=
  fun n => (change o id n).consumption_kept

private theorem action_once : WriteOnce (fun a => a.isSome = true) fun n => (run.store n).actions (o, id) :=
  fun n => (effect n).action_kept

/-- A step that changes the decision decides a pending approval. -/
theorem decides_change {n : ℕ} (h : run.Decides o id n) : ∃ current actor decision undecided decides in_time,
    run.approval o id n = some current ∧
    run.approval o id (n + 1) = some (current.decide decision actor (run.clock n) undecided decides in_time) := by
  obtain ⟨before, later, hbefore, hlater, hne⟩ := h
  have hchange := run.change o id n
  rw [hbefore, hlater] at hchange
  cases hchange with
  | kept => exact absurd rfl hne
  | decided current actor decision undecided decides in_time =>
    exact ⟨before, actor, decision, undecided, decides, in_time, hbefore, hlater⟩
  | consumed => exact absurd rfl hne

private theorem decides_settles {n : ℕ} (h : run.Decides o id n) :
    Settles (fun v => ∃ d ∈ v, d.1 ≠ ApprovalDecision.pending) (fun n => (run.approval o id n).map verdict) n := by
  obtain ⟨current, actor, decision, undecided, decides, in_time, hbefore, hlater⟩ := decides_change h
  refine ⟨?_, ?_⟩
  · rintro ⟨v, hv, hne⟩
    beta_reduce at hv
    rw [hbefore] at hv
    cases hv
    exact hne undecided
  · refine ⟨(decision, some actor, some (run.clock n)), ?_, decides⟩
    beta_reduce
    rw [hlater]
    rfl

/-- A decision of a run is taken on a pending approval, at the time of the call and before the expiry. -/
theorem decided {n : ℕ} (h : run.Decides o id n) : ∃ before later, run.approval o id n = some before ∧
    run.approval o id (n + 1) = some later ∧ before.decision = .pending ∧ later.decidedAt = some (run.clock n) ∧
    (later.decision = .approved ∨ later.decision = .rejected → run.clock n < before.expiresAt) := by
  obtain ⟨current, actor, decision, undecided, decides, in_time, hbefore, hlater⟩ := decides_change h
  refine ⟨current, _, hbefore, hlater, undecided, rfl, fun hlate => in_time ?_⟩
  rintro rfl
  rcases hlate with hlate | hlate
  · cases hlate
  · cases hlate

private theorem verdict_kept {i j : ℕ} {before : Approval} (hij : i ≤ j) (hbefore : run.approval o id i = some before)
    (hdecided : before.decision ≠ .pending) :
    ∃ later, run.approval o id j = some later ∧ verdict later = verdict before := by
  have hsettled : ∃ d ∈ (run.approval o id i).map verdict, d.1 ≠ ApprovalDecision.pending := by
    rw [hbefore]
    exact ⟨_, rfl, hdecided⟩
  have hkept : (run.approval o id j).map verdict = (run.approval o id i).map verdict :=
    verdict_once.keeps (v := fun n => (run.approval o id n).map verdict) hij hsettled
  rw [hbefore] at hkept
  exact Option.map_eq_some_iff.mp hkept

/-- A step that changes the consumption consumes an approved approval that is still live. -/
theorem consumes_change {n : ℕ} (h : run.Consumes o id n) : ∃ current approved, run.approval o id n = some current ∧
    run.approval o id (n + 1) = some (current.consume (run.clock n) approved) ∧ current.consumedAt = none ∧
    run.clock n < current.expiresAt ∧ Presents hashing current (run.call n) := by
  obtain ⟨before, later, hbefore, hlater, hne⟩ := h
  have hchange := run.change o id n
  rw [hbefore, hlater] at hchange
  cases hchange with
  | kept => exact absurd rfl hne
  | decided => exact absurd rfl hne
  | consumed current unused approved live bound => exact ⟨before, approved, hbefore, hlater, unused, live, bound⟩

private theorem consumes_settles {n : ℕ} (h : run.Consumes o id n) :
    Settles (fun t => t.isSome = true) (fun n => (run.approval o id n).bind Approval.consumedAt) n := by
  obtain ⟨current, approved, hbefore, hlater, hunused, -⟩ := consumes_change h
  refine ⟨?_, ?_⟩
  · beta_reduce
    rw [hbefore, Option.bind_some, hunused]
    nofun
  · beta_reduce
    rw [hlater]
    rfl

private theorem terms_kept {i j : ℕ} {before : Approval} (hij : i ≤ j) (hbefore : run.approval o id i = some before) :
    ∃ later, run.approval o id j = some later ∧ terms later = terms before := by
  have hsettled : ((run.approval o id i).map terms).isSome := by
    rw [hbefore]
    rfl
  have hkept : (run.approval o id j).map terms = (run.approval o id i).map terms :=
    terms_once.keeps (v := fun n => (run.approval o id n).map terms) hij hsettled
  rw [hbefore] at hkept
  exact Option.map_eq_some_iff.mp hkept

/-- What a call left in the store is there from then on. -/
theorem applied_kept {i j : ℕ} {call : Call} (hij : i ≤ j) (h : Applied (run.store i) call) :
    Applied (run.store j) call := by
  cases call with
  | request id action _ _ _ _ _ =>
    obtain ⟨before, hbefore⟩ := Option.isSome_iff_exists.mp h
    obtain ⟨later, hlater, -⟩ := run.terms_kept hij hbefore
    exact Option.isSome_iff_exists.mpr ⟨later, hlater⟩
  | decide o id _ _ _ =>
    obtain ⟨before, hbefore, hdecided⟩ := h
    obtain ⟨later, hlater, hverdict⟩ := run.verdict_kept hij hbefore hdecided
    refine ⟨later, hlater, ?_⟩
    rw [show later.decision = before.decision from congrArg Prod.fst hverdict]
    exact hdecided
  | consume o id _ _ _ _ =>
    obtain ⟨before, hbefore, hconsumed⟩ := h
    have hsettled : ((run.approval o id i).bind Approval.consumedAt).isSome := by
      rw [show run.approval o id i = some before from hbefore]
      exact hconsumed
    have hkept : ((run.approval o id j).bind Approval.consumedAt).isSome :=
      consumption_once.settled (v := fun n => (run.approval o id n).bind Approval.consumedAt) hij hsettled
    obtain ⟨later, hlater, hlate⟩ := Option.bind_eq_some_iff.mp (Option.isSome_iff_exists.mp hkept).choose_spec
    exact ⟨later, hlater, Option.isSome_iff_exists.mpr ⟨_, hlate⟩⟩

private theorem replay_unchanged {i j : ℕ} {approval : Approval} {written : ApprovalStore}
    (hreturned : perform hashing isalnum (run.store i) (run.clock i) (run.call i) = .ok (approval, written))
    (hij : i < j) (hsame : run.call j = run.call i) : run.store (j + 1) = run.store j := by
  have happlied : Applied (run.store (i + 1)) (run.call i) := by
    rw [run.next i, after, hreturned]
    exact (perform_effect hreturned).2.1
  rw [run.next j, hsame]
  exact after_applied (run.applied_kept hij happlied)

/-- Whatever the order, the arguments and the times of the calls, every approval follows the protocol, and a call that
returned once changes nothing when it is repeated. -/
theorem follows_protocol (run : ApprovalRun hashing isalnum) : (∀ o id, run.Follows o id) ∧
    ∀ i j approval written, perform hashing isalnum (run.store i) (run.clock i) (run.call i) = .ok (approval, written) →
      i < j → run.call j = run.call i → run.store (j + 1) = run.store j := by
  refine ⟨fun o id => ?_, fun i j approval written hreturned hij hsame => run.replay_unchanged hreturned hij hsame⟩
  refine
    { decided_once := fun i j hi hj => verdict_once.settles_once (decides_settles hi) (decides_settles hj)
      decided := fun n h => decided h
      verdict_kept := fun i j before hij hbefore hdecided => verdict_kept hij hbefore hdecided
      consumed_once := fun i j hi hj => consumption_once.settles_once (consumes_settles hi) (consumes_settles hj)
      consumed := ?_
      created := ?_
      terms_kept := fun i j before hij hbefore => terms_kept hij hbefore
      action_kept := ?_
      valid := fun n approval _ => approval.validateDecision_ok }
  · intro n h
    obtain ⟨current, approved, hbefore, hlater, hunused, hlive, hbound⟩ := consumes_change h
    exact ⟨current, _, hbefore, hlater, hunused, rfl, approved, hlive, hbound⟩
  · intro n later hnone hlater
    have hchange := run.change o id n
    rw [hnone, hlater] at hchange
    cases hchange with
    | created _ pending unused => exact ⟨pending, unused⟩
  · intro i j action hij hstored
    have hsettled : ((run.store i).actions (o, id)).isSome := Option.isSome_iff_exists.mpr ⟨action, hstored⟩
    exact (action_once.keeps (v := fun n => (run.store n).actions (o, id)) hij hsettled).trans hstored

end ApprovalRun

def sampleAction : ProtectedAction where
  id := actionOne
  organisationId := organisationOne
  runId := runOne
  kind := ⟨"provider.revoke", by decide⟩
  resource := ⟨"key-1", by decide⟩
  credentialId := credentialOne
  generationId := generationOne
  providerId := ⟨"key-1", by decide⟩
  controlVersion := controlsOne
  planHash := "plan"
  evidenceHash := "evidence"

def sampleCapability : String := String.ofList (List.replicate 43 'a')

def sampleApprovalId : Identifier := approvalOne

def sampleCall : ℕ → Call
  | 0 => .request sampleApprovalId sampleAction "plan" "evidence" coordinatorOne ⟨100, 0⟩ sampleCapability
  | 1 => .decide sampleAction.organisationId sampleApprovalId 0 .approved ⟨"actor_one", by decide⟩
  | _ => .consume sampleAction.organisationId sampleApprovalId sampleCapability sampleAction "plan" "evidence"

def sampleStore : ℕ → ApprovalStore
  | 0 => ⟨Collection.empty, Collection.empty⟩
  | n + 1 => after Hashing.sample (fun text => text.toList.all Char.isAlphanum) (sampleStore n) ⟨n, 0⟩ (sampleCall n)

def sampleRun : ApprovalRun Hashing.sample fun text => text.toList.all Char.isAlphanum where
  store := sampleStore
  call := sampleCall
  clock n := ⟨n, 0⟩
  next _ := rfl

private theorem sampleCapability_safe : urlSafe (fun text => text.toList.all Char.isAlphanum) sampleCapability = true := by
  decide +kernel

def sampleRequested : Approval :=
  Approval.requested sampleApprovalId sampleAction (Hashing.sample.digest (protectedActionPayload sampleAction)) "plan"
    "evidence" coordinatorOne (Hashing.sample.sha256 sampleCapability) ⟨100, 0⟩ ⟨0, 0⟩

def sampleApproved : Approval :=
  sampleRequested.decide .approved ⟨"actor_one", by decide⟩ ⟨1, 0⟩ rfl nofun fun _ => by decide

private theorem sampleApproved_approved : sampleApproved.decision = .approved := rfl

def sampleConsumed : Approval := sampleApproved.consume ⟨2, 0⟩ sampleApproved_approved

private theorem sampleStore_one : sampleStore 1 = {
    approvals := Collection.empty.set (sampleAction.organisationId, sampleApprovalId) sampleRequested
    actions := Collection.empty.set (sampleAction.organisationId, sampleAction.id) sampleAction } := by
  have hperform : perform Hashing.sample (fun text => text.toList.all Char.isAlphanum) (sampleStore 0) ⟨0, 0⟩
      (sampleCall 0) = .ok (sampleRequested, _) :=
    (requestApproval_ok rfl).mpr ⟨rfl, rfl, by decide, sampleCapability_safe, rfl, rfl, rfl⟩
  change after _ _ (sampleStore 0) ⟨0, 0⟩ (sampleCall 0) = _
  rw [after, hperform]
  rfl

private theorem sampleStore_two : sampleStore 2 = { sampleStore 1 with
    approvals := (sampleStore 1).approvals.set (sampleAction.organisationId, sampleApprovalId) sampleApproved } := by
  have hperform : perform Hashing.sample (fun text => text.toList.all Char.isAlphanum) (sampleStore 1) ⟨1, 0⟩
      (sampleCall 1) = .ok (sampleApproved, { sampleStore 1 with
        approvals := (sampleStore 1).approvals.set (sampleAction.organisationId, sampleApprovalId) sampleApproved }) := by
    rw [sampleStore_one]
    rfl
  change after _ _ (sampleStore 1) ⟨1, 0⟩ (sampleCall 1) = _
  rw [after, hperform]

private theorem sampleStore_three : sampleStore 3 = { sampleStore 2 with
    approvals := (sampleStore 2).approvals.set (sampleAction.organisationId, sampleApprovalId)
      sampleConsumed } := by
  have hread : (sampleStore 2).approvals (sampleAction.organisationId, sampleApprovalId) = some sampleApproved := by
    rw [sampleStore_two]
    rfl
  have hperform : perform Hashing.sample (fun text => text.toList.all Char.isAlphanum) (sampleStore 2) ⟨2, 0⟩
      (sampleCall 2) = .ok (sampleConsumed, { sampleStore 2 with
        approvals := (sampleStore 2).approvals.set (sampleAction.organisationId, sampleApprovalId)
          sampleConsumed }) := by
    change consumeApproval _ _ _ _ _ _ _ _ _ = _
    simp only [consumeApproval, consumeStored, hread, unit_bind_ok, required_bind_ok, raiseIf_ok]
    refine ⟨?_, _, rfl, ?_⟩
    · rintro (h | h)
      · exact h rfl
      · exact h rfl
    · have hopen : ¬ sampleApproved.consumedAt.isSome = true := by decide
      rw [if_neg hopen, dif_pos sampleApproved_approved]
      simp only [unit_bind_ok, raiseIf_ok, not_not]
      exact ⟨by decide, rfl, rfl, rfl, rfl, rfl⟩
  change after _ _ (sampleStore 2) ⟨2, 0⟩ (sampleCall 2) = _
  rw [after, hperform]

private theorem sample_decides : sampleRun.Decides sampleAction.organisationId sampleApprovalId 1 := by
  refine ⟨sampleRequested, sampleApproved, ?_, ?_, nofun⟩
  · change (sampleStore 1).approvals _ = _
    rw [sampleStore_one]
    rfl
  · change (sampleStore 2).approvals _ = _
    rw [sampleStore_two]
    rfl

private theorem sample_consumes : sampleRun.Consumes sampleAction.organisationId sampleApprovalId 2 := by
  refine ⟨sampleApproved, sampleConsumed, ?_, ?_, nofun⟩
  · change (sampleStore 2).approvals _ = _
    rw [sampleStore_two]
    rfl
  · change (sampleStore 3).approvals _ = _
    rw [sampleStore_three]
    rfl

/-- In the sample run the approval is decided in one step and consumed in the next, and in no others. -/
theorem follows_protocol_sample :
    (∀ n, sampleRun.Decides sampleAction.organisationId sampleApprovalId n ↔ n = 1) ∧
    ∀ n, sampleRun.Consumes sampleAction.organisationId sampleApprovalId n ↔ n = 2 := by
  have hfollows := (ApprovalRun.follows_protocol sampleRun).1 sampleAction.organisationId sampleApprovalId
  refine ⟨fun n => ⟨fun h => hfollows.decided_once _ _ h sample_decides, ?_⟩,
    fun n => ⟨fun h => hfollows.consumed_once _ _ h sample_consumes, ?_⟩⟩
  · rintro rfl
    exact sample_decides
  · rintro rfl
    exact sample_consumes

end Uumi.Approvals
