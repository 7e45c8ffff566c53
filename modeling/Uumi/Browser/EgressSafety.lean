import Uumi.Browser.Egress

/-! Managers that share the egress: what holds of the document and of the operations in flight in every run. -/
namespace Uumi.Browser
open Uumi.Contracts Uumi.Core Uumi.Foundations

variable {ι : Type} [DecidableEq ι]

/-- The document, the tokens that were handed out, and where every manager stands. -/
structure EgressPool (ι : Type) where
  document : Option BrowserEgressState
  issued : Set String
  tasks : ι → EgressTask

def EgressPool.initial : EgressPool ι := ⟨none, ∅, fun _ => .idle⟩

/-- Whose step it is, the time that its clock shows, and the change that it commits. -/
structure EgressLabel (ι : Type) where
  who : ι
  now : AwareDatetime
  change : Option EgressChange

def EgressChange.brings : EgressChange → Set String
  | .acquire _ _ token | .release _ token | .reconcile token => {token}
  | _ => ∅

/-- The change completes the operation of this token. -/
def EgressChange.Completes (change : EgressChange) (token : String) : Prop :=
  match change with
  | .finishProvision t _ | .finishDelete t | .failed t _ _ => t = token
  | _ => False

/-- What a task may do without a change of the document. -/
inductive EgressMove (approved : List String) (document : Option BrowserEgressState) (now : AwareDatetime) :
    EgressTask → EgressTask → Prop where
  | call (required : List String) (leaseId : String) (expiresAt : AwareDatetime)
      (domains : validateDomains approved required = .ok ()) :
      EgressMove approved document now .idle
        (.requesting { leaseId, expiresAt, deadline := { now with instant := now.instant + waitTime } })
  | look (call : AcquireCall) (token : String) (state : BrowserEgressState) :
      EgressMove approved document now (.looking call token state) (EgressTask.look call token state now)
  | poll {call : AcquireCall} {token : String} {task : EgressTask}
      (read : EgressTask.poll call token document now = .ok task) :
      EgressMove approved document now (.sleeping call token) task
  /-- An access to the document fails, and has changed nothing. -/
  | fail (task : EgressTask) : EgressMove approved document now task .idle

/-- The steps of the managers, in any order. -/
inductive EgressStep (region : String) (approved : List String) :
    EgressPool ι → EgressLabel ι → EgressPool ι → Prop where
  | move {pool : EgressPool ι} {who : ι} {now : AwareDatetime} {task : EgressTask}
      (moves : EgressMove approved pool.document now (pool.tasks who) task) :
      EgressStep region approved pool ⟨who, now, none⟩ { pool with tasks := Function.update pool.tasks who task }
  | commit {pool : EgressPool ι} {who : ι} {now : AwareDatetime} {change : EgressChange} {state : BrowserEgressState}
      (asks : (pool.tasks who).Asks pool.issued change)
      (updated : egressUpdate pool.document (change.apply region now) = .ok state) :
      EgressStep region approved pool ⟨who, now, some change⟩
        ⟨some state, pool.issued ∪ change.brings,
          Function.update pool.tasks who ((pool.tasks who).resume change state)⟩
  /-- A commit whose acknowledgement is lost. -/
  | lost {pool : EgressPool ι} {who : ι} {now : AwareDatetime} {change : EgressChange} {state : BrowserEgressState}
      (asks : (pool.tasks who).Asks pool.issued change)
      (updated : egressUpdate pool.document (change.apply region now) = .ok state) :
      EgressStep region approved pool ⟨who, now, some change⟩
        ⟨some state, pool.issued ∪ change.brings, Function.update pool.tasks who .idle⟩

/-- The runs from a pool, the first step first. A manager that takes no further step has crashed. -/
inductive EgressRun (region : String) (approved : List String) (start : EgressPool ι) :
    List (EgressLabel ι) → EgressPool ι → Prop where
  | nil : EgressRun region approved start [] start
  | step {labels : List (EgressLabel ι)} {pool next : EgressPool ι} {label : EgressLabel ι}
      (run : EgressRun region approved start labels pool) (step : EgressStep region approved pool label next) :
      EgressRun region approved start (labels ++ [label]) next

variable {region : String} {approved : List String}

/-- A transaction changes the document that it read. -/
theorem egressUpdate_ok {document : Option BrowserEgressState}
    {change : Option BrowserEgressState → Except Error BrowserEgressState} {state : BrowserEgressState}
    (h : egressUpdate document change = .ok state) : change document = .ok state := by
  unfold egressUpdate at h
  obtain ⟨current, hread, h⟩ := (bind_ok _ _ _).mp h
  obtain ⟨changed, hchanged, h⟩ := (bind_ok _ _ _).mp h
  simp only [unit_bind_ok, raiseIf_ok, pure_ok] at h
  obtain ⟨-, rfl⟩ := h
  rwa [readEgress_ok hread] at hchanged

section
variable {s state : BrowserEgressState} {token : String} {change : EgressChange} {now : AwareDatetime}

/-- A delete goes on until it is completed. -/
theorem deleting_kept (h : change.apply region now (some s) = .ok state) (status : s.status = .deleting)
    (other : ¬ change.Completes token) (current : s.operationToken = some token) :
    state.status = .deleting ∧ state.operationToken = some token := by
  cases change with
  | acquire leaseId expiresAt t =>
    simp only [EgressChange.apply, requestAcquire, currentState, Option.getD_some, unit_bind_ok, pure_ok] at h
    obtain ⟨-, rfl⟩ := h
    simp [status, current]
  | release leaseId t =>
    cases h
    simp [requestRelease, currentState, status, current]
  | reconcile t =>
    cases h
    simp [requestReconcile, currentState, status, current]
  | finishProvision t address =>
    cases h
    simp [finishProvision, currentState, status, current]
  | finishDelete t =>
    cases h
    have ht : token ≠ t := fun h => other h.symm
    simp [finishDelete, currentState, status, current, ht]
  | failed t error text =>
    cases h
    have ht : token ≠ t := fun h => other h.symm
    simp [operationFailed, currentState, status, current, ht]

/-- The token of the document is the one it had, or one that the change brings. -/
theorem token_from {document : Option BrowserEgressState} (h : change.apply region now document = .ok state)
    (current : state.operationToken = some token) :
    token ∈ change.brings ∨ ∃ s, document = some s ∧ s.operationToken = some token := by
  have hold : ∀ region now, (currentState region document now).operationToken = some token →
      ∃ s, document = some s ∧ s.operationToken = some token := by
    intro region now h
    cases document with
    | none => cases h
    | some s => exact ⟨s, rfl, h⟩
  cases change with
  | acquire leaseId expiresAt t =>
    simp only [EgressChange.apply, requestAcquire, unit_bind_ok, pure_ok] at h
    obtain ⟨-, rfl⟩ := h
    dsimp only at current
    split at current
    · cases current
      exact .inl rfl
    · exact .inr (hold _ _ current)
  | release leaseId t =>
    cases h
    dsimp only [requestRelease] at current
    split at current
    · cases current
      exact .inl rfl
    · exact .inr (hold _ _ current)
  | reconcile t =>
    cases h
    dsimp only [requestReconcile] at current
    split at current
    · cases current
      exact .inl rfl
    · exact .inr (hold _ _ current)
  | finishProvision t address =>
    cases h
    simp only [finishProvision] at current
    split at current <;> exact .inr (hold _ _ current)
  | finishDelete t =>
    cases h
    simp only [finishDelete] at current
    split at current
    · exact .inr (hold _ _ current)
    · cases current
  | failed t error text =>
    cases h
    simp only [operationFailed] at current
    split at current
    · exact .inr (hold _ _ current)
    · cases current

/-- The completion of an operation whose token is not the current one only counts. -/
theorem superseded_kept {document : Option BrowserEgressState} (h : change.apply region now document = .ok state)
    (completes : change.Completes token) (superseded : (currentState region document now).operationToken ≠ some token) :
    state = { currentState region document now with revision := (currentState region document now).revision + 1 } := by
  cases change with
  | acquire | release | reconcile => exact completes.elim
  | finishProvision t address =>
    obtain rfl : t = token := completes
    cases h
    exact if_pos (.inl superseded)
  | finishDelete t =>
    obtain rfl : t = token := completes
    cases h
    exact if_pos (.inl superseded)
  | failed t error text =>
    obtain rfl : t = token := completes
    cases h
    exact if_pos superseded

/-- While the document has a token, other requests and the completions of other operations leave its status. -/
theorem status_kept {document : Option BrowserEgressState} (h : change.apply region now document = .ok state)
    (current : (currentState region document now).operationToken = some token)
    (after : state.operationToken = some token) (others : token ∉ change.brings) (other : ¬ change.Completes token) :
    state.status = (currentState region document now).status := by
  cases change with
  | acquire leaseId expiresAt t =>
    simp only [EgressChange.apply, requestAcquire, unit_bind_ok, pure_ok] at h
    obtain ⟨-, rfl⟩ := h
    dsimp only at after ⊢
    split
    · rename_i hprovision
      rw [if_pos hprovision] at after
      cases after
      exact absurd rfl others
    · rfl
  | release leaseId t =>
    cases h
    dsimp only [requestRelease] at after ⊢
    split
    · rename_i hdelete
      rw [if_pos hdelete] at after
      cases after
      exact absurd rfl others
    · rfl
  | reconcile t =>
    cases h
    dsimp only [requestReconcile] at after ⊢
    split
    · rename_i hprovision
      rw [if_pos (.inl hprovision)] at after
      cases after
      exact absurd rfl others
    · split
      · rename_i hdelete
        rw [if_pos (.inr hdelete)] at after
        cases after
        exact absurd rfl others
      · rfl
  | finishProvision t address =>
    cases h
    have ht : token ≠ t := fun h => other h.symm
    simp [finishProvision, current, ht]
  | finishDelete t =>
    cases h
    have ht : token ≠ t := fun h => other h.symm
    simp [finishDelete, current, ht]
  | failed t error text =>
    cases h
    have ht : token ≠ t := fun h => other h.symm
    simp [operationFailed, current, ht]

/-- No lease is left, but for the one that the change releases. -/
def NothingLeft (leases : List BrowserEgressLease) (now : AwareDatetime) (change : EgressChange) : Prop :=
  ∀ lease ∈ leases, now < lease.expiresAt → ∃ t, change = .release lease.id t

private theorem unexpired_eq_nil {leases : List BrowserEgressLease} (h : unexpired leases now = []) :
    ∀ lease ∈ leases, ¬ now < lease.expiresAt := by
  intro lease hlease hlive
  have hmem : lease ∈ unexpired leases now := List.mem_filter.mpr ⟨hlease, decide_eq_true hlive⟩
  rw [h] at hmem
  exact List.not_mem_nil hmem

/-- A change turns the document to deleting under a token that it did not have only when nobody needs the egress. -/
theorem deletes_unneeded {document : Option BrowserEgressState} (h : change.apply region now document = .ok state)
    (status : state.status = .deleting) (after : state.operationToken = some token)
    (before : (currentState region document now).operationToken = some token →
      (currentState region document now).status = .provisioning) :
    state.leases = [] ∧ NothingLeft (currentState region document now).leases now change := by
  have hsame : (currentState region document now).status = .deleting →
      (currentState region document now).operationToken = some token → False := by
    intro hs ht
    rw [before ht] at hs
    cases hs
  cases change with
  | acquire leaseId expiresAt t =>
    simp only [EgressChange.apply, requestAcquire, unit_bind_ok, pure_ok] at h
    obtain ⟨-, rfl⟩ := h
    dsimp only at status after
    split at status
    · cases status
    · rename_i hkept
      rw [if_neg hkept] at after
      exact (hsame status after).elim
  | release leaseId t =>
    cases h
    dsimp only [requestRelease] at status after ⊢
    split at status
    · rename_i hdelete
      refine ⟨hdelete.1, fun lease hlease hlive => ⟨t, ?_⟩⟩
      have hgone := List.filter_eq_nil_iff.mp hdelete.1 lease hlease
      have hid : lease.id = leaseId := by
        by_contra hne
        exact hgone (decide_eq_true ⟨hne, hlive⟩)
      rw [hid]
    · rename_i hkept
      rw [if_neg hkept] at after
      exact (hsame status after).elim
  | reconcile t =>
    cases h
    dsimp only [requestReconcile] at status after ⊢
    split at status
    · cases status
    · rename_i hprovision
      split at status
      · rename_i hdelete
        exact ⟨hdelete.1, fun lease hlease hlive => (unexpired_eq_nil hdelete.1 lease hlease hlive).elim⟩
      · rename_i hdelete
        rw [if_neg (not_or.mpr ⟨hprovision, hdelete⟩)] at after
        exact (hsame status after).elim
  | finishProvision t address =>
    cases h
    simp only [finishProvision] at status after ⊢
    split at status
    · rename_i hkept
      rw [if_pos hkept] at after
      exact (hsame status after).elim
    · rename_i hmatch
      rw [if_neg hmatch]
      dsimp only at status ⊢
      split at status
      · cases status
      · rename_i hnone
        have hnone' := not_not.mp hnone
        exact ⟨hnone', fun lease hlease hlive => (unexpired_eq_nil hnone' lease hlease hlive).elim⟩
  | finishDelete t =>
    cases h
    simp only [finishDelete] at status after
    split at status
    · rename_i hkept
      rw [if_pos hkept] at after
      exact (hsame status after).elim
    · cases status
  | failed t error text =>
    cases h
    simp only [operationFailed] at status after
    split at status
    · rename_i hkept
      rw [if_pos hkept] at after
      exact (hsame status after).elim
    · cases status

end

/-- The task has asked for the operation of this token, and has not completed it. -/
def EgressTask.Owns (task : EgressTask) (token : String) : Prop :=
  match task with
  | .provisioning t _ => t = token
  | .looking _ t state => t = token ∧ state.status = .provisioning ∧ state.operationToken = some t
  | _ => False

def EgressTask.Spent (task : EgressTask) (token : String) : Prop :=
  match task with
  | .sleeping _ t => t = token
  | .looking _ t state => t = token ∧ ¬ (state.status = .provisioning ∧ state.operationToken = some t)
  | _ => False

section
variable {task task' : EgressTask} {token : String} {issued : Set String} {change : EgressChange} {now : AwareDatetime}
  {state : BrowserEgressState} {document : Option BrowserEgressState}

private theorem token_of_owns (h : task.Owns token) : task.token? = some token := by
  cases task with
  | provisioning t caller => exact congrArg some h
  | looking call t state => exact congrArg some h.1
  | _ => exact h.elim

private theorem token_of_spent (h : task.Spent token) : task.token? = some token := by
  cases task with
  | sleeping call t => exact congrArg some h
  | looking call t state => exact congrArg some h.1
  | _ => exact h.elim

/-- A task that operates has a token. -/
theorem token_of_operates (h : task.Operates token) : task.token? = some token := by
  cases task with
  | provisioning t caller => exact congrArg some h
  | deleting t caller => exact congrArg some h
  | _ => exact h.elim

/-- A request brings a new token. -/
theorem new_of_brings (asks : task.Asks issued change) (h : token ∈ change.brings) : token ∉ issued := by
  cases change with
  | acquire leaseId expiresAt t =>
    obtain rfl : token = t := h
    cases task with
    | requesting call => exact asks.2.2
    | _ => exact asks.elim
  | release leaseId t =>
    obtain rfl : token = t := h
    cases task with
    | idle => exact asks
    | _ => exact asks.elim
  | reconcile t =>
    obtain rfl : token = t := h
    cases task with
    | idle => exact asks
    | _ => exact asks.elim
  | _ => exact h.elim

/-- A completion is of the task's own operation. -/
theorem operates_of_completes (asks : task.Asks issued change) (h : change.Completes token) : task.Operates token := by
  cases change with
  | finishProvision t address =>
    obtain rfl : t = token := h
    cases task with
    | provisioning t' caller => exact Eq.symm asks
    | _ => exact asks.elim
  | finishDelete t =>
    obtain rfl : t = token := h
    cases task with
    | deleting t' caller => exact Eq.symm asks
    | _ => exact asks.elim
  | failed t error text =>
    obtain rfl : t = token := h
    cases task with
    | provisioning t' caller => exact Eq.symm asks
    | deleting t' caller => exact Eq.symm asks
    | _ => exact asks.elim
  | _ => exact h.elim

private theorem return_token {caller : Option AcquireCall} {t : String}
    (h : (EgressTask.return_ t caller).token? = some token) : t = token := by
  cases caller with
  | none => cases h
  | some call => exact Option.some.inj h

private theorem raise_cases (t : String) (error : Error) (caller : Option AcquireCall) :
    EgressTask.raise_ t error caller = .idle ∨ ∃ call, EgressTask.raise_ t error caller = .sleeping call t := by
  cases caller with
  | none => exact .inl rfl
  | some call =>
    cases error with
    | connector code message retryable =>
      cases retryable with
      | true => exact .inr ⟨call, rfl⟩
      | false => exact .inl rfl
    | _ => exact .inl rfl

private theorem raise_token {caller : Option AcquireCall} {t : String} {error : Error}
    (h : (EgressTask.raise_ t error caller).token? = some token) : t = token := by
  rcases raise_cases t error caller with hr | ⟨call, hr⟩ <;> rw [hr] at h
  · cases h
  · exact Option.some.inj h

/-- After a transaction a task has the token that it had, or the one that it brought. -/
theorem resume_token (asks : task.Asks issued change) (h : (task.resume change state).token? = some token) :
    token ∈ change.brings ∨ task.token? = some token := by
  cases change with
  | acquire leaseId expiresAt t =>
    cases task with
    | requesting call => exact .inl (Option.some.inj h).symm
    | _ => exact asks.elim
  | release leaseId t =>
    cases task with
    | idle =>
      simp only [EgressTask.resume] at h
      split at h
      · exact .inl (Option.some.inj h).symm
      · cases h
    | _ => exact asks.elim
  | reconcile t =>
    cases task with
    | idle =>
      simp only [EgressTask.resume] at h
      split at h
      · cases h
      · split at h
        · exact .inl (Option.some.inj h).symm
        · exact .inl (Option.some.inj h).symm
        · cases h
    | _ => exact asks.elim
  | finishProvision t address =>
    cases task with
    | provisioning t' caller =>
      simp only [EgressTask.resume] at h
      split at h
      · exact .inr h
      · exact .inr (congrArg some (return_token h))
    | _ => exact asks.elim
  | finishDelete t =>
    cases task with
    | deleting t' caller => exact .inr (congrArg some (return_token h))
    | _ => exact asks.elim
  | failed t error text =>
    cases task with
    | provisioning t' caller => exact .inr (congrArg some (raise_token h))
    | deleting t' caller => exact .inr (congrArg some (raise_token h))
    | _ => exact asks.elim

private theorem return_ne_deleting {caller c : Option AcquireCall} {t x : String} :
    EgressTask.return_ t caller ≠ .deleting x c := by
  cases caller <;> nofun

private theorem raise_ne_deleting {caller c : Option AcquireCall} {t x : String} {error : Error} :
    EgressTask.raise_ t error caller ≠ .deleting x c := by
  rcases raise_cases t error caller with hr | ⟨call, hr⟩ <;> rw [hr] <;> nofun

/-- A task deletes after its transaction turned the document to deleting under its token. -/
theorem resume_deleting {caller : Option AcquireCall} (asks : task.Asks issued change)
    (h : task.resume change state = .deleting token caller) :
    state.status = .deleting ∧ state.operationToken = some token ∧ (token ∈ change.brings ∨ task.Owns token) := by
  cases change with
  | acquire leaseId expiresAt t =>
    cases task with
    | requesting call => cases h
    | _ => exact asks.elim
  | release leaseId t =>
    cases task with
    | idle =>
      simp only [EgressTask.resume] at h
      split at h
      · rename_i hdelete
        cases h
        exact ⟨hdelete.1, hdelete.2, .inl rfl⟩
      · cases h
    | _ => exact asks.elim
  | reconcile t =>
    cases task with
    | idle =>
      simp only [EgressTask.resume] at h
      split at h
      · cases h
      · rename_i htoken
        split at h
        · cases h
        · rename_i hstatus
          cases h
          exact ⟨hstatus, not_not.mp htoken, .inl rfl⟩
        · cases h
    | _ => exact asks.elim
  | finishProvision t address =>
    cases task with
    | provisioning t' c =>
      simp only [EgressTask.resume] at h
      split at h
      · rename_i hdelete
        cases h
        exact ⟨hdelete.1, hdelete.2, .inr rfl⟩
      · exact (return_ne_deleting h).elim
    | _ => exact asks.elim
  | finishDelete t =>
    cases task with
    | deleting t' c => exact (return_ne_deleting h).elim
    | _ => exact asks.elim
  | failed t error text =>
    cases task with
    | provisioning t' c => exact (raise_ne_deleting h).elim
    | deleting t' c => exact (raise_ne_deleting h).elim
    | _ => exact asks.elim

private theorem return_not_owns {caller : Option AcquireCall} {t : String} :
    ¬ (EgressTask.return_ t caller).Owns token := by
  cases caller <;> exact id

private theorem raise_not_owns {caller : Option AcquireCall} {t : String} {error : Error} :
    ¬ (EgressTask.raise_ t error caller).Owns token := by
  rcases raise_cases t error caller with hr | ⟨call, hr⟩ <;> rw [hr] <;> exact id

/-- A task has asked for a provisioning after its transaction turned the document to it. -/
theorem resume_owns (asks : task.Asks issued change) (h : (task.resume change state).Owns token) :
    state.status = .provisioning := by
  cases change with
  | acquire leaseId expiresAt t =>
    cases task with
    | requesting call => exact h.2.1
    | _ => exact asks.elim
  | release leaseId t =>
    cases task with
    | idle =>
      simp only [EgressTask.resume] at h
      split at h <;> exact h.elim
    | _ => exact asks.elim
  | reconcile t =>
    cases task with
    | idle =>
      simp only [EgressTask.resume] at h
      split at h
      · exact h.elim
      · split at h
        · rename_i hstatus
          exact hstatus
        · exact h.elim
        · exact h.elim
    | _ => exact asks.elim
  | finishProvision t address =>
    cases task with
    | provisioning t' c =>
      simp only [EgressTask.resume] at h
      split at h
      · exact h.elim
      · exact (return_not_owns h).elim
    | _ => exact asks.elim
  | finishDelete t =>
    cases task with
    | deleting t' c => exact (return_not_owns h).elim
    | _ => exact asks.elim
  | failed t error text =>
    cases task with
    | provisioning t' c => exact (raise_not_owns h).elim
    | deleting t' c => exact (raise_not_owns h).elim
    | _ => exact asks.elim

private theorem return_spent {caller : Option AcquireCall} {t : String} (h : (EgressTask.return_ t caller).Spent token) :
    t = token := by
  cases caller with
  | none => exact h.elim
  | some call => exact h

private theorem raise_spent {caller : Option AcquireCall} {t : String} {error : Error}
    (h : (EgressTask.raise_ t error caller).Spent token) : t = token := by
  rcases raise_cases t error caller with hr | ⟨call, hr⟩ <;> rw [hr] at h
  · exact h.elim
  · exact h

/-- A task keeps a token without an operation when the document was somebody else's, or after a completion. -/
theorem resume_spent (asks : task.Asks issued change) (h : (task.resume change state).Spent token) :
    ¬ (state.status = .provisioning ∧ state.operationToken = some token) ∨ change.Completes token := by
  cases change with
  | acquire leaseId expiresAt t =>
    cases task with
    | requesting call =>
      obtain ⟨rfl, hother⟩ := h
      exact .inl hother
    | _ => exact asks.elim
  | release leaseId t =>
    cases task with
    | idle =>
      simp only [EgressTask.resume] at h
      split at h <;> exact h.elim
    | _ => exact asks.elim
  | reconcile t =>
    cases task with
    | idle =>
      simp only [EgressTask.resume] at h
      split at h
      · exact h.elim
      · split at h <;> exact h.elim
    | _ => exact asks.elim
  | finishProvision t address =>
    cases task with
    | provisioning t' c =>
      obtain rfl : t = t' := asks
      simp only [EgressTask.resume] at h
      split at h
      · exact h.elim
      · exact .inr (return_spent h)
    | _ => exact asks.elim
  | finishDelete t =>
    cases task with
    | deleting t' c =>
      obtain rfl : t = t' := asks
      exact .inr (return_spent h)
    | _ => exact asks.elim
  | failed t error text =>
    cases task with
    | provisioning t' c =>
      obtain rfl : t = t' := asks
      exact .inr (raise_spent h)
    | deleting t' c =>
      obtain rfl : t = t' := asks
      exact .inr (raise_spent h)
    | _ => exact asks.elim

/-- A completed operation leaves no provisioning under its token. -/
theorem completed_not_provisioning (h : change.apply region now document = .ok state) (completes : change.Completes token)
    (after : state.operationToken = some token)
    (provision : ∀ address, change = .finishProvision token address →
      (currentState region document now).operationToken = some token →
        (currentState region document now).status = .provisioning)
    (delete : change = .finishDelete token → (currentState region document now).status = .deleting) :
    state.status ≠ .provisioning := by
  cases change with
  | acquire | release | reconcile => exact completes.elim
  | finishProvision t address =>
    obtain rfl : t = token := completes
    cases h
    simp only [Browser.finishProvision] at after ⊢
    split
    · rename_i hkept
      rw [if_pos hkept] at after
      rcases hkept with hkept | hkept
      · exact absurd after hkept
      · exact absurd (provision address rfl after) hkept
    · dsimp only
      split <;> nofun
  | finishDelete t =>
    obtain rfl : t = token := completes
    cases h
    simp only [Browser.finishDelete] at after ⊢
    split
    · rename_i hkept
      rw [if_pos hkept] at after
      rcases hkept with hkept | hkept
      · exact absurd after hkept
      · exact absurd (delete rfl) hkept
    · nofun
  | failed t error text =>
    obtain rfl : t = token := completes
    cases h
    simp only [operationFailed] at after ⊢
    split
    · rename_i hkept
      rw [if_pos hkept] at after
      exact absurd after hkept
    · nofun

/-- Without a change of the document no task takes up a delete or gets a token. -/
theorem move_cases (moves : EgressMove approved document now task task') :
    (∀ t c, task' ≠ .deleting t c) ∧ ∀ t, task'.token? = some t → task.token? = some t := by
  cases moves with
  | call required leaseId expiresAt domains => exact ⟨nofun, nofun⟩
  | look call token s =>
    unfold EgressTask.look
    split
    · exact ⟨nofun, nofun⟩
    · split
      · exact ⟨nofun, nofun⟩
      · split <;> exact ⟨nofun, fun t h => h⟩
  | @poll call token task' read =>
    unfold EgressTask.poll at read
    obtain ⟨current, -, rest⟩ := (bind_ok _ _ _).mp read
    cases current with
    | none =>
      cases rest
      exact ⟨nofun, nofun⟩
    | some s =>
      dsimp only at rest
      split at rest <;> cases rest
      · exact ⟨nofun, nofun⟩
      · exact ⟨nofun, fun t h => h⟩
  | fail task => exact ⟨nofun, nofun⟩

/-- Without a change of the document a task comes to own only what it owned. -/
theorem move_owns (moves : EgressMove approved document now task task') (h : task'.Owns token) :
    task.Owns token ∨ ∃ s, document = some s ∧ s.status = .provisioning ∧ s.operationToken = some token ∧
      task.Spent token := by
  cases moves with
  | call required leaseId expiresAt domains => exact h.elim
  | look call t s =>
    unfold EgressTask.look at h
    split at h
    · exact h.elim
    · split at h
      · exact h.elim
      · split at h
        · rename_i hown
          exact .inl ⟨h, hown.1, hown.2⟩
        · exact h.elim
  | @poll call t task' read =>
    unfold EgressTask.poll at read
    obtain ⟨current, hread, rest⟩ := (bind_ok _ _ _).mp read
    obtain rfl := readEgress_ok hread
    cases current with
    | none =>
      cases rest
      exact h.elim
    | some s =>
      dsimp only at rest
      split at rest <;> cases rest
      · exact h.elim
      · obtain ⟨rfl, hstatus, htoken⟩ := h
        exact .inr ⟨s, rfl, hstatus, htoken, rfl⟩
  | fail task => exact h.elim

/-- Without a change of the document a task spends only what it had spent, or what it saw with somebody else. -/
theorem move_spent (moves : EgressMove approved document now task task') (h : task'.Spent token) :
    task.Spent token := by
  cases moves with
  | call required leaseId expiresAt domains => exact h.elim
  | look call t s =>
    unfold EgressTask.look at h
    split at h
    · exact h.elim
    · split at h
      · exact h.elim
      · split at h
        · exact h.elim
        · rename_i hother
          obtain rfl : t = token := h
          exact ⟨rfl, hother⟩
  | @poll call t task' read =>
    unfold EgressTask.poll at read
    obtain ⟨current, hread, rest⟩ := (bind_ok _ _ _).mp read
    cases current with
    | none =>
      cases rest
      exact h.elim
    | some s =>
      dsimp only at rest
      split at rest <;> cases rest
      · exact h.elim
      · exact h.1
  | fail task => exact h.elim

end

/-- What holds between the document and the tasks of the managers. -/
structure EgressConsistent (pool : EgressPool ι) : Prop where
  /-- Who has a token was handed it, and has committed a request under it. -/
  issued : ∀ i t, (pool.tasks i).token? = some t → t ∈ pool.issued ∧ ∃ s, pool.document = some s
  current : ∀ s t, pool.document = some s → s.operationToken = some t → t ∈ pool.issued
  apart : ∀ i j t, (pool.tasks i).token? = some t → (pool.tasks j).token? = some t → i = j
  deleting : ∀ i t caller, pool.tasks i = .deleting t caller →
    ∃ s, pool.document = some s ∧ s.status = .deleting ∧ s.operationToken = some t
  owned : ∀ i t, (pool.tasks i).Owns t → ∀ s, pool.document = some s → s.operationToken = some t →
    s.status = .provisioning
  spent : ∀ i t, (pool.tasks i).Spent t → ∀ s, pool.document = some s → s.operationToken = some t →
    s.status ≠ .provisioning

section
variable {pool next : EgressPool ι} {label : EgressLabel ι} {who : ι} {now : AwareDatetime} {task : EgressTask}
  {change : EgressChange} {state : BrowserEgressState}

omit [DecidableEq ι] in
private theorem initial_consistent : EgressConsistent (EgressPool.initial (ι := ι)) where
  issued := nofun
  current := nofun
  apart := nofun
  deleting := nofun
  owned _ _ h := h.elim
  spent _ _ h := h.elim

private theorem move_consistent (consistent : EgressConsistent pool)
    (moves : EgressMove approved pool.document now (pool.tasks who) task) :
    EgressConsistent { pool with tasks := Function.update pool.tasks who task } := by
  obtain ⟨hdelete, htoken⟩ := move_cases moves
  have hold : ∀ i t, (Function.update pool.tasks who task i).token? = some t → (pool.tasks i).token? = some t := by
    intro i t h
    by_cases hi : i = who
    · subst hi
      simp only [Function.update_self] at h
      exact htoken t h
    · rwa [Function.update_of_ne hi] at h
  refine ⟨?_, consistent.current, ?_, ?_, ?_, ?_⟩
  · intro i t h
    exact consistent.issued i t (hold i t h)
  · intro i j t hi hj
    exact consistent.apart i j t (hold i t hi) (hold j t hj)
  · intro i t caller h
    by_cases hi : i = who
    · subst hi
      simp only [Function.update_self] at h
      exact (hdelete t caller h).elim
    · simp only [Function.update_of_ne hi] at h
      exact consistent.deleting i t caller h
  · intro i t h s hs ht
    by_cases hi : i = who
    · subst hi
      simp only [Function.update_self] at h
      rcases move_owns moves h with h | ⟨s', hs', hstatus, htoken', hspent⟩
      · exact consistent.owned i t h s hs ht
      · exact absurd hstatus (consistent.spent i t hspent s' hs' htoken')
    · simp only [Function.update_of_ne hi] at h
      exact consistent.owned i t h s hs ht
  · intro i t h s hs ht
    by_cases hi : i = who
    · subst hi
      simp only [Function.update_self] at h
      exact consistent.spent i t (move_spent moves h) s hs ht
    · simp only [Function.update_of_ne hi] at h
      exact consistent.spent i t h s hs ht

private theorem commit_consistent (consistent : EgressConsistent pool)
    (asks : (pool.tasks who).Asks pool.issued change)
    (updated : change.apply region now pool.document = .ok state)
    (goes : task = (pool.tasks who).resume change state ∨ task = .idle) :
    EgressConsistent ⟨some state, pool.issued ∪ change.brings, Function.update pool.tasks who task⟩ := by
  have htoken : ∀ t, task.token? = some t → t ∈ change.brings ∨ (pool.tasks who).token? = some t := by
    intro t h
    rcases goes with rfl | rfl
    · exact resume_token asks h
    · cases h
  have hnew : ∀ i t, (pool.tasks i).token? = some t → t ∉ change.brings := by
    intro i t h hb
    exact new_of_brings asks hb (consistent.issued i t h).1
  have hother : ∀ i t, i ≠ who → (pool.tasks i).token? = some t → ¬ change.Completes t := by
    intro i t hi h hc
    exact hi (consistent.apart i who t h (token_of_operates (operates_of_completes asks hc)))
  have hbefore : ∀ t, t ∉ change.brings → state.operationToken = some t →
      ∃ s, pool.document = some s ∧ s.operationToken = some t := by
    intro t hb h
    exact (token_from updated h).resolve_left hb
  refine ⟨?_, ?_, ?_, ?_, ?_, ?_⟩
  · intro i t h
    refine ⟨?_, state, rfl⟩
    by_cases hi : i = who
    · subst hi
      simp only [Function.update_self] at h
      rcases htoken t h with hb | h
      · exact .inr hb
      · exact .inl (consistent.issued i t h).1
    · simp only [Function.update_of_ne hi] at h
      exact .inl (consistent.issued i t h).1
  · intro s t hs ht
    cases hs
    rcases token_from updated ht with hb | ⟨s, hs, ht⟩
    · exact .inr hb
    · exact .inl (consistent.current s t hs ht)
  · intro i j t hi hj
    by_cases hiw : i = who <;> by_cases hjw : j = who
    · rw [hiw, hjw]
    · subst hiw
      simp only [Function.update_self] at hi
      simp only [Function.update_of_ne hjw] at hj
      rcases htoken t hi with hb | hi
      · exact absurd hb (hnew j t hj)
      · exact consistent.apart i j t hi hj
    · subst hjw
      simp only [Function.update_self] at hj
      simp only [Function.update_of_ne hiw] at hi
      rcases htoken t hj with hb | hj
      · exact absurd hb (hnew i t hi)
      · exact consistent.apart i j t hi hj
    · simp only [Function.update_of_ne hiw] at hi
      simp only [Function.update_of_ne hjw] at hj
      exact consistent.apart i j t hi hj
  · intro i t caller h
    by_cases hi : i = who
    · subst hi
      simp only [Function.update_self] at h
      rcases goes with rfl | rfl
      · obtain ⟨hstatus, htoken, -⟩ := resume_deleting asks h
        exact ⟨state, rfl, hstatus, htoken⟩
      · cases h
    · simp only [Function.update_of_ne hi] at h
      obtain ⟨s, hs, hstatus, ht⟩ := consistent.deleting i t caller h
      rw [hs] at updated
      have hown : (pool.tasks i).token? = some t := by
        rw [h]
        rfl
      exact ⟨state, rfl, deleting_kept updated hstatus (hother i t hi hown) ht⟩
  · intro i t h s hs ht
    cases hs
    by_cases hi : i = who
    · subst hi
      simp only [Function.update_self] at h
      rcases goes with rfl | rfl
      · exact resume_owns asks h
      · exact h.elim
    · simp only [Function.update_of_ne hi] at h
      have hown := token_of_owns h
      obtain ⟨s, hs, ht'⟩ := hbefore t (hnew i t hown) ht
      rw [hs] at updated
      rw [status_kept updated ht' ht (hnew i t hown) (hother i t hi hown)]
      exact consistent.owned i t h s hs ht'
  · intro i t h s hs ht
    cases hs
    by_cases hi : i = who
    · subst hi
      simp only [Function.update_self] at h
      rcases goes with rfl | rfl
      · rcases resume_spent asks h with hother | hcompletes
        · exact fun hstatus => hother ⟨hstatus, ht⟩
        · have hoperates := operates_of_completes asks hcompletes
          obtain ⟨s, hs, ht'⟩ := hbefore t (hnew i t (token_of_operates hoperates)) ht
          rw [hs] at updated
          refine completed_not_provisioning updated hcompletes ht ?_ ?_
          · intro address hc _
            rw [hc] at asks
            revert hoperates
            cases hp : pool.tasks i with
            | provisioning t' caller =>
              rintro rfl
              exact consistent.owned i t' (by rw [hp]; rfl) s hs ht'
            | _ =>
              rw [hp] at asks
              exact asks.elim
          · intro hc
            rw [hc] at asks
            revert hoperates
            cases hp : pool.tasks i with
            | deleting t' caller =>
              rintro rfl
              obtain ⟨s', hs', hstatus, -⟩ := consistent.deleting i t' caller hp
              rw [hs] at hs'
              cases hs'
              exact hstatus
            | _ =>
              rw [hp] at asks
              exact asks.elim
      · exact h.elim
    · simp only [Function.update_of_ne hi] at h
      have hown := token_of_spent h
      obtain ⟨s, hs, ht'⟩ := hbefore t (hnew i t hown) ht
      rw [hs] at updated
      rw [status_kept updated ht' ht (hnew i t hown) (hother i t hi hown)]
      exact consistent.spent i t h s hs ht'

/-- Every step keeps what holds. -/
theorem step_consistent (consistent : EgressConsistent pool) (step : EgressStep region approved pool label next) :
    EgressConsistent next := by
  cases step with
  | move moves => exact move_consistent consistent moves
  | commit asks updated => exact commit_consistent consistent asks (egressUpdate_ok updated) (.inl rfl)
  | lost asks updated => exact commit_consistent consistent asks (egressUpdate_ok updated) (.inr rfl)

/-- Every run of the egress lock is consistent. -/
theorem run_consistent {labels : List (EgressLabel ι)}
    (run : EgressRun region approved EgressPool.initial labels pool) : EgressConsistent pool := by
  induction run with
  | nil => exact initial_consistent
  | step _ step ih => exact step_consistent ih step

/-- A manager takes up a delete in a transaction that leaves no lease. -/
theorem delete_unneeded (consistent : EgressConsistent pool) (step : EgressStep region approved pool label next)
    (before : ¬ (pool.tasks label.who).Deletes) (after : (next.tasks label.who).Deletes) :
    ∃ change state, label.change = some change ∧ next.document = some state ∧ state.leases = [] ∧
      ∀ s, pool.document = some s → NothingLeft s.leases label.now change := by
  cases step with
  | @move who now task moves =>
    simp only [Function.update_self] at after
    cases task with
    | deleting t c => exact ((move_cases moves).1 t c rfl).elim
    | _ => exact after.elim
  | @lost who now change state asks updated =>
    simp only [Function.update_self] at after
    exact after.elim
  | @commit who now change state asks updated =>
    simp only [Function.update_self] at after
    cases hresume : (pool.tasks who).resume change state with
    | deleting t c =>
      obtain ⟨hstatus, htoken, hfrom⟩ := resume_deleting asks hresume
      have hbefore : (currentState region pool.document now).operationToken = some t →
          (currentState region pool.document now).status = .provisioning := by
        intro ht
        cases hdocument : pool.document with
        | none =>
          rw [hdocument] at ht
          cases ht
        | some s =>
          rw [hdocument] at ht
          rcases hfrom with hbrings | howns
          · exact absurd (consistent.current s t hdocument ht) (new_of_brings asks hbrings)
          · exact consistent.owned who t howns s hdocument ht
      obtain ⟨hleases, hnothing⟩ := deletes_unneeded (egressUpdate_ok updated) hstatus htoken hbefore
      refine ⟨change, state, rfl, rfl, hleases, fun s hs => ?_⟩
      rw [hs] at hnothing
      exact hnothing
    | _ =>
      rw [hresume] at after
      exact after.elim

/-- What the manager of a superseded operation commits when it completes. -/
theorem superseded_counts (consistent : EgressConsistent pool) (step : EgressStep region approved pool label next)
    {token : String} (change : EgressChange) (commits : label.change = some change) (completes : change.Completes token)
    (superseded : ∀ s, pool.document = some s → s.operationToken ≠ some token) :
    ∃ s, pool.document = some s ∧ next.document = some { s with revision := s.revision + 1 } := by
  have hcommit : ∀ {who now change state}, (pool.tasks who).Asks pool.issued change → change.Completes token →
      egressUpdate pool.document (change.apply region now) = .ok state →
      ∃ s, pool.document = some s ∧ some state = some { s with revision := s.revision + 1 } := by
    intro who now change state asks completes updated
    obtain ⟨-, s, hs⟩ := consistent.issued who token (token_of_operates (operates_of_completes asks completes))
    have happly := egressUpdate_ok updated
    rw [hs] at happly
    exact ⟨s, hs, congrArg some (superseded_kept happly completes (superseded s hs))⟩
  cases step with
  | move => cases commits
  | commit asks updated =>
    cases commits
    exact hcommit asks completes updated
  | lost asks updated =>
    cases commits
    exact hcommit asks completes updated

/-- Managers share the egress safely, whatever they do and in whatever order. While it is ready nobody deletes it; a
delete starts in a transaction that leaves no lease; one task at most has the operation of the current token; and the
completion of a superseded operation only counts. -/
theorem egress_safe {labels : List (EgressLabel ι)} (run : EgressRun region approved EgressPool.initial labels pool) :
    (∀ s, pool.document = some s → s.status = .ready → ∀ i, ¬ (pool.tasks i).Deletes) ∧
    (∀ label next, EgressStep region approved pool label next → ¬ (pool.tasks label.who).Deletes →
      (next.tasks label.who).Deletes →
      ∃ change state, label.change = some change ∧ next.document = some state ∧ state.leases = [] ∧
        ∀ s, pool.document = some s → NothingLeft s.leases label.now change) ∧
    (∀ s t i j, pool.document = some s → s.operationToken = some t → (pool.tasks i).Operates t →
      (pool.tasks j).Operates t → i = j) ∧
    (∀ label next change token, EgressStep region approved pool label next → label.change = some change →
      change.Completes token → (∀ s, pool.document = some s → s.operationToken ≠ some token) →
      ∃ s, pool.document = some s ∧ next.document = some { s with revision := s.revision + 1 }) := by
  have consistent := run_consistent run
  refine ⟨?_, ?_, ?_, ?_⟩
  · intro s hs hready i hdeletes
    cases htask : pool.tasks i with
    | deleting t caller =>
      obtain ⟨s', hs', hstatus, -⟩ := consistent.deleting i t caller htask
      rw [hs] at hs'
      cases hs'
      rw [hready] at hstatus
      cases hstatus
    | _ =>
      rw [htask] at hdeletes
      exact hdeletes.elim
  · intro label next step before after
    exact delete_unneeded consistent step before after
  · intro s t i j _ _ hi hj
    exact consistent.apart i j t (token_of_operates hi) (token_of_operates hj)
  · intro label next change token step commits completes superseded
    exact superseded_counts consistent step change commits completes superseded

end

def egressMinute (n : Int) : AwareDatetime := ⟨n * 60 * 1000000, 0⟩

def provisioningState : BrowserEgressState where
  id := "us-central1"
  status := .provisioning
  leases := [⟨"browser_1", egressMinute 60⟩]
  operationToken := some "egressop_1"
  gatewayAddress := none
  error := none
  updatedAt := egressMinute 0
  revision := 1

def readyState : BrowserEgressState :=
  { provisioningState with
    status := .ready
    gatewayAddress := some "10.0.0.2"
    updatedAt := egressMinute 5
    revision := 2 }

def acquireCall : AcquireCall := ⟨"browser_1", egressMinute 60, egressMinute 15⟩

def requestLabel : EgressLabel ℕ := ⟨0, egressMinute 0, some (.acquire "browser_1" (egressMinute 60) "egressop_1")⟩

def finishLabel : EgressLabel ℕ := ⟨0, egressMinute 5, some (.finishProvision "egressop_1" "10.0.0.2")⟩

def calledPool : EgressPool ℕ :=
  ⟨none, ∅, Function.update (fun _ => .idle) 0 (.requesting acquireCall)⟩

def requestedPool : EgressPool ℕ :=
  ⟨some provisioningState, calledPool.issued ∪ {"egressop_1"},
    Function.update calledPool.tasks 0 (.looking acquireCall "egressop_1" provisioningState)⟩

def provisioningPool : EgressPool ℕ :=
  { requestedPool with
    tasks := Function.update requestedPool.tasks 0 (.provisioning "egressop_1" (some acquireCall)) }

def readyPool : EgressPool ℕ :=
  ⟨some readyState, provisioningPool.issued ∪ ∅,
    Function.update provisioningPool.tasks 0 (.sleeping acquireCall "egressop_1")⟩

/-- A task has called and not yet asked for the lock. -/
theorem called_run : EgressRun "us-central1" ["example.com"] EgressPool.initial [⟨0, egressMinute 0, none⟩] calledPool := by
  have hcall : EgressMove ["example.com"] none (egressMinute 0) .idle (.requesting acquireCall) :=
    .call [] "browser_1" (egressMinute 60) rfl
  exact .step .nil (@EgressStep.move ℕ _ _ _ EgressPool.initial 0 _ _ hcall)

/-- The request is granted on a free lock. -/
theorem requested_step : EgressStep "us-central1" ["example.com"] calledPool requestLabel requestedPool :=
  @EgressStep.commit ℕ _ _ _ calledPool 0 (egressMinute 0) (.acquire "browser_1" (egressMinute 60) "egressop_1")
    provisioningState ⟨rfl, rfl, Set.notMem_empty _⟩ rfl

private theorem looked_step :
    EgressStep "us-central1" ["example.com"] requestedPool ⟨0, egressMinute 0, none⟩ provisioningPool := by
  have hlook : EgressMove ["example.com"] requestedPool.document (egressMinute 0) (requestedPool.tasks 0)
      (.provisioning "egressop_1" (some acquireCall)) := .look acquireCall "egressop_1" provisioningState
  exact .move hlook

private theorem ready_run : ∃ labels, EgressRun "us-central1" ["example.com"] EgressPool.initial labels readyPool := by
  have hfinish : EgressStep "us-central1" ["example.com"] provisioningPool finishLabel readyPool :=
    @EgressStep.commit ℕ _ _ _ provisioningPool 0 (egressMinute 5) (.finishProvision "egressop_1" "10.0.0.2")
      readyState rfl rfl
  exact ⟨_, .step (.step (.step called_run requested_step) looked_step) hfinish⟩

/-- The egress is ready after the first run, and nobody deletes it. -/
theorem ready_undisturbed : readyPool.document = some readyState ∧ ∀ i, ¬ (readyPool.tasks i).Deletes := by
  obtain ⟨labels, run⟩ := ready_run
  exact ⟨rfl, (egress_safe run).1 readyState rfl rfl⟩

end Uumi.Browser
