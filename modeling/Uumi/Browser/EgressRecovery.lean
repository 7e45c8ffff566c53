import Uumi.Browser.EgressSafety

/-! An operation of a manager that crashed: which reconcile takes it over. -/
namespace Uumi.Browser
open Uumi.Contracts Uumi.Core Uumi.Foundations

variable {ι : Type} [DecidableEq ι] {region : String} {approved : List String}

def EgressLabel.requestedAt (label : EgressLabel ι) : Option AwareDatetime :=
  match label.change with
  | some (.acquire _ _ _) | some (.release _ _) | some (.reconcile _) => some label.now
  | _ => none

/-- The time of the last acquire, release or reconcile, or the time given when there was none. -/
def lastRequest (start : AwareDatetime) (labels : List (EgressLabel ι)) : AwareDatetime :=
  labels.foldl (fun last label => label.requestedAt.getD last) start

omit [DecidableEq ι] in
@[simp] theorem lastRequest_append (start : AwareDatetime) (labels : List (EgressLabel ι)) (label : EgressLabel ι) :
    lastRequest start (labels ++ [label]) = label.requestedAt.getD (lastRequest start labels) := by
  simp [lastRequest]

section
variable {s state : BrowserEgressState} {token : String} {change : EgressChange} {now : AwareDatetime}

omit [DecidableEq ι] in
/-- The other changes of a document with a token: a request writes its time, a completion does not. -/
theorem updatedAt_eq (who : ι) {document : Option BrowserEgressState}
    (h : change.apply region now document = .ok state)
    (current : (currentState region document now).operationToken = some token) (other : ¬ change.Completes token) :
    state.updatedAt = (EgressLabel.requestedAt ⟨who, now, some change⟩).getD
      (currentState region document now).updatedAt := by
  cases change with
  | acquire leaseId expiresAt t =>
    simp only [EgressChange.apply, requestAcquire, unit_bind_ok, pure_ok] at h
    obtain ⟨-, rfl⟩ := h
    rfl
  | release leaseId t =>
    cases h
    rfl
  | reconcile t =>
    cases h
    rfl
  | finishProvision t address =>
    cases h
    have ht : token ≠ t := fun h => other h.symm
    simp [finishProvision, current, ht, EgressLabel.requestedAt]
  | finishDelete t =>
    cases h
    have ht : token ≠ t := fun h => other h.symm
    simp [finishDelete, current, ht, EgressLabel.requestedAt]
  | failed t error text =>
    cases h
    have ht : token ≠ t := fun h => other h.symm
    simp [operationFailed, current, ht, EgressLabel.requestedAt]

/-- A change that starts an operation writes its time. -/
theorem updatedAt_started {document : Option BrowserEgressState} (h : change.apply region now document = .ok state)
    (after : state.operationToken = some token)
    (started : token ∈ change.brings ∨ ∃ address, change = .finishProvision token address ∧
      ((currentState region document now).operationToken = some token →
        (currentState region document now).status = .provisioning)) : state.updatedAt = now := by
  cases change with
  | acquire leaseId expiresAt t =>
    simp only [EgressChange.apply, requestAcquire, unit_bind_ok, pure_ok] at h
    obtain ⟨-, rfl⟩ := h
    rfl
  | release leaseId t =>
    cases h
    rfl
  | reconcile t =>
    cases h
    rfl
  | finishProvision t address =>
    rcases started with hbrings | ⟨_, hchange, howned⟩
    · exact hbrings.elim
    · cases hchange
      cases h
      simp only [finishProvision] at after ⊢
      split
      · rename_i hkept
        rw [if_pos hkept] at after
        rcases hkept with hkept | hkept
        · exact absurd after hkept
        · exact absurd (howned after) hkept
      · rfl
  | finishDelete t =>
    rcases started with hbrings | ⟨_, hchange, -⟩
    · exact hbrings.elim
    · cases hchange
  | failed t error text =>
    rcases started with hbrings | ⟨_, hchange, -⟩
    · exact hbrings.elim
    · cases hchange

end

def OnlyWith (pool : EgressPool ι) (who : ι) (token : String) : Prop :=
  token ∈ pool.issued ∧ ∀ i, i ≠ who → (pool.tasks i).token? ≠ some token

section
variable {pool next : EgressPool ι} {label : EgressLabel ι} {who : ι} {token : String}

/-- A manager that starts an operation is the only one with its token. -/
theorem started_only {now : AwareDatetime} {change : EgressChange} (consistent : EgressConsistent pool)
    (step : EgressStep region approved pool ⟨who, now, some change⟩ next)
    (started : token ∈ change.brings ∨ change.Completes token) : OnlyWith next who token := by
  have honly : (pool.tasks who).Asks pool.issued change → token ∈ pool.issued ∪ change.brings ∧
      ∀ i, i ≠ who → (pool.tasks i).token? ≠ some token := by
    intro asks
    rcases started with hbrings | hcompletes
    · refine ⟨.inr hbrings, fun i _ h => ?_⟩
      exact new_of_brings asks hbrings (consistent.issued i token h).1
    · have hwho := token_of_operates (operates_of_completes asks hcompletes)
      exact ⟨.inl (consistent.issued who token hwho).1, fun i hi h => hi (consistent.apart i who token h hwho)⟩
  cases step with
  | commit asks updated =>
    refine ⟨(honly asks).1, fun i hi => ?_⟩
    simp only [Function.update_of_ne hi]
    exact (honly asks).2 i hi
  | lost asks updated =>
    refine ⟨(honly asks).1, fun i hi => ?_⟩
    simp only [Function.update_of_ne hi]
    exact (honly asks).2 i hi

/-- No step changes that: a token that is passed on is a new one. -/
theorem OnlyWith.step (only : OnlyWith pool who token) (step : EgressStep region approved pool label next) :
    OnlyWith next who token := by
  obtain ⟨hissued, hothers⟩ := only
  cases step with
  | @move w now task moves =>
    refine ⟨hissued, fun i hi => ?_⟩
    by_cases hw : i = w
    · subst hw
      simp only [Function.update_self]
      exact fun h => hothers i hi ((move_cases moves).2 token h)
    · simp only [Function.update_of_ne hw]
      exact hothers i hi
  | @commit w now change state asks updated =>
    refine ⟨.inl hissued, fun i hi => ?_⟩
    by_cases hw : i = w
    · subst hw
      simp only [Function.update_self]
      intro h
      rcases resume_token asks h with hbrings | h
      · exact new_of_brings asks hbrings hissued
      · exact hothers i hi h
    · simp only [Function.update_of_ne hw]
      exact hothers i hi
  | @lost w now change state asks updated =>
    refine ⟨.inl hissued, fun i hi => ?_⟩
    by_cases hw : i = w
    · subst hw
      simp only [Function.update_self]
      nofun
    · simp only [Function.update_of_ne hw]
      exact hothers i hi

/-- What the others leave of an operation that is still the current one: its status, and the time of the last
request. -/
theorem pending_kept {start : EgressPool ι} {labels : List (EgressLabel ι)} {s : BrowserEgressState}
    (only : OnlyWith start who token) (began : start.document = some s)
    (run : EgressRun region approved start labels pool)
    (crashed : ∀ label ∈ labels, label.who = who → label.change = none) :
    OnlyWith pool who token ∧ ∀ t, pool.document = some t → t.operationToken = some token →
      t.status = s.status ∧ t.updatedAt = lastRequest s.updatedAt labels := by
  induction run with
  | nil =>
    refine ⟨only, fun t ht _ => ?_⟩
    rw [began] at ht
    cases ht
    exact ⟨rfl, rfl⟩
  | @step labels pool next label run step ih =>
    obtain ⟨honly, hkept⟩ := ih fun l hl => crashed l (List.mem_append_left _ hl)
    refine ⟨honly.step step, fun t ht htoken => ?_⟩
    have hcommit : ∀ {change state}, label.change = some change →
        (pool.tasks label.who).Asks pool.issued change →
        egressUpdate pool.document (change.apply region label.now) = .ok state → state.operationToken = some token →
        state.status = s.status ∧ state.updatedAt = lastRequest s.updatedAt (labels ++ [label]) := by
      intro change state hchange asks updated hstate
      have hother : label.who ≠ who := fun hwho => by
        cases hchange.symm.trans (crashed label (by simp) hwho)
      have happly := egressUpdate_ok updated
      have hbrings : token ∉ change.brings := fun hb => new_of_brings asks hb honly.1
      have hcompletes : ¬ change.Completes token := fun hc =>
        honly.2 label.who hother (token_of_operates (operates_of_completes asks hc))
      obtain ⟨t', ht', htoken'⟩ := (token_from happly hstate).resolve_left hbrings
      obtain ⟨hstatus, hupdated⟩ := hkept t' ht' htoken'
      rw [ht'] at happly
      have hlabel : label = ⟨label.who, label.now, some change⟩ := by
        rw [← hchange]
      refine ⟨(status_kept happly htoken' hstate hbrings hcompletes).trans hstatus, ?_⟩
      rw [updatedAt_eq label.who happly htoken' hcompletes, lastRequest_append, ← hlabel]
      exact congrArg _ hupdated
    cases step with
    | move moves =>
      rw [lastRequest_append]
      exact hkept t ht htoken
    | commit asks updated =>
      cases ht
      exact hcommit rfl asks updated htoken
    | lost asks updated =>
      cases ht
      exact hcommit rfl asks updated htoken

end

/-- A reconcile takes over: an operation of its own token provisions while a lease is left, and deletes otherwise. -/
def TakesOver (before after : BrowserEgressState) (now : AwareDatetime) (token : String) : Prop :=
  after.operationToken = some token ∧
    after.status = if unexpired before.leases now ≠ [] then .provisioning else .deleting

/-- A reconcile under a new token takes over a provisioning that is stale, and nothing else in progress. -/
theorem reconcile_takesOver_iff {s : BrowserEgressState} {now : AwareDatetime} {token : String}
    (new : s.operationToken ≠ some token) (progress : s.status = .provisioning ∨ s.status = .deleting) :
    TakesOver s (requestReconcile region (some s) now token) now token ↔ s.status = .provisioning ∧ s.Stale now := by
  have hcurrent : currentState region (some s) now = s := rfl
  rcases progress with hs | hs
  · by_cases hstale : s.Stale now <;> by_cases hleases : unexpired s.leases now = [] <;>
      simp [TakesOver, requestReconcile, hcurrent, hs, hstale, hleases, new]
  · simp [TakesOver, requestReconcile, hcurrent, hs, new]

/-- A manager starts an operation and commits nothing any more; the others go on. A reconcile after the provisioning
timeout takes the operation over exactly when it provisions and nobody has asked for anything within the timeout. -/
theorem reclaimed_iff {pool₀ pool₁ pool₂ pool₃ : EgressPool ι} {labels₀ labels : List (EgressLabel ι)} {who j : ι}
    {start now : AwareDatetime} {change : EgressChange} {token fresh : String} {s₁ s₂ s₃ : BrowserEgressState}
    (before : EgressRun region approved EgressPool.initial labels₀ pool₀)
    (starts : EgressStep region approved pool₀ ⟨who, start, some change⟩ pool₁)
    (began : token ∈ change.brings ∨ ∃ address, change = .finishProvision token address)
    (started : pool₁.document = some s₁) (current : s₁.operationToken = some token)
    (progress : s₁.status = .provisioning ∨ s₁.status = .deleting)
    (rest : EgressRun region approved pool₁ labels pool₂)
    (crashed : ∀ label ∈ labels, label.who = who → label.change = none)
    (pending : pool₂.document = some s₂) (still : s₂.operationToken = some token)
    (reconcile : EgressStep region approved pool₂ ⟨j, now, some (.reconcile fresh)⟩ pool₃)
    (after : pool₃.document = some s₃) :
    TakesOver s₂ s₃ now fresh ↔
      s₁.status = .provisioning ∧ (lastRequest start labels).instant + provisioningTimeout ≤ now.instant := by
  have consistent := run_consistent before
  obtain ⟨hasks, happly⟩ : (pool₀.tasks who).Asks pool₀.issued change ∧
      change.apply region start pool₀.document = .ok s₁ := by
    cases starts with
    | commit asks updated =>
      cases started
      exact ⟨asks, egressUpdate_ok updated⟩
    | lost asks updated =>
      cases started
      exact ⟨asks, egressUpdate_ok updated⟩
  have hstart : s₁.updatedAt = start := by
    refine updatedAt_started happly current (began.imp_right ?_)
    rintro ⟨address, rfl⟩
    refine ⟨address, rfl, fun htoken => ?_⟩
    cases hdocument : pool₀.document with
    | none =>
      rw [hdocument] at htoken
      cases htoken
    | some s =>
      rw [hdocument] at htoken
      refine consistent.owned who token ?_ s hdocument htoken
      cases htask : pool₀.tasks who with
      | provisioning t caller =>
        rw [htask] at hasks
        exact Eq.symm hasks
      | _ =>
        rw [htask] at hasks
        exact hasks.elim
  have honly : OnlyWith pool₁ who token := started_only consistent starts (began.imp_right fun ⟨_, h⟩ => by rw [h]; rfl)
  obtain ⟨⟨hissued, -⟩, hkept⟩ := pending_kept honly started rest crashed
  obtain ⟨hstatus, hupdated⟩ := hkept s₂ pending still
  rw [hstart] at hupdated
  obtain ⟨hfresh, hreconcile⟩ : fresh ∉ pool₂.issued ∧ s₃ = requestReconcile region (some s₂) now fresh := by
    rw [← pending]
    cases reconcile with
    | commit asks updated =>
      cases after
      exact ⟨new_of_brings asks rfl, (Except.ok.inj (egressUpdate_ok updated)).symm⟩
    | lost asks updated =>
      cases after
      exact ⟨new_of_brings asks rfl, (Except.ok.inj (egressUpdate_ok updated)).symm⟩
  have hne : s₂.operationToken ≠ some fresh := by
    rw [still]
    rintro ⟨⟩
    exact hfresh hissued
  rw [hreconcile, ← hstatus, ← hupdated]
  exact reconcile_takesOver_iff hne (by rwa [hstatus])

def polledState : BrowserEgressState :=
  { provisioningState with
    leases := [⟨"browser_1", egressMinute 60⟩, ⟨"browser_2", egressMinute 90⟩]
    updatedAt := egressMinute 14
    revision := 2 }

def pollCall : AcquireCall := ⟨"browser_2", egressMinute 90, egressMinute 29⟩

def pollLabels : List (EgressLabel ℕ) :=
  [⟨1, egressMinute 14, none⟩, ⟨1, egressMinute 14, some (.acquire "browser_2" (egressMinute 90) "egressop_2")⟩]

def pollingPool : EgressPool ℕ :=
  { requestedPool with tasks := Function.update requestedPool.tasks 1 (.requesting pollCall) }

def polledPool : EgressPool ℕ :=
  ⟨some polledState, pollingPool.issued ∪ {"egressop_2"},
    Function.update pollingPool.tasks 1 (.looking pollCall "egressop_2" polledState)⟩

def reconciledState : BrowserEgressState := { polledState with updatedAt := egressMinute 20, revision := 3 }

def reconciledPool : EgressPool ℕ :=
  ⟨some reconciledState, polledPool.issued ∪ {"egressop_3"}, Function.update polledPool.tasks 2 .idle⟩

private theorem polled_run : EgressRun "us-central1" ["example.com"] requestedPool pollLabels polledPool := by
  have hcall : EgressMove ["example.com"] requestedPool.document (egressMinute 14) (requestedPool.tasks 1)
      (.requesting pollCall) := .call [] "browser_2" (egressMinute 90) rfl
  have hcommit : EgressStep "us-central1" ["example.com"] pollingPool
      ⟨1, egressMinute 14, some (.acquire "browser_2" (egressMinute 90) "egressop_2")⟩ polledPool := by
    refine @EgressStep.commit ℕ _ _ _ pollingPool 1 (egressMinute 14)
      (.acquire "browser_2" (egressMinute 90) "egressop_2") polledState ⟨rfl, rfl, ?_⟩ rfl
    simp [pollingPool, requestedPool, calledPool]
  exact .step (.step .nil (.move hcall)) hcommit

private theorem reconciled_step : EgressStep "us-central1" ["example.com"] polledPool
    ⟨2, egressMinute 20, some (.reconcile "egressop_3")⟩ reconciledPool := by
  refine @EgressStep.commit ℕ _ _ _ polledPool 2 (egressMinute 20) (.reconcile "egressop_3") reconciledState ?_ rfl
  change "egressop_3" ∉ polledPool.issued
  simp [polledPool, pollingPool, requestedPool, calledPool]

/-- The manager that provisions has crashed at the start, another one has asked after fourteen minutes, and the
reconcile after twenty minutes does not take over. -/
theorem egress_unreclaimed :
    (∃ labels, EgressRun "us-central1" ["example.com"] EgressPool.initial labels calledPool) ∧
    EgressStep "us-central1" ["example.com"] calledPool requestLabel requestedPool ∧
    EgressRun "us-central1" ["example.com"] requestedPool pollLabels polledPool ∧
    (∀ label ∈ pollLabels, label.who ≠ requestLabel.who) ∧
    requestLabel.now.instant + provisioningTimeout ≤ (egressMinute 20).instant ∧
    EgressStep "us-central1" ["example.com"] polledPool ⟨2, egressMinute 20, some (.reconcile "egressop_3")⟩
      reconciledPool ∧
    polledPool.document = some polledState ∧ reconciledPool.document = some reconciledState ∧
    ¬ TakesOver polledState reconciledState (egressMinute 20) "egressop_3" := by
  refine ⟨⟨_, called_run⟩, requested_step, polled_run, ?_, ?_, reconciled_step, rfl, rfl, ?_⟩
  · intro label hlabel
    simp only [pollLabels, List.mem_cons, List.not_mem_nil, or_false] at hlabel
    rcases hlabel with rfl | rfl <;> decide
  · decide
  · rintro ⟨htoken, -⟩
    exact absurd htoken (by decide)

/-- Without the poll, the same reconcile takes over. -/
theorem unpolled_reclaimed :
    TakesOver provisioningState (requestReconcile "us-central1" (some provisioningState) (egressMinute 20) "egressop_3")
      (egressMinute 20) "egressop_3" := by
  have hstep : EgressStep "us-central1" ["example.com"] requestedPool
      ⟨2, egressMinute 20, some (.reconcile "egressop_3")⟩
      ⟨some (requestReconcile "us-central1" (some provisioningState) (egressMinute 20) "egressop_3"),
        requestedPool.issued ∪ {"egressop_3"}, Function.update requestedPool.tasks 2
          (.provisioning "egressop_3" none)⟩ := by
    refine @EgressStep.commit ℕ _ _ _ requestedPool 2 (egressMinute 20) (.reconcile "egressop_3") _ ?_ rfl
    change "egressop_3" ∉ requestedPool.issued
    simp [requestedPool, calledPool]
  refine (reclaimed_iff called_run requested_step (.inl rfl) rfl rfl (.inl rfl) .nil (fun _ h => ?_) rfl rfl hstep
    rfl).mpr ⟨rfl, by decide⟩
  exact absurd h List.not_mem_nil

end Uumi.Browser
