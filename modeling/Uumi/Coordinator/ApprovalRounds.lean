import Uumi.Coordinator.Revocation
import Uumi.State.Inversion
import Uumi.Storage.Approvals

/-! The rounds of an approval stage: an execution asks for an approval and pauses, the approval is granted
and consumed, and the run is resumed under the next fencing token. -/
namespace Uumi.Coordinator
open Uumi.Contracts Uumi.Core Uumi.Foundations Uumi.Policy Uumi.State Uumi.Storage

def Catalog.approvalStore (catalog : Catalog) : ApprovalStore where
  approvals := catalog.approvals
  actions := catalog.actions

def Catalog.withApprovals (catalog : Catalog) (store : ApprovalStore) : Catalog :=
  { catalog with approvals := store.approvals, actions := store.actions }

/-- What one execution of the stage works with. -/
structure ApprovalState where
  run : RotationRun
  catalog : Catalog
  peers : Peers

namespace ApprovalState

def approval (hashes : Hashes) (s : ApprovalState) : Except Error StageOutcome :=
  Coordinator.approval hashes s.peers s.catalog s.run

def steps (hashes : Hashes) (s : ApprovalState) : Except Error (List OperationStep) :=
  protectedSteps hashes s.peers s.catalog s.run

def approve (hashes : Hashes) (s : ApprovalState) (step : OperationStep) : Except Error Approval :=
  approveStep hashes s.peers s.catalog s.run step

def action (hashes : Hashes) (s : ApprovalState) (step : OperationStep) (token : Nat) :
    Except Error ProtectedAction := do
  let (connectionId, payload) ← approvalPayload hashes s.catalog s.run step
  let context ← actionContext hashes s.peers s.catalog s.run step payload
  actionFor hashes s.run step connectionId context token

def approvals (s : ApprovalState) : List Approval :=
  s.peers.queryApprovals s.catalog.approvals s.run.organisationId s.run.id

/-- The controls of the run ask for an approval before a revocation. -/
def Required (hashes : Hashes) (s : ApprovalState) : Prop :=
  ∃ version, control hashes s.catalog s.run = .ok version ∧ version.definition.requireRevokeApproval = true

end ApprovalState

variable {hashes : Hashes} {s s' : ApprovalState} {step : OperationStep}

private theorem approvalsOf_ok {catalog : Catalog} {run : RotationRun} {approvals current : List Approval}
    {candidate : ProtectedAction} (h : approvalsOf catalog run approvals candidate = .ok current) {approval : Approval}
    (hmem : approval ∈ current) : approval ∈ approvals ∧ approval.actionId = candidate.id ∧
      ∃ stored, catalog.actions (run.organisationId, candidate.id) = some stored ∧ stored.equals candidate = true := by
  obtain ⟨item, hi, hf⟩ := collect_result h hmem
  rw [List.mem_filter, decide_eq_true_eq] at hi
  simp only [found_bind_ok, unit_bind_ok, raiseIf_ok, pure_ok, Bool.not_eq_false] at hf
  obtain ⟨stored, hs, he, rfl⟩ := hf
  exact ⟨hi.1, hi.2, stored, hi.2 ▸ hs, he⟩

private theorem approve_eq : s.approve hashes step = (do
    let (connectionId, payload) ← approvalPayload hashes s.catalog s.run step
    let context ← actionContext hashes s.peers s.catalog s.run step payload
    let action ← actionFor hashes s.run step connectionId context s.run.fencingToken
    let requested ← actionFor hashes s.run step connectionId context (s.run.fencingToken + 1)
    let current ← approvalsOf s.catalog s.run s.approvals action
    let (action, approval) ← soleApproval s.run step requested (if current = [] then none else some (action, current))
    checkApproval hashes s.peers s.run step action approval
    return approval) := by
  have hmatch (action : ProtectedAction) : matchCandidates s.catalog s.run s.approvals [action] = (do
      let current ← approvalsOf s.catalog s.run s.approvals action
      return if current = [] then none else some (action, current)) := by
    simp only [matchCandidates]
    congr 1
    funext current
    split <;> rfl
  simp only [ApprovalState.approve, approveStep, approvalForStep, candidateTokens, Bool.false_eq_true, false_and,
    ↓reduceIte, collect, bind_assoc, pure_bind, ok_bind]
  simp only [← ApprovalState.approvals.eq_1, hmatch, bind_assoc, pure_bind]

private theorem soleApproval_ok {run : RotationRun} {requested action sole : ProtectedAction} {current : List Approval}
    {approval : Approval} : soleApproval run step requested (if current = [] then none else some (action, current)) =
      .ok (sole, approval) ↔ current = [approval] ∧ sole = action := by
  rcases current with _ | ⟨head, _ | ⟨second, rest⟩⟩ <;> simp [soleApproval, eq_comm, and_comm]

/-- A step is approved by an approval of its action under the token of the run, before that expires. -/
theorem ApprovalState.approve_ok {approval : Approval} (h : s.approve hashes step = .ok approval) :
    ∃ action stored, s.action hashes step s.run.fencingToken = .ok action ∧ approval ∈ s.approvals ∧
      approval.actionId = action.id ∧ s.catalog.actions (s.run.organisationId, action.id) = some stored ∧
      stored.equals action = true ∧ s.peers.clock (.approving step.id) < approval.expiresAt := by
  rw [approve_eq, bind_ok] at h
  obtain ⟨⟨connectionId, payload⟩, hpayload, h⟩ := h
  rw [bind_ok] at h
  obtain ⟨context, hcontext, h⟩ := h
  rw [bind_ok] at h
  obtain ⟨action, haction, h⟩ := h
  rw [bind_ok] at h
  obtain ⟨requested, -, h⟩ := h
  rw [bind_ok] at h
  obtain ⟨current, hcurrent, h⟩ := h
  rw [bind_ok] at h
  obtain ⟨⟨sole, granted⟩, hsole, h⟩ := h
  simp only [unit_bind_ok, pure_ok] at h
  obtain ⟨hcheck, rfl⟩ := h
  obtain ⟨rfl, rfl⟩ := soleApproval_ok.mp hsole
  obtain ⟨hmem, hid, stored, hstored, hequals⟩ := approvalsOf_ok hcurrent (List.mem_singleton_self granted)
  have hlive : s.peers.clock (.approving step.id) < granted.expiresAt := by
    simp only [checkApproval, unit_bind_ok, raiseIf_ok] at hcheck
    exact AwareDatetime.not_le.mp hcheck.2.2.2
  refine ⟨sole, stored, ?_, hmem, hid, hstored, hequals, hlive⟩
  rw [ApprovalState.action, hpayload]
  simp only [ok_bind]
  rw [hcontext]
  exact haction

private theorem actionFor_ok {run : RotationRun} {connectionId : String} {context : ActionContext} {token : Nat}
    {action : ProtectedAction} (h : actionFor hashes run step connectionId context token = .ok action) :
    action.organisationId = run.organisationId ∧ action.runId = run.id ∧ action.kind.value = strip step.tool.value ∧
    action.id = identify hashes .action [run.id.text, step.id.text, toString token,
      hashes.digest (parametersPayload context.parameters)] ∧
    action.preconditions.lookup "fencing_token" = some (some (.number token)) := by
  simp only [actionFor, required_bind_ok] at h
  obtain ⟨provider, -, h⟩ := h
  rw [bind_ok] at h
  obtain ⟨kind, hkind, h⟩ := h
  rw [bind_ok] at h
  obtain ⟨resource, -, h⟩ := h
  rw [bind_ok] at h
  obtain ⟨providerId, -, h⟩ := h
  simp only [pure_ok] at h
  subst h
  refine ⟨rfl, rfl, ?_, rfl, rfl⟩
  unfold Text.build at hkind
  split at hkind
  · cases hkind
    rfl
  · cases hkind

private theorem actionFor_token {run : RotationRun} {connectionId : String} {context : ActionContext} {token : Nat}
    {action : ProtectedAction} (h : actionFor hashes run step connectionId context token = .ok action) (other : Nat) :
    ∃ action, actionFor hashes run step connectionId context other = .ok action := by
  simp only [actionFor, required_bind_ok] at h
  obtain ⟨provider, hprovider, h⟩ := h
  rw [bind_ok] at h
  obtain ⟨kind, hkind, h⟩ := h
  rw [bind_ok] at h
  obtain ⟨resource, hresource, h⟩ := h
  rw [bind_ok] at h
  obtain ⟨providerId, hid, -⟩ := h
  simp only [actionFor, hprovider, required, ok_bind, hkind, hresource, hid]
  exact ⟨_, rfl⟩

private theorem actionContext_parameters {peers : Peers} {catalog : Catalog} {run : RotationRun} {payload : Parameters}
    {context : ActionContext} (h : actionContext hashes peers catalog run step payload = .ok context) :
    context.parameters = payload := by
  simp only [actionContext, unit_bind_ok, required_bind_ok] at h
  obtain ⟨-, planHash, -, h⟩ := h
  rw [bind_ok] at h
  obtain ⟨credential, -, h⟩ := h
  simp only [requiredId_bind_ok] at h
  obtain ⟨generationId, -, h⟩ := h
  rw [bind_ok] at h
  obtain ⟨generation, -, h⟩ := h
  rw [bind_ok] at h
  obtain ⟨evidenceHash, -, h⟩ := h
  rw [bind_ok] at h
  obtain ⟨parameters, hparameters, h⟩ := h
  simp only [approvalParameters, unit_bind_ok, pure_ok] at hparameters h
  rw [← h]
  exact hparameters.2.symm

private theorem ApprovalState.action_ok {action : ProtectedAction} {token : Nat} :
    s.action hashes step token = .ok action ↔ ∃ connectionId payload context,
      approvalPayload hashes s.catalog s.run step = .ok (connectionId, payload) ∧
      actionContext hashes s.peers s.catalog s.run step payload = .ok context ∧
      actionFor hashes s.run step connectionId context token = .ok action := by
  rw [ApprovalState.action, bind_ok]
  simp only [bind_ok]
  constructor
  · rintro ⟨⟨connectionId, payload⟩, hp, context, hc, ha⟩
    exact ⟨connectionId, payload, context, hp, hc, ha⟩
  · rintro ⟨connectionId, payload, context, hp, hc, ha⟩
    exact ⟨⟨connectionId, payload⟩, hp, context, hc, ha⟩

private theorem approve_pends {action : ProtectedAction}
    (haction : s.action hashes step s.run.fencingToken = .ok action)
    (hnone : ∀ approval ∈ s.approvals, approval.actionId ≠ action.id) :
    ∃ requested, s.action hashes step (s.run.fencingToken + 1) = .ok requested ∧
      s.approve hashes step = .error
        (.browserPause "protected action approval is pending" (pendingOutput s.run step requested)) := by
  obtain ⟨connectionId, payload, context, hpayload, hcontext, haction⟩ := ApprovalState.action_ok.mp haction
  obtain ⟨requested, hrequested⟩ := actionFor_token haction (s.run.fencingToken + 1)
  refine ⟨requested, ApprovalState.action_ok.mpr ⟨connectionId, payload, context, hpayload, hcontext, hrequested⟩, ?_⟩
  have hempty : approvalsOf s.catalog s.run s.approvals action = .ok [] := by
    rw [approvalsOf, List.filter_eq_nil_iff.mpr fun approval hmem => by simpa using hnone approval hmem]
    rfl
  rw [approve_eq, hpayload]
  simp only [ok_bind]
  rw [hcontext, ok_bind, haction, ok_bind, hrequested, ok_bind, hempty]
  rfl

private theorem approve_granted {action : ProtectedAction} {approval : Approval} {store after : ApprovalStore}
    {expires : AwareDatetime} (haction : s.action hashes step s.run.fencingToken = .ok action)
    (hgranted : Granted hashes.toHashing store action expires approval after)
    (hsole : s.approvals.filter (·.actionId = action.id) = [approval])
    (hstored : s.catalog.actions (s.run.organisationId, action.id) = some action)
    (hlive : s.peers.clock (.approving step.id) < expires) :
    s.approve hashes step = .ok approval := by
  obtain ⟨connectionId, payload, context, hpayload, hcontext, haction⟩ := ApprovalState.action_ok.mp haction
  obtain ⟨requested, hrequested⟩ := actionFor_token haction (s.run.fencingToken + 1)
  have hone : approvalsOf s.catalog s.run s.approvals action = .ok [approval] := by
    rw [approvalsOf, hsole, collect, hgranted.bound, hstored]
    simp only [found, required, ok_bind, ProtectedAction.equals_self]
    rfl
  have hcheck : checkApproval hashes s.peers s.run step action approval = .ok () := by
    simp only [checkApproval, unit_bind_ok, raiseIf_ok, hgranted.digest, hgranted.plan, hgranted.evidence,
      hgranted.generation, hgranted.approved, hgranted.expires, ne_eq, not_true_eq_false, or_self, not_false_eq_true,
      reduceCtorEq, false_or, true_and]
    refine ⟨fun h => ?_, AwareDatetime.not_le.mpr hlive⟩
    have := hgranted.consumed
    rw [h] at this
    cases this
  rw [approve_eq, hpayload]
  simp only [ok_bind]
  rw [hcontext, ok_bind, haction, ok_bind, hrequested, ok_bind, hone]
  simp only [ok_bind, soleApproval, reduceCtorEq, ↓reduceIte, hcheck]
  rfl

private theorem approval_ok (hrequired : s.Required hashes) (outcome : StageOutcome)
    (h : s.approval hashes = .ok outcome) : ∃ steps, s.steps hashes = .ok steps ∧ steps ≠ [] ∧
      ∀ step ∈ steps, ∃ approval, s.approve hashes step = .ok approval := by
  obtain ⟨version, hversion, hrequire⟩ := hrequired
  rw [ApprovalState.approval, Coordinator.approval, hversion, ok_bind, if_pos hrequire, bind_ok] at h
  obtain ⟨steps, hsteps, h⟩ := h
  rw [bind_ok] at h
  obtain ⟨approvals, happrovals, h⟩ := h
  simp only [unit_bind_ok, raiseIf_ok] at h
  refine ⟨steps, hsteps, ?_, fun step hmem => collect_mem happrovals hmem⟩
  rintro rfl
  cases happrovals
  exact h.1 rfl

private theorem approval_single {approval : Approval} (hrequired : s.Required hashes) (hsteps : s.steps hashes = .ok [step])
    (h : s.approve hashes step = .ok approval) : ∃ outcome, s.approval hashes = .ok outcome := by
  obtain ⟨version, hversion, hrequire⟩ := hrequired
  rw [ApprovalState.approval, Coordinator.approval, hversion, ok_bind, if_pos hrequire]
  rw [ApprovalState.steps] at hsteps
  rw [ApprovalState.approve] at h
  rw [hsteps, ok_bind, collect, h]
  exact ⟨_, rfl⟩

private theorem approval_optional (hsteps : ∃ steps, s.steps hashes = .ok steps) (h : ¬ s.Required hashes) :
    ∃ outcome, s.approval hashes = .ok outcome := by
  obtain ⟨steps, hsteps⟩ := hsteps
  rw [ApprovalState.steps, protectedSteps, bind_ok] at hsteps
  obtain ⟨version, hversion, -⟩ := hsteps
  rw [ApprovalState.approval, Coordinator.approval, hversion, ok_bind, if_neg fun hrequire => h ⟨version, hversion, hrequire⟩]
  exact ⟨_, rfl⟩

/-- The stage pauses at its first step that is not approved, and asks to approve an action. -/
structure Asks (hashes : Hashes) (s : ApprovalState) (step : OperationStep) (action : ProtectedAction) : Prop where
  required : s.Required hashes
  first : ∃ before after, s.steps hashes = .ok (before ++ step :: after) ∧
    ∀ earlier ∈ before, ∃ approval, s.approve hashes earlier = .ok approval
  requested : s.action hashes step (s.run.fencingToken + 1) = .ok action
  pends : s.approve hashes step = .error
    (.browserPause "protected action approval is pending" (pendingOutput s.run step action))

private theorem Asks.pauses {action : ProtectedAction} (h : Asks hashes s step action) : s.approval hashes = .error
    (.browserPause "protected action approval is pending" (pendingOutput s.run step action)) := by
  obtain ⟨version, hversion, hrequire⟩ := h.required
  obtain ⟨before, after, hsteps, hbefore⟩ := h.first
  rw [ApprovalState.approval, Coordinator.approval, hversion, ok_bind, if_pos hrequire]
  rw [ApprovalState.steps] at hsteps
  rw [hsteps, ok_bind, show collect (before ++ step :: after) (approveStep hashes s.peers s.catalog s.run) = _ from
    collect_error hbefore h.pends]
  rfl

def Differ (a b : OperationStep) : Prop := a.id ≠ b.id ∨ strip a.tool.value ≠ strip b.tool.value

private theorem strip_browser {tool : String} (h : "browser.".toList.isPrefixOf tool.toList = true) :
    (strip tool).toList.head? = some 'b' := by
  obtain ⟨rest, hrest⟩ := List.isPrefixOf_iff_prefix.mp h
  have hdrop : (tool.toList.dropWhile isWhitespace) = 'b' :: "rowser.".toList ++ rest := by
    rw [← hrest]
    rfl
  rw [strip, String.toList_ofList, hdrop]
  obtain ⟨dropped, hdropped⟩ := List.rdropWhile_prefix isWhitespace ('b' :: "rowser.".toList ++ rest)
  cases hkept : ('b' :: "rowser.".toList ++ rest).rdropWhile isWhitespace with
  | nil => exact absurd (List.rdropWhile_eq_nil_iff.mp hkept 'b' List.mem_cons_self) (by decide)
  | cons c cs =>
    rw [hkept] at hdropped
    rw [List.head?_cons, (List.cons.inj hdropped).1]

private theorem stepsOf_differ (tools : Finset String) (context : RotationContext) :
    ((stepsOf tools context .revoke).map ProviderStep.toOperationStep).Pairwise Differ := by
  unfold stepsOf
  split
  · rename_i playbook _
    rw [List.map_map, List.pairwise_map]
    have hids := List.pairwise_map.mp playbook.definition.ids_nodup
    exact (hids.filter _).imp fun h => .inl h
  · simp

private theorem disableOld_differs (tools : Finset String) (context : RotationContext) (secretStore : Identifier)
    (reference : Text 0 1024) {step : ProviderStep} (h : step ∈ stepsOf tools context .revoke) :
    Differ step.toOperationStep (disableOld secretStore reference) := by
  unfold stepsOf at h
  split at h
  · rename_i playbook _
    obtain ⟨source, hsource, rfl⟩ := List.mem_map.mp h
    have hbrowser := strip_browser (playbook.definition.in_browser (List.mem_of_mem_filter hsource))
    have hkind : (strip "secretStore.disableVersion").toList.head? = some 's' := by decide
    refine .inr fun heq => ?_
    change strip source.tool.value = strip "secretStore.disableVersion" at heq
    rw [heq, hkind] at hbrowser
    exact absurd hbrowser (by decide)
  · obtain rfl := List.mem_singleton.mp h
    have hid : (⟨"provider_revoke", by decide⟩ : Identifier) ≠ ⟨"secret_store_disable_old", by decide⟩ := by decide
    exact .inl hid

private theorem protectedSteps_differ {steps : List OperationStep} (h : s.steps hashes = .ok steps) :
    steps.Pairwise Differ := by
  rw [ApprovalState.steps, protectedSteps, bind_ok] at h
  obtain ⟨version, -, h⟩ := h
  rw [bind_ok] at h
  obtain ⟨context, -, h⟩ := h
  rw [bind_ok] at h
  obtain ⟨old, -, h⟩ := h
  simp only [pure_ok] at h
  subst h
  rw [List.pairwise_map]
  refine (List.Pairwise.filter _ ?_).imp fun h => h
  rw [revocationSteps, List.pairwise_append]
  refine ⟨stepsOf_differ _ _, ?_, fun a ha b hb => ?_⟩
  · cases old.secretReference <;> simp
  · obtain ⟨step, hstep, rfl⟩ := List.mem_map.mp ha
    obtain ⟨reference, -, rfl⟩ := Option.map_eq_some_iff.mp (Option.mem_toList.mp hb)
    exact disableOld_differs version.definition.protectedTools context context.secretStore.id reference hstep

/-- The same rotation in a later round: other approvals, another time, another lease and token. -/
structure Alike (s s' : ApprovalState) : Prop where
  peers : ∃ clock, s'.peers = { s.peers with clock }
  catalog : ∃ store, s'.catalog = s.catalog.withApprovals store
  run : ∃ status lease fencingToken updatedAt revision,
    s'.run.toRunFields = { s.run.toRunFields with status, lease, fencingToken, updatedAt, revision }

/-- A state differs in nothing from itself. -/
theorem Alike.refl (s : ApprovalState) : Alike s s :=
  ⟨⟨_, rfl⟩, ⟨s.catalog.approvalStore, rfl⟩, ⟨_, _, _, _, _, rfl⟩⟩

/-- Differing in approvals and tokens alone is transitive. -/
theorem Alike.trans {s s' s'' : ApprovalState} (h : Alike s s') (h' : Alike s' s'') : Alike s s'' := by
  obtain ⟨⟨clock, hp⟩, ⟨store, hc⟩, ⟨status, lease, token, updatedAt, revision, hr⟩⟩ := h
  obtain ⟨⟨clock', hp'⟩, ⟨store', hc'⟩, ⟨status', lease', token', updatedAt', revision', hr'⟩⟩ := h'
  exact ⟨⟨clock', by rw [hp', hp]⟩, ⟨store', by rw [hc', hc]; rfl⟩,
    ⟨status', lease', token', updatedAt', revision', by rw [hr', hr]⟩⟩

private theorem Alike.identity (h : Alike s s') :
    s'.run.id = s.run.id ∧ s'.run.organisationId = s.run.organisationId := by
  obtain ⟨_, _, _, _, _, hr⟩ := h.run
  exact ⟨by rw [hr], by rw [hr]⟩

private theorem Alike.reads (h : Alike s s') : control hashes s'.catalog s'.run = control hashes s.catalog s.run ∧
    s'.steps hashes = s.steps hashes ∧ ∀ step token, s'.action hashes step token = s.action hashes step token := by
  obtain ⟨⟨r', _⟩, c', p'⟩ := s'
  obtain ⟨⟨clock, hp⟩, ⟨store, hc⟩, ⟨status, lease, token, updatedAt, revision, hr⟩⟩ := h
  dsimp only at hp hc hr
  subst hp hc hr
  exact ⟨rfl, rfl, fun _ _ => rfl⟩

/-- A round: the request is granted and consumed before it expires, then the paused run is resumed at any time. -/
structure Round (hashes : Hashes) (expires : AwareDatetime) (action : ProtectedAction) (s s' : ApprovalState) :
    Prop where
  peers : ∃ clock, s'.peers = { s.peers with clock }
  granted : ∃ store, Nonempty (GrantCalls hashes.toHashing hashes.isalnum s.catalog.approvalStore action expires store) ∧
    s'.catalog = s.catalog.withApprovals store
  resumed : ∃ paused owner token revision expires now later,
    RotationMachine.pause s.run token revision now = .ok paused ∧
    RotationMachine.resume paused owner (revision + 1) expires later = .ok s'.run

/-- A round changes approvals and the token alone, and counts the token up. -/
theorem Round.next {expires : AwareDatetime} {action : ProtectedAction} (h : Round hashes expires action s s') :
    Alike s s' ∧ s'.run.fencingToken = s.run.fencingToken + 1 := by
  obtain ⟨store, -, hc⟩ := h.granted
  obtain ⟨paused, owner, token, revision, until', now, later, hpause, hresume⟩ := h.resumed
  obtain ⟨-, -, hpaused⟩ := RotationMachine.pause_ok.mp hpause
  obtain ⟨-, -, -, -, hrun⟩ := RotationMachine.resume_ok.mp hresume
  refine ⟨⟨h.peers, ⟨store, hc⟩, ⟨_, _, _, _, _, by rw [hrun, hpaused]⟩⟩, ?_⟩
  rw [hrun, hpaused]

/-- The stage sees every approval of its run, each once. -/
def Queried (s : ApprovalState) : Prop :=
  Exact s.approvals s.catalog.approvals s.run.organisationId (·.runId = s.run.id) ∧ s.approvals.Nodup

private theorem eq_singleton {α : Type} {l : List α} {a : α} (hnodup : l.Nodup) (h : ∀ x, x ∈ l ↔ x = a) : l = [a] :=
  List.perm_singleton.mp ((List.perm_ext_iff_of_nodup hnodup (List.nodup_singleton a)).mpr fun x => by
    rw [h, List.mem_singleton])

private theorem sole_granted {action : ProtectedAction} {approval : Approval} {store after : ApprovalStore}
    {expires : AwareDatetime} (granted : Granted hashes.toHashing store action expires approval after)
    (hqueried : Queried s) (hstore : s.catalog.approvals = after.approvals)
    (horganisation : action.organisationId = s.run.organisationId) (hrun : action.runId = s.run.id)
    (hnone : ∀ key approval, store.approvals key = some approval → approval.actionId ≠ action.id) :
    s.approvals.filter (·.actionId = action.id) = [approval] := by
  obtain ⟨hexact, hnodup⟩ := hqueried
  refine eq_singleton (hnodup.filter _) fun x => ?_
  rw [List.mem_filter, hexact, hstore, granted.approvals, decide_eq_true_eq]
  constructor
  · rintro ⟨⟨⟨key, hread⟩, -⟩, hx⟩
    rcases Collection.set_eq_some.mp hread with ⟨-, rfl⟩ | ⟨-, hread⟩
    · rfl
    · exact absurd hx (hnone _ x hread)
  · rintro rfl
    have hof : x.runId = s.run.id := by rw [granted.run, hrun]
    exact ⟨⟨⟨x.id, by rw [← horganisation]; exact Collection.set_same ..⟩, hof⟩, granted.bound⟩

def actionText (hashes : Hashes) (run : RotationRun) (step : OperationStep) (token : Nat) (parameters : Parameters) :
    String :=
  joined [run.id.text, step.id.text, toString token, hashes.digest (parametersPayload parameters)]

/-- An approval stage with as many rounds as the controls protect steps. The request of every round names an expiry
and is granted and consumed before that; before the first round no approval of these actions is stored. -/
structure ApprovalSequence (hashes : Hashes) where
  state : Nat → ApprovalState
  expires : Nat → AwareDatetime
  steps : List OperationStep
  in_approval : (state 0).run.stage = .approval
  running : (state 0).run.status = .running
  declared : (state 0).steps hashes = .ok steps
  queried : ∀ j, Queried (state j)
  fresh : ∀ step ∈ steps, ∀ j ≤ steps.length, ∀ action,
    (state 0).action hashes step ((state 0).run.fencingToken + j) = .ok action →
      ∀ key approval, (state 0).catalog.approvals key = some approval → approval.actionId ≠ action.id
  collision_free : ∀ step ∈ steps, ∀ step' ∈ steps, ∀ j ≤ steps.length, ∀ called called',
    approvalPayload hashes (state 0).catalog (state 0).run step = .ok called →
    approvalPayload hashes (state 0).catalog (state 0).run step' = .ok called' →
      NoCollision hashes
        (actionText hashes (state 0).run step ((state 0).run.fencingToken + j) called.2)
        (actionText hashes (state 0).run step' ((state 0).run.fencingToken + j) called'.2)
  round : ∀ j < steps.length, ∀ step action, Asks hashes (state j) step action →
    Round hashes (expires j) action (state j) (state (j + 1))

namespace ApprovalSequence

/-- The stage completes after at most as many rounds as there are protected steps, and no round asks for a step
that an earlier one asked for. -/
def Terminates (seq : ApprovalSequence hashes) : Prop :=
  ∃ n ≤ seq.steps.length, ∃ asked : Nat → OperationStep,
    (∀ j < n, ∃ action, Asks hashes (seq.state j) (asked j) action) ∧
    (∀ i < n, ∀ j < n, asked i = asked j → i = j) ∧
    ∃ outcome, (seq.state n).approval hashes = .ok outcome

/-- The controls ask for no approval, or they protect one step only, whose action can be built and whose approval has
not expired when the stage looks for it after the first resumption. -/
def AtMostOne (seq : ApprovalSequence hashes) : Prop :=
  ¬ (seq.state 0).Required hashes ∨ ∃ step action, seq.steps = [step] ∧
    (seq.state 0).action hashes step (seq.state 0).run.fencingToken = .ok action ∧
    (seq.state 1).peers.clock (.approving step.id) < seq.expires 0

variable {seq : ApprovalSequence hashes} {asked : Nat → OperationStep} {actions : Nat → ProtectedAction} {n : Nat}

/-- What the rounds up to one have changed. -/
structure Reached (seq : ApprovalSequence hashes) (actions : Nat → ProtectedAction) (j : Nat) : Prop where
  alike : Alike (seq.state 0) (seq.state j)
  token : (seq.state j).run.fencingToken = (seq.state 0).run.fencingToken + j
  approvals : ∀ key approval, (seq.state j).catalog.approvals key = some approval →
    (seq.state 0).catalog.approvals key = some approval ∨ ∃ i < j, approval.actionId = (actions i).id ∧
      (seq.state j).catalog.actions ((seq.state 0).run.organisationId, (actions i).id) = some (actions i)

variable (seq) in
private theorem reached (hn : n ≤ seq.steps.length) (hasks : ∀ j < n, Asks hashes (seq.state j) (asked j) (actions j))
    (j : Nat) (hj : j ≤ n) : Reached seq actions j := by
  induction j with
  | zero => exact ⟨.refl _, rfl, fun _ _ h => .inl h⟩
  | succ j ih =>
    have before := ih (by omega)
    have hask := hasks j (by omega)
    have round := seq.round j (by omega) _ _ hask
    obtain ⟨halike, htoken⟩ := round.next
    obtain ⟨store, ⟨calls⟩, hc⟩ := round.granted
    have granted := calls.granted
    have horganisation : (actions j).organisationId = (seq.state 0).run.organisationId := by
      obtain ⟨_, _, _, -, -, haction⟩ := ApprovalState.action_ok.mp hask.requested
      rw [(actionFor_ok haction).1, before.alike.identity.2]
    refine ⟨before.alike.trans halike, by rw [htoken, before.token]; omega, fun key approval hread => ?_⟩
    rw [hc] at hread ⊢
    change store.approvals key = some approval at hread
    change _ ∨ ∃ i < j + 1, _ ∧ store.actions _ = _
    rw [granted.approvals] at hread
    rw [granted.actions, horganisation]
    rcases Collection.set_eq_some.mp hread with ⟨-, rfl⟩ | ⟨-, hread⟩
    · exact .inr ⟨j, by omega, granted.bound, Collection.set_same ..⟩
    · rcases before.approvals key approval hread with h | ⟨i, hi, hid, hstored⟩
      · exact .inl h
      · refine .inr ⟨i, by omega, hid, ?_⟩
        rw [Collection.set_of_ne]
        · exact hstored
        · intro he
          have habsent := granted.absent
          rw [horganisation, ← he] at habsent
          exact absurd (hstored.symm.trans habsent) (Option.some_ne_none _)

private theorem equals_fields {a b : ProtectedAction} (h : a.equals b = true) : a.id = b.id ∧ a.kind = b.kind ∧
    a.preconditions.lookup "fencing_token" = b.preconditions.lookup "fencing_token" := by
  simp only [ProtectedAction.equals, Bool.and_eq_true, decide_eq_true_eq] at h
  obtain ⟨⟨hfields, hpre⟩, -⟩ := h
  exact ⟨(congrArg (fun x : ProtectedAction => x.id) hfields :), (congrArg (fun x : ProtectedAction => x.kind) hfields :),
    lookup_of_sameMapping hpre _⟩

private theorem approved_by_last (hn : n < seq.steps.length)
    (hasks : ∀ j < n + 1, Asks hashes (seq.state j) (asked j) (actions j)) (hstep : step ∈ seq.steps)
    {approval : Approval} (h : (seq.state (n + 1)).approve hashes step = .ok approval) :
    ∃ action, (seq.state 0).action hashes step ((seq.state 0).run.fencingToken + (n + 1)) = .ok action ∧
      (actions n).equals action = true := by
  have at_end := reached seq hn hasks (n + 1) le_rfl
  obtain ⟨action, stored, haction, hmem, hid, hstored, hequals, -⟩ := ApprovalState.approve_ok h
  rw [at_end.alike.reads.2.2, at_end.token] at haction
  obtain ⟨⟨key, hread⟩, -⟩ := ((seq.queried (n + 1)).1 approval).mp hmem
  rcases at_end.approvals _ approval hread with hold | ⟨i, hi, hgranted, hkept⟩
  · exact absurd hid (seq.fresh step hstep (n + 1) hn action haction _ approval hold)
  · rw [at_end.alike.identity.2, ← hid, hgranted] at hstored
    obtain rfl := Option.some.inj (hkept.symm.trans hstored)
    refine ⟨action, haction, ?_⟩
    -- the action that was asked for in a round has the token that follows it
    have hat := reached seq hn hasks i (by omega)
    obtain ⟨_, _, _, -, -, hbuilt⟩ := ApprovalState.action_ok.mp (hasks i hi).requested
    obtain ⟨_, _, _, -, -, hbuilt'⟩ := ApprovalState.action_ok.mp haction
    have htoken := (equals_fields hequals).2.2
    rw [(actionFor_ok hbuilt).2.2.2.2, (actionFor_ok hbuilt').2.2.2.2, hat.token] at htoken
    have : i = n := by
      simp only [Option.some.injEq, ParameterValue.number.injEq] at htoken
      omega
    exact this ▸ hequals

private theorem same_of_approved (hn : n < seq.steps.length)
    (hasks : ∀ j < n + 1, Asks hashes (seq.state j) (asked j) (actions j))
    (happroved : ∀ step ∈ seq.steps, ∃ approval, (seq.state (n + 1)).approve hashes step = .ok approval)
    {a b : OperationStep} (ha : a ∈ seq.steps) (hb : b ∈ seq.steps) : ¬ Differ a b := by
  obtain ⟨_, happroveda⟩ := happroved a ha
  obtain ⟨_, happrovedb⟩ := happroved b hb
  obtain ⟨x, hx, hxlast⟩ := approved_by_last hn hasks ha happroveda
  obtain ⟨y, hy, hylast⟩ := approved_by_last hn hasks hb happrovedb
  obtain ⟨connectionA, payloadA, contextA, hpayloadA, hcontextA, hbuiltA⟩ := ApprovalState.action_ok.mp hx
  obtain ⟨connectionB, payloadB, contextB, hpayloadB, hcontextB, hbuiltB⟩ := ApprovalState.action_ok.mp hy
  obtain ⟨hidx, hkindx, -⟩ := equals_fields hxlast
  obtain ⟨hidy, hkindy, -⟩ := equals_fields hylast
  have hids : x.id = y.id := hidx.symm.trans hidy
  have hkinds : strip a.tool.value = strip b.tool.value := by
    rw [← (actionFor_ok hbuiltA).2.2.1, ← (actionFor_ok hbuiltB).2.2.1, ← hkindx, ← hkindy]
  rw [(actionFor_ok hbuiltA).2.2.2.1, (actionFor_ok hbuiltB).2.2.2.1, actionContext_parameters hcontextA,
    actionContext_parameters hcontextB] at hids
  have htexts := seq.collision_free a ha b hb (n + 1) hn _ _ hpayloadA hpayloadB (identify_eq hids)
  exact fun hdiffer => hdiffer.elim (fun h => h (joined_second htexts)) fun h => h hkinds

private theorem single_of_approved (hn : n < seq.steps.length)
    (hasks : ∀ j < n + 1, Asks hashes (seq.state j) (asked j) (actions j))
    (happroved : ∀ step ∈ seq.steps, ∃ approval, (seq.state (n + 1)).approve hashes step = .ok approval) :
    ∃ step, seq.steps = [step] := by
  have hdiffer := protectedSteps_differ seq.declared
  have hsame : ∀ a ∈ seq.steps, ∀ b ∈ seq.steps, ¬ Differ a b :=
    fun _ ha _ hb => same_of_approved hn hasks happroved ha hb
  cases hsteps : seq.steps with
  | nil => simp [hsteps] at hn
  | cons a rest =>
    cases rest with
    | nil => exact ⟨a, rfl⟩
    | cons b rest =>
      rw [hsteps] at hdiffer hsame
      exact absurd (List.rel_of_pairwise_cons hdiffer List.mem_cons_self) (hsame a (by simp) b (by simp))

private theorem asks_first {action : ProtectedAction} (hrequired : (seq.state 0).Required hashes)
    (hsteps : seq.steps = [step])
    (haction : (seq.state 0).action hashes step (seq.state 0).run.fencingToken = .ok action) :
    ∃ requested, Asks hashes (seq.state 0) step requested := by
  have hnone : ∀ approval ∈ (seq.state 0).approvals, approval.actionId ≠ action.id := by
    intro approval hmem
    obtain ⟨⟨key, hread⟩, -⟩ := ((seq.queried 0).1 approval).mp hmem
    exact seq.fresh step (by simp [hsteps]) 0 (by omega) action haction _ approval hread
  obtain ⟨requested, hrequested, hpends⟩ := approve_pends haction hnone
  exact ⟨requested, hrequired, ⟨[], [], hsteps ▸ seq.declared, nofun⟩, hrequested, hpends⟩

private theorem completes_second {requested : ProtectedAction} (hsteps : seq.steps = [step])
    (hask : Asks hashes (seq.state 0) step requested)
    (hlive : (seq.state 1).peers.clock (.approving step.id) < seq.expires 0) :
    ∃ outcome, (seq.state 1).approval hashes = .ok outcome := by
  have round := seq.round 0 (by simp [hsteps]) _ _ hask
  obtain ⟨halike, htoken⟩ := round.next
  obtain ⟨store, ⟨calls⟩, hc⟩ := round.granted
  have granted := calls.granted
  generalize calls.approval = approval at granted
  obtain ⟨_, _, _, -, -, hbuilt⟩ := ApprovalState.action_ok.mp hask.requested
  obtain ⟨horganisation, hrun, -⟩ := actionFor_ok hbuilt
  obtain ⟨hid, ho⟩ := halike.identity
  have happrovals : (seq.state 1).catalog.approvals = store.approvals := by rw [hc]; rfl
  have hactions : (seq.state 1).catalog.actions = store.actions := by rw [hc]; rfl
  have haction : (seq.state 1).action hashes step (seq.state 1).run.fencingToken = .ok requested := by
    rw [halike.reads.2.2, htoken]
    exact hask.requested
  have hsole : (seq.state 1).approvals.filter (·.actionId = requested.id) = [approval] :=
    sole_granted granted (seq.queried 1) happrovals (horganisation.trans ho.symm) (hrun.trans hid.symm)
      (seq.fresh step (by simp [hsteps]) 1 (by simp [hsteps]) _ hask.requested)
  have hstored : (seq.state 1).catalog.actions ((seq.state 1).run.organisationId, requested.id) = some requested := by
    rw [hactions, granted.actions, ho, ← horganisation]
    exact Collection.set_same ..
  obtain ⟨version, hversion, hrequire⟩ := hask.required
  exact approval_single ⟨version, halike.reads.1.trans hversion, hrequire⟩
    (halike.reads.2.1.trans (hsteps ▸ seq.declared)) (approve_granted haction granted hsole hstored hlive)

private theorem not_approved_first (hstep : step ∈ seq.steps) :
    ¬ ∃ approval, (seq.state 0).approve hashes step = .ok approval := by
  rintro ⟨approval, happroval⟩
  obtain ⟨action, -, haction, hfound, hid, -⟩ := ApprovalState.approve_ok happroval
  obtain ⟨⟨key, hread⟩, -⟩ := ((seq.queried 0).1 approval).mp hfound
  exact seq.fresh step hstep 0 (by omega) action haction _ approval hread hid

private theorem live_of_approved {requested : ProtectedAction} {approval : Approval} (hsteps : seq.steps = [step])
    (hask : Asks hashes (seq.state 0) step requested) (h : (seq.state 1).approve hashes step = .ok approval) :
    (seq.state 1).peers.clock (.approving step.id) < seq.expires 0 := by
  have round := seq.round 0 (by simp [hsteps]) _ _ hask
  obtain ⟨halike, htoken⟩ := round.next
  obtain ⟨store, ⟨calls⟩, hc⟩ := round.granted
  have granted := calls.granted
  obtain ⟨action, -, haction, hmem, hid, -, -, hlive⟩ := ApprovalState.approve_ok h
  rw [halike.reads.2.2, htoken] at haction
  obtain rfl : requested = action := Except.ok.inj (hask.requested.symm.trans haction)
  obtain ⟨⟨key, hread⟩, -⟩ := ((seq.queried 1).1 approval).mp hmem
  rw [hc] at hread
  change store.approvals _ = some approval at hread
  rw [granted.approvals] at hread
  rcases Collection.set_eq_some.mp hread with ⟨-, rfl⟩ | ⟨-, hold⟩
  · rwa [granted.expires] at hlive
  · exact absurd hid (seq.fresh step (by simp [hsteps]) 1 (by simp [hsteps]) _ hask.requested _ approval hold)

private theorem single_of_completes (hn : n < seq.steps.length)
    (hasks : ∀ j < n + 1, Asks hashes (seq.state j) (asked j) (actions j)) {outcome : StageOutcome}
    (hok : (seq.state (n + 1)).approval hashes = .ok outcome) : ∃ step action, seq.steps = [step] ∧
      (seq.state 0).action hashes step (seq.state 0).run.fencingToken = .ok action ∧
      (seq.state 1).peers.clock (.approving step.id) < seq.expires 0 := by
  have hask := hasks 0 (by omega)
  have halike := (reached _ hn hasks (n + 1) le_rfl).alike
  obtain ⟨version, hversion, hrequire⟩ := hask.required
  obtain ⟨steps, hsteps, -, happroved⟩ :=
    approval_ok ⟨version, halike.reads.1.trans hversion, hrequire⟩ outcome hok
  obtain rfl : seq.steps = steps := Except.ok.inj (seq.declared.symm.trans (halike.reads.2.1.symm.trans hsteps))
  obtain ⟨step, hsingle⟩ := single_of_approved hn hasks happroved
  obtain ⟨before, after, hdeclared, -⟩ := hask.first
  have hstep : asked 0 ∈ [step] := by
    rw [← hsingle, Except.ok.inj (seq.declared.symm.trans hdeclared)]
    simp
  rw [List.mem_singleton] at hstep
  obtain rfl : n = 0 := by simpa [hsingle] using hn
  obtain ⟨_, happroval⟩ := happroved step (by simp [hsingle])
  obtain ⟨_, _, _, hpayload, hcontext, hbuilt⟩ := ApprovalState.action_ok.mp hask.requested
  obtain ⟨action, haction⟩ := actionFor_token hbuilt (seq.state 0).run.fencingToken
  exact ⟨step, action, hsingle, hstep ▸ ApprovalState.action_ok.mpr ⟨_, _, _, hpayload, hcontext, haction⟩,
    live_of_approved hsingle (hstep ▸ hask) happroval⟩

private theorem single_of_terminates (hrequired : (seq.state 0).Required hashes) (h : seq.Terminates) :
    ∃ step action, seq.steps = [step] ∧
      (seq.state 0).action hashes step (seq.state 0).run.fencingToken = .ok action ∧
      (seq.state 1).peers.clock (.approving step.id) < seq.expires 0 := by
  obtain ⟨n, hn, asked, hasks, -, outcome, hok⟩ := h
  cases n with
  | zero =>
    obtain ⟨steps, hsteps, hne, happroved⟩ := approval_ok hrequired outcome hok
    obtain rfl : seq.steps = steps := Except.ok.inj (seq.declared.symm.trans hsteps)
    obtain ⟨step, hmem⟩ := List.exists_mem_of_ne_nil _ hne
    exact absurd (happroved step hmem) (not_approved_first hmem)
  | succ n =>
    have : Nonempty ProtectedAction := ⟨(hasks 0 (by omega)).choose⟩
    choose! actions hasks using hasks
    exact single_of_completes hn hasks hok

/-- An approval stage terminates exactly when there is at most one step to approve, and that one is resumed in time:
every grant is good for one token, and the token moves on before the next step is approved. -/
theorem terminates_iff (seq : ApprovalSequence hashes) : seq.Terminates ↔ seq.AtMostOne := by
  by_cases hrequired : (seq.state 0).Required hashes
  · refine ⟨fun h => .inr (single_of_terminates hrequired h), ?_⟩
    rintro (hoptional | ⟨step, action, hsteps, haction, hlive⟩)
    · exact absurd hrequired hoptional
    · obtain ⟨requested, hask⟩ := asks_first hrequired hsteps haction
      refine ⟨1, by simp [hsteps], fun _ => step, fun j hj => ?_, fun i hi j hj _ => by omega,
        completes_second hsteps hask hlive⟩
      obtain rfl : j = 0 := by omega
      exact ⟨requested, hask⟩
  · refine ⟨fun _ => .inl hrequired, fun _ => ?_⟩
    exact ⟨0, by omega, fun _ => disableOld ⟨"secret-store", by decide⟩ ⟨"", by decide⟩, nofun, nofun,
      approval_optional ⟨_, seq.declared⟩ hrequired⟩

end ApprovalSequence

/-- A stage asks for one step and one action only. -/
theorem Asks.unique {step' : OperationStep} {action action' : ProtectedAction} (h : Asks hashes s step action)
    (h' : Asks hashes s step' action') : step = step' ∧ action = action' := by
  obtain ⟨before, after, hsteps, hbefore⟩ := h.first
  obtain ⟨before', after', hsteps', hbefore'⟩ := h'.first
  have hne {earlier : OperationStep} {e : Error} (hok : ∃ approval, s.approve hashes earlier = .ok approval) :
      s.approve hashes earlier ≠ .error e := by
    obtain ⟨approval, hok⟩ := hok
    rw [hok]
    nofun
  have hstep : step = step' := by
    rcases List.append_eq_append_iff.mp (Except.ok.inj (hsteps.symm.trans hsteps')) with
      ⟨_ | ⟨c, cs⟩, hl, hr⟩ | ⟨_ | ⟨c, cs⟩, hl, hr⟩
    · exact (List.cons.inj hr).1
    · obtain ⟨rfl, -⟩ := List.cons.inj hr
      exact absurd h.pends (hne (hbefore' step (by simp [hl])))
    · exact (List.cons.inj hr).1.symm
    · obtain ⟨rfl, -⟩ := List.cons.inj hr
      exact absurd h'.pends (hne (hbefore step' (by simp [hl])))
  subst hstep
  exact ⟨rfl, Except.ok.inj (h.requested.symm.trans h'.requested)⟩

/-- Controls that protect the provider's revocation only, or, as the compiled controls do, the disabling of the old
secret too. -/
def sampleProtection (both : Bool) : ControlDefinition where
  requiredChecks := requiredChecks
  allowedTools := {"provider.revokeCredential", "secretStore.disableVersion"}
  protectedTools := if both then {"provider.revokeCredential", "secretStore.disableVersion"}
    else {"provider.revokeCredential"}
  allowedRecoveryModes := {.rollback}
  maximumObservationSeconds := 3600
  requireRevokeApproval := true
  requireGenerationTelemetry := false
  accepted := by cases both <;> decide

def sampleProtectionVersion (both : Bool) : ControlVersion where
  id := sampleCredential.controlVersion
  organisationId := sampleCredential.organisationId
  credentialId := sampleCredential.id
  number := 1
  definition := sampleProtection both
  digest := Hashing.sample.digest (definitionPayload (sampleProtection both).toControlFields)
  createdBy := operatorOne
  createdAt := ⟨0, 0⟩

def sampleRounds (status : RunStatus) (rounds revision : Nat) : RunFields :=
  { (sampleDeployed .approval 9).toRunFields with
    status
    lease := some { ownerId := workerOne, fencingToken := rounds + 1, expiresAt := ⟨100, 0⟩
                    token_pos := Nat.succ_pos _ }
    fencingToken := rounds + 1
    updatedAt := ⟨10, 0⟩
    revision }

private theorem sampleRounds_accepted {status : RunStatus} (h : status = .running ∨ status = .paused)
    (rounds revision : Nat) : (sampleRounds status rounds revision).validateTerminalState = .ok () := by
  have hplain : status ∉ RunFields.problemStates ∧ status ≠ .completed ∧ status ≠ .compensated ∧
      RunFields.recoveryBound status = false := by
    rcases h with rfl | rfl <;> decide
  refine (RunFields.validateTerminalState_ok _).mpr ⟨fun hs => absurd hs hplain.2.1, fun lease hl => ?_,
    ⟨fun hs => absurd hs hplain.1, fun hf => absurd rfl hf⟩, hplain.2.2.2, fun hs => absurd hs hplain.2.2.1⟩
  cases hl
  rfl

def sampleInApproval (rounds : Nat) : RotationRun where
  toRunFields := sampleRounds .running rounds (9 + 2 * rounds)
  accepted := sampleRounds_accepted (.inl rfl) rounds _

def samplePassed : VerificationReport :=
  report reportOne sampleCredential.organisationId RotationRun.sample.id sampleTarget.id
    [{  probeId := secretProbe.id
        status := .passed
        checks := {"secret-version-enabled"}
        evidenceIds := [evidenceOne]
        startedAt := ⟨10, 0⟩
        completedAt := ⟨10, 0⟩
        checks_nonempty := by decide
        evidence_nonempty := evidenceOne_cited
        explained := passed_explains }] ⟨10, 0⟩ ⟨10, 0⟩ (List.cons_ne_nil _ _)

def sampleApprovalCatalog (both : Bool) : Catalog :=
  { sampleCatalog with
    controls := sampleCatalog.controls.set
      (sampleCredential.organisationId, sampleCredential.id, sampleCredential.controlVersion)
      (sampleProtectionVersion both)
    reports := Collection.empty.set (samplePassed.organisationId, samplePassed.id) samplePassed }

def sampleApprovalIds : List Identifier := [approvalOne, ⟨"approval-2", by decide⟩]

def Peers.sampleApproving : Peers :=
  { Peers.sample with
    queryReports := fun reports o _ _ => (reports (o, samplePassed.id)).toList
    queryApprovals := fun approvals o run =>
      (sampleApprovalIds.filterMap fun id => approvals (o, id)).filter (·.runId = run) }

def sampleApproving (both : Bool) (rounds : Nat) (store : ApprovalStore) : ApprovalState where
  run := sampleInApproval rounds
  catalog := (sampleApprovalCatalog both).withApprovals store
  peers := Peers.sampleApproving

def sampleRevoke : OperationStep := { providerRevoke sampleProvider true with isProtected := true }

def sampleDisable : OperationStep :=
  { disableOld sampleSecretStore.id keyVersionOne with isProtected := true }

def sampleSteps (both : Bool) : List OperationStep :=
  if both then [sampleRevoke, sampleDisable] else [sampleRevoke]

section
variable (both : Bool) (rounds : Nat) (store : ApprovalStore)

private theorem sampleControl_approving : control Hashes.sample (sampleApproving both rounds store).catalog
    (sampleApproving both rounds store).run = .ok (sampleProtectionVersion both) :=
  control_ok.mpr ⟨rfl, rfl, rfl, rfl, rfl⟩

private theorem sampleSteps_declared :
    (sampleApproving both rounds store).steps Hashes.sample = .ok (sampleSteps both) := by
  rw [ApprovalState.steps, protectedSteps, sampleControl_approving]
  cases both <;> rfl

private theorem sampleRevoke_called : approvalPayload Hashes.sample (sampleApproving both rounds store).catalog
    (sampleApproving both rounds store).run sampleRevoke = .ok ("connection-1", [("provider_id", .text "key-1")]) := by
  rfl

private theorem sampleDisable_called : approvalPayload Hashes.sample (sampleApproving both rounds store).catalog
    (sampleApproving both rounds store).run sampleDisable =
      .ok ("connection-2", [("version", .text "projects/demo/secrets/key/versions/1")]) := by
  rfl

private theorem sampleRevoke_action (token : Nat) :
    ∃ action, (sampleApproving both rounds store).action Hashes.sample sampleRevoke token = .ok action :=
  ⟨_, ApprovalState.action_ok.mpr ⟨_, _, _, sampleRevoke_called both rounds store, rfl, rfl⟩⟩

private theorem sampleDisable_action (token : Nat) :
    ∃ action, (sampleApproving both rounds store).action Hashes.sample sampleDisable token = .ok action :=
  ⟨_, ApprovalState.action_ok.mpr ⟨_, _, _, sampleDisable_called both rounds store, rfl, rfl⟩⟩

end

/-- The sum of the characters of a text, modulo sixteen: the first digit of its sample checksum. -/
def firstDigit (text : String) : Nat := (text.toList.map Char.toNat).sum % 16

private theorem fold_mod (l : List Char) (h : Nat) :
    (l.foldl (fun h c => (h * 257 + c.toNat) % 16 ^ 40) h) % 16 = (h + (l.map Char.toNat).sum) % 16 := by
  induction l generalizing h with
  | nil => rfl
  | cons c l ih =>
    rw [List.foldl_cons, ih, List.map_cons, List.sum_cons]
    have hstep : (h * 257 + c.toNat) % 16 ^ 40 % 16 = (h * 257 + c.toNat) % 16 :=
      Nat.mod_mod_of_dvd _ (Dvd.intro_left (16 ^ 39) rfl)
    omega

private theorem sample_ne {a b : String} (h : firstDigit a ≠ firstDigit b) : Checksum.sample a ≠ Checksum.sample b := by
  intro he
  have hdigits : ∀ m < 16, ∀ n < 16, Nat.digitChar m = Nat.digitChar n → m = n := by decide
  have ht := congrArg (fun c : Checksum => c.text.toList.head?) he
  simp only [Checksum.sample, hexDigit, String.toList_ofList, List.range_succ_eq_map, List.map_cons, List.head?_cons,
    pow_zero, Nat.div_one, Option.some.injEq] at ht
  have hm := hdigits _ (Nat.mod_lt _ (by decide)) _ (Nat.mod_lt _ (by decide)) ht
  rw [fold_mod, fold_mod, Nat.zero_add, Nat.zero_add] at hm
  exact h hm

def revokeText (token : Nat) : String :=
  joined ["run-1", "provider_revoke", toString token, "\x7b\"provider_id\":\"key-1\"\x7d"]

def disableText (token : Nat) : String :=
  joined ["run-1", "secret_store_disable_old", toString token,
    "\x7b\"version\":\"projects/demo/secrets/key/versions/1\"\x7d"]

private theorem sampleRevoke_text (token : Nat) : actionText Hashes.sample (sampleInApproval 0) sampleRevoke token
    [("provider_id", .text "key-1")] = revokeText token := by
  simp only [actionText, parametersPayload, List.mergeSort_singleton]
  rfl

private theorem sampleDisable_text (token : Nat) : actionText Hashes.sample (sampleInApproval 0) sampleDisable token
    [("version", .text "projects/demo/secrets/key/versions/1")] = disableText token := by
  simp only [actionText, parametersPayload, List.mergeSort_singleton]
  rfl

private theorem sampleTexts_ne : (∀ token < 4, firstDigit (revokeText token) ≠ firstDigit (disableText token)) ∧
    firstDigit (revokeText 2) ≠ firstDigit (disableText 3) := by
  decide +kernel

def SamplePlaced (store : ApprovalStore) : Prop := ∀ key approval, store.approvals key = some approval →
  key = (sampleCredential.organisationId, approval.id) ∧ approval.id ∈ sampleApprovalIds

private theorem SamplePlaced.set {store after : ApprovalStore} (h : SamplePlaced store) {approval : Approval}
    (hset : after.approvals = store.approvals.set (sampleCredential.organisationId, approval.id) approval)
    (hid : approval.id ∈ sampleApprovalIds) : SamplePlaced after := by
  intro key other hread
  rw [hset] at hread
  rcases Collection.set_eq_some.mp hread with ⟨rfl, rfl⟩ | ⟨-, hread⟩
  · exact ⟨rfl, hid⟩
  · exact h key other hread

private theorem sampleQueried (both : Bool) (rounds : Nat) {store : ApprovalStore} (hplaced : SamplePlaced store) :
    Queried (sampleApproving both rounds store) := by
  refine ⟨fun approval => ?_, ?_⟩
  · change approval ∈ (sampleApprovalIds.filterMap fun id => store.approvals (sampleCredential.organisationId, id)).filter _ ↔
      (∃ key, store.approvals (sampleCredential.organisationId, key) = some approval) ∧ _
    rw [List.mem_filter, List.mem_filterMap, decide_eq_true_eq]
    refine and_congr_left fun _ => ⟨fun ⟨id, _, hread⟩ => ⟨id, hread⟩, fun ⟨id, hread⟩ => ?_⟩
    obtain ⟨hkey, hmem⟩ := hplaced _ _ hread
    exact ⟨approval.id, hmem, hkey ▸ hread⟩
  · refine List.Nodup.filter _ (List.Nodup.filterMap (fun id id' approval h h' => ?_) (by decide))
    rw [(Prod.mk.inj (hplaced _ _ h).1).2, (Prod.mk.inj (hplaced _ _ h').1).2]

private theorem sampleRound {both : Bool} {rounds : Nat} {store after : ApprovalStore} {action : ProtectedAction}
    (calls : GrantCalls Hashing.sample Hashes.sample.isalnum store action ⟨50, 0⟩ after) :
    Round Hashes.sample ⟨50, 0⟩ action (sampleApproving both rounds store) (sampleApproving both (rounds + 1) after) where
  peers := ⟨_, rfl⟩
  granted := ⟨after, ⟨calls⟩, rfl⟩
  resumed := by
    have hlive : (⟨10, 0⟩ : AwareDatetime) < ⟨100, 0⟩ := by decide
    refine ⟨⟨_, sampleRounds_accepted (.inr rfl) rounds (9 + 2 * rounds + 1)⟩, workerOne, rounds + 1,
      9 + 2 * rounds, ⟨100, 0⟩, ⟨10, 0⟩, ⟨10, 0⟩,
      RotationMachine.pause_ok.mpr ⟨⟨rfl, _, rfl, rfl, hlive⟩, List.mem_cons_self, rfl⟩,
      RotationMachine.resume_ok.mpr ⟨rfl, rfl, ?_, hlive, rfl⟩⟩
    intro lease h _
    cases h
    rfl

private theorem sample_collision_free {both : Bool} {step step' : OperationStep} (hstep : step ∈ sampleSteps both)
    (hstep' : step' ∈ sampleSteps both) {j : Nat} (hj : j ≤ 2) {store : ApprovalStore}
    {called called' : String × Parameters}
    (h : approvalPayload Hashes.sample (sampleApproving both 0 store).catalog (sampleApproving both 0 store).run step =
      .ok called)
    (h' : approvalPayload Hashes.sample (sampleApproving both 0 store).catalog (sampleApproving both 0 store).run step' =
      .ok called') :
    NoCollision Hashes.sample (actionText Hashes.sample (sampleInApproval 0) step (1 + j) called.2)
      (actionText Hashes.sample (sampleInApproval 0) step' (1 + j) called'.2) := by
  have hne := sample_ne (sampleTexts_ne.1 (1 + j) (by omega))
  have hmem : ∀ step ∈ sampleSteps both, step = sampleRevoke ∨ step = sampleDisable := by
    cases both <;> simp [sampleSteps]
  replace hstep := hmem _ hstep
  replace hstep' := hmem _ hstep'
  rcases hstep with rfl | rfl <;> rcases hstep' with rfl | rfl <;>
    simp only [sampleRevoke_called, sampleDisable_called, Except.ok.injEq] at h h' <;> subst h h' <;>
    simp only [sampleRevoke_text, sampleDisable_text, NoCollision]
  · exact fun _ => trivial
  · exact fun he => absurd he hne
  · exact fun he => absurd he.symm hne
  · exact fun _ => trivial

def sampleToken : String := String.ofList (List.replicate 43 'a')

private theorem sampleToken_safe : urlSafe Hashes.sample.isalnum sampleToken = true := by
  decide +kernel

private theorem sample_action_id {both : Bool} {rounds : Nat} {store : ApprovalStore} {step : OperationStep} {token : Nat}
    {action : ProtectedAction} (h : (sampleApproving both rounds store).action Hashes.sample step token = .ok action)
    {called : String × Parameters} (hcalled : approvalPayload Hashes.sample (sampleApproving both rounds store).catalog
      (sampleApproving both rounds store).run step = .ok called) :
    action.organisationId = sampleCredential.organisationId ∧
    action.id = identify Hashes.sample .action [(sampleInApproval 0).id.text, step.id.text, toString token,
      Hashes.sample.digest (parametersPayload called.2)] := by
  obtain ⟨connectionId, payload, context, hpayload, hcontext, hbuilt⟩ := ApprovalState.action_ok.mp h
  obtain rfl := Except.ok.inj (hcalled.symm.trans hpayload)
  obtain ⟨horganisation, -, -, hid, -⟩ := actionFor_ok hbuilt
  rw [actionContext_parameters hcontext] at hid
  exact ⟨horganisation, hid⟩

private theorem sample_action_ne {both : Bool} {rounds rounds' : Nat} {store store' : ApprovalStore}
    {token token' : Nat} {action action' : ProtectedAction}
    (h : (sampleApproving both rounds store).action Hashes.sample sampleRevoke token = .ok action)
    (h' : (sampleApproving both rounds' store').action Hashes.sample sampleDisable token' = .ok action')
    (hne : firstDigit (revokeText token) ≠ firstDigit (disableText token')) : action.id ≠ action'.id := by
  intro he
  rw [(sample_action_id h (sampleRevoke_called both rounds store)).2,
    (sample_action_id h' (sampleDisable_called both rounds' store')).2] at he
  have hchecksum := identify_eq he
  rw [← actionText.eq_1, ← actionText.eq_1, sampleRevoke_text, sampleDisable_text] at hchecksum
  exact sample_ne hne hchecksum

private theorem sample_required (both : Bool) (rounds : Nat) (store : ApprovalStore) :
    (sampleApproving both rounds store).Required Hashes.sample :=
  ⟨_, sampleControl_approving both rounds store, rfl⟩

private theorem mem_approvals {both : Bool} {rounds : Nat} {store : ApprovalStore} {approval : Approval}
    (h : approval ∈ (sampleApproving both rounds store).approvals) : ∃ key, store.approvals key = some approval := by
  obtain ⟨id, -, hread⟩ := List.mem_filterMap.mp (List.mem_of_mem_filter h)
  exact ⟨_, hread⟩

def sampleUnapproved : ApprovalStore := ⟨Collection.empty, Collection.empty⟩

private theorem sampleUnapproved_none (key : Identifier × Identifier) (approval : Approval) :
    sampleUnapproved.approvals key ≠ some approval := by
  intro h
  cases h

private theorem sampleUnapproved_placed : SamplePlaced sampleUnapproved :=
  fun key approval h => absurd h (sampleUnapproved_none key approval)

private theorem sample_asks_revoke {both : Bool} {first : ProtectedAction}
    (hfirst : (sampleApproving both 0 sampleUnapproved).action Hashes.sample sampleRevoke 2 = .ok first) :
    Asks Hashes.sample (sampleApproving both 0 sampleUnapproved) sampleRevoke first := by
  obtain ⟨action, haction⟩ := sampleRevoke_action both 0 sampleUnapproved 1
  have hnone : ∀ approval ∈ (sampleApproving both 0 sampleUnapproved).approvals, approval.actionId ≠ action.id := by
    intro approval hmem
    obtain ⟨_, hread⟩ := mem_approvals hmem
    exact absurd hread (sampleUnapproved_none _ _)
  obtain ⟨requested, hrequested, hpends⟩ := approve_pends haction hnone
  obtain rfl : requested = first := Except.ok.inj (hrequested.symm.trans hfirst)
  have hsteps : ∃ after, sampleSteps both = sampleRevoke :: after := by
    cases both
    · exact ⟨[], rfl⟩
    · exact ⟨[sampleDisable], rfl⟩
  obtain ⟨after, hsteps⟩ := hsteps
  exact ⟨sample_required both 0 _, ⟨[], after, hsteps ▸ sampleSteps_declared both 0 _, nofun⟩, hrequested, hpends⟩

private theorem sample_asks_disable {first second : ProtectedAction} {approval : Approval} {store : ApprovalStore}
    (hfirst : (sampleApproving true 1 store).action Hashes.sample sampleRevoke 2 = .ok first)
    (hsecond : (sampleApproving true 1 store).action Hashes.sample sampleDisable 3 = .ok second)
    (granted : Granted Hashes.sample.toHashing sampleUnapproved first ⟨50, 0⟩ approval store)
    (hid : approval.id = approvalOne) :
    Asks Hashes.sample (sampleApproving true 1 store) sampleDisable second := by
  have horganisation := (sample_action_id hfirst (sampleRevoke_called true 1 store)).1
  have happrovals := granted.approvals
  rw [horganisation] at happrovals
  have hplaced : SamplePlaced store :=
    SamplePlaced.set sampleUnapproved_placed happrovals (by rw [hid]; decide)
  have hrun : first.runId = (sampleApproving true 1 store).run.id := by
    obtain ⟨_, _, _, -, -, hbuilt⟩ := ApprovalState.action_ok.mp hfirst
    exact (actionFor_ok hbuilt).2.1
  have hsole : (sampleApproving true 1 store).approvals.filter (·.actionId = first.id) = [approval] :=
    sole_granted granted (sampleQueried true 1 hplaced) rfl horganisation hrun
      fun key approval h => absurd h (sampleUnapproved_none key approval)
  have hstored : store.actions (sampleCredential.organisationId, first.id) = some first := by
    rw [granted.actions, horganisation]
    exact Collection.set_same ..
  have happroved := approve_granted hfirst granted hsole hstored (by decide : (⟨10, 0⟩ : AwareDatetime) < ⟨50, 0⟩)
  obtain ⟨action, haction⟩ := sampleDisable_action true 1 store 2
  have hnone : ∀ other ∈ (sampleApproving true 1 store).approvals, other.actionId ≠ action.id := by
    intro other hmem
    obtain ⟨_, hread⟩ := mem_approvals hmem
    rw [happrovals] at hread
    rcases Collection.set_eq_some.mp hread with ⟨-, rfl⟩ | ⟨-, hread⟩
    · rw [granted.bound]
      exact sample_action_ne hfirst haction (sampleTexts_ne.1 2 (by decide))
    · exact absurd hread (sampleUnapproved_none _ _)
  obtain ⟨requested, hrequested, hpends⟩ := approve_pends haction hnone
  obtain rfl : requested = second := Except.ok.inj (hrequested.symm.trans hsecond)
  refine ⟨sample_required true 1 store, ⟨[sampleRevoke], [], sampleSteps_declared true 1 store, fun earlier hmem => ?_⟩,
    hrequested, hpends⟩
  rw [List.mem_singleton.mp hmem]
  exact ⟨_, happroved⟩

private theorem sample_grants {first second : ProtectedAction} (ho₁ : first.organisationId = sampleCredential.organisationId)
    (ho₂ : second.organisationId = sampleCredential.organisationId) (hne : first.id ≠ second.id) :
    ∃ store₁ store₂, ∃ calls₁ : GrantCalls Hashing.sample Hashes.sample.isalnum sampleUnapproved first ⟨50, 0⟩ store₁,
      ∃ _ : GrantCalls Hashing.sample Hashes.sample.isalnum store₁ second ⟨50, 0⟩ store₂,
      calls₁.approval.id = approvalOne ∧ SamplePlaced store₁ ∧ SamplePlaced store₂ := by
  have hlive : (⟨10, 0⟩ : AwareDatetime) < ⟨50, 0⟩ := by decide
  have hgrant₁ : ∃ after, ∃ calls : GrantCalls Hashing.sample Hashes.sample.isalnum sampleUnapproved first ⟨50, 0⟩ after,
      calls.approval.id = approvalOne :=
    exists_grant operatorOne rfl rfl sampleToken_safe hlive
  obtain ⟨store₁, calls₁, hcalls₁⟩ := hgrant₁
  have happrovals₁ := calls₁.granted.approvals
  rw [ho₁] at happrovals₁
  have habsent : store₁.actions (second.organisationId, second.id) = none := by
    rw [calls₁.granted.actions, Collection.set_of_ne]
    · rfl
    · exact fun he => hne (Prod.mk.inj he).2.symm
  have hnew : store₁.approvals (second.organisationId, ⟨"approval-2", by decide⟩) = none := by
    rw [happrovals₁, ho₂, hcalls₁]
    rfl
  have hgrant₂ : ∃ after, ∃ calls : GrantCalls Hashing.sample Hashes.sample.isalnum store₁ second ⟨50, 0⟩ after,
      calls.approval.id = ⟨"approval-2", by decide⟩ :=
    exists_grant operatorOne habsent hnew sampleToken_safe hlive
  obtain ⟨store₂, calls₂, hcalls₂⟩ := hgrant₂
  have happrovals₂ := calls₂.granted.approvals
  rw [ho₂] at happrovals₂
  have hplaced₁ : SamplePlaced store₁ :=
    SamplePlaced.set sampleUnapproved_placed happrovals₁ (by rw [hcalls₁]; decide)
  exact ⟨store₁, store₂, calls₁, calls₂, hcalls₁, hplaced₁, hplaced₁.set happrovals₂ (by rw [hcalls₂]; decide)⟩

def sampleStates (both : Bool) (store₁ store₂ : ApprovalStore) : Nat → ApprovalState
  | 0 => sampleApproving both 0 sampleUnapproved
  | 1 => sampleApproving both 1 store₁
  | _ => sampleApproving both 2 store₂

private theorem sampleStates_queried {both : Bool} {store₁ store₂ : ApprovalStore} (hplaced₁ : SamplePlaced store₁)
    (hplaced₂ : SamplePlaced store₂) (j : Nat) : Queried (sampleStates both store₁ store₂ j) := by
  match j with
  | 0 => exact sampleQueried both 0 sampleUnapproved_placed
  | 1 => exact sampleQueried both 1 hplaced₁
  | _ + 2 => exact sampleQueried both 2 hplaced₂

private theorem exists_sample {both : Bool} {store₁ store₂ : ApprovalStore} (hplaced₁ : SamplePlaced store₁)
    (hplaced₂ : SamplePlaced store₂)
    (hround : ∀ j < (sampleSteps both).length, ∀ step action,
      Asks Hashes.sample (sampleStates both store₁ store₂ j) step action →
      Round Hashes.sample ⟨50, 0⟩ action (sampleStates both store₁ store₂ j) (sampleStates both store₁ store₂ (j + 1))) :
    ∃ seq : ApprovalSequence Hashes.sample, seq.state = sampleStates both store₁ store₂ ∧
      seq.expires = (fun _ => ⟨50, 0⟩) ∧ seq.steps = sampleSteps both := by
  have hlength : (sampleSteps both).length ≤ 2 := by cases both <;> decide
  refine ⟨{
    state := sampleStates both store₁ store₂
    expires := fun _ => ⟨50, 0⟩
    steps := sampleSteps both
    in_approval := rfl
    running := rfl
    declared := sampleSteps_declared both 0 _
    queried := sampleStates_queried hplaced₁ hplaced₂
    fresh := fun _ _ _ _ _ _ key approval h => absurd h (sampleUnapproved_none key approval)
    collision_free := fun _ hstep _ hstep' _ hj _ _ h h' =>
      sample_collision_free hstep hstep' (hj.trans hlength) h h'
    round := hround }, rfl, rfl, rfl⟩

private theorem sampleStates_round {first second : ProtectedAction} {store₁ store₂ : ApprovalStore}
    (calls₁ : GrantCalls Hashing.sample Hashes.sample.isalnum sampleUnapproved first ⟨50, 0⟩ store₁)
    (calls₂ : GrantCalls Hashing.sample Hashes.sample.isalnum store₁ second ⟨50, 0⟩ store₂)
    (hask₀ : Asks Hashes.sample (sampleApproving true 0 sampleUnapproved) sampleRevoke first)
    (hask₁ : Asks Hashes.sample (sampleApproving true 1 store₁) sampleDisable second) {j : Nat} (hj : j < 2)
    {step : OperationStep} {action : ProtectedAction}
    (hask : Asks Hashes.sample (sampleStates true store₁ store₂ j) step action) :
    Round Hashes.sample ⟨50, 0⟩ action (sampleStates true store₁ store₂ j) (sampleStates true store₁ store₂ (j + 1)) := by
  obtain rfl | rfl : j = 0 ∨ j = 1 := by omega
  · obtain ⟨-, haction⟩ := hask₀.unique hask
    subst haction
    exact sampleRound calls₁
  · obtain ⟨-, haction⟩ := hask₁.unique hask
    subst haction
    exact sampleRound calls₂

private theorem sample_sequence : ∃ seq : ApprovalSequence Hashes.sample, seq.steps = [sampleRevoke, sampleDisable] ∧
    (seq.state 0).Required Hashes.sample := by
  obtain ⟨first, hfirst⟩ := sampleRevoke_action true 0 sampleUnapproved 2
  obtain ⟨second, hsecond⟩ := sampleDisable_action true 0 sampleUnapproved 3
  obtain ⟨store₁, store₂, calls₁, calls₂, hid, hplaced₁, hplaced₂⟩ := sample_grants
    (sample_action_id hfirst (sampleRevoke_called true 0 _)).1 (sample_action_id hsecond (sampleDisable_called true 0 _)).1
    (sample_action_ne hfirst hsecond sampleTexts_ne.2)
  have hask₀ := sample_asks_revoke hfirst
  have hask₁ : Asks Hashes.sample (sampleApproving true 1 store₁) sampleDisable second :=
    sample_asks_disable hfirst hsecond calls₁.granted hid
  obtain ⟨seq, hstate, -, hsteps⟩ := exists_sample hplaced₁ hplaced₂
    fun _ hj _ _ hask => sampleStates_round calls₁ calls₂ hask₀ hask₁ hj hask
  exact ⟨seq, hsteps, by rw [hstate]; exact sample_required true 0 sampleUnapproved⟩

/-- The stage does not terminate under the controls that protect two steps. -/
theorem approval_not_terminates : ¬ ∀ hashes, ∀ seq : ApprovalSequence hashes, seq.Terminates := by
  intro h
  obtain ⟨seq, hsteps, hrequired⟩ := sample_sequence
  obtain ⟨step, action, hsingle, -⟩ := ApprovalSequence.single_of_terminates hrequired (h _ seq)
  rw [hsteps] at hsingle
  cases hsingle

/-- Where the controls protect the revocation only, one grant that is used in time ends the stage. -/
theorem single_approval_terminates : ∃ seq : ApprovalSequence Hashes.sample, seq.steps = [sampleRevoke] ∧
    (seq.state 0).Required Hashes.sample ∧ seq.Terminates := by
  obtain ⟨first, hfirst⟩ := sampleRevoke_action false 0 sampleUnapproved 2
  have hask := sample_asks_revoke hfirst
  have horganisation := (sample_action_id hfirst (sampleRevoke_called false 0 _)).1
  obtain ⟨store, calls, hid⟩ : ∃ after,
      ∃ calls : GrantCalls Hashing.sample Hashes.sample.isalnum sampleUnapproved first ⟨50, 0⟩ after,
        calls.approval.id = approvalOne :=
    exists_grant operatorOne rfl rfl sampleToken_safe (by decide : (⟨10, 0⟩ : AwareDatetime) < ⟨50, 0⟩)
  have happrovals := calls.granted.approvals
  rw [horganisation] at happrovals
  have hplaced : SamplePlaced store := SamplePlaced.set sampleUnapproved_placed happrovals (by rw [hid]; decide)
  obtain ⟨seq, hstate, hexpires, hsteps⟩ := @exists_sample false store store hplaced hplaced fun j hj step action hask' => by
    obtain rfl : j = 0 := Nat.lt_one_iff.mp hj
    obtain ⟨-, haction⟩ := hask.unique hask'
    subst haction
    exact sampleRound calls
  obtain ⟨action, haction⟩ := sampleRevoke_action false 0 sampleUnapproved 1
  refine ⟨seq, hsteps, by rw [hstate]; exact sample_required false 0 sampleUnapproved, seq.terminates_iff.mpr (.inr ?_)⟩
  refine ⟨sampleRevoke, action, hsteps, by rw [hstate]; exact haction, ?_⟩
  rw [hstate, hexpires]
  exact (by decide : (⟨10, 0⟩ : AwareDatetime) < ⟨50, 0⟩)

end Uumi.Coordinator
