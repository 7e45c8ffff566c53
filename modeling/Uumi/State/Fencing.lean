import Uumi.Foundations.Fencing
import Uumi.State.Inversion

/-! A run as a fenced resource: every applied operation is a step of its fence. -/
namespace Uumi.State
open Uumi.Contracts Uumi.Core Uumi.Foundations

def fence (run : RotationRun) : Fence AwareDatetime where
  token := run.fencingToken
  grant := run.lease.map fun lease => ⟨lease.fencingToken, lease.expiresAt⟩
  current := by
    intro g hg
    obtain ⟨lease, hl, rfl⟩ := Option.map_eq_some_iff.mp hg
    exact run.valid.lease lease hl

def Operation.request : Operation → FenceRequest AwareDatetime
  | .start _ _ expires _ => .acquire expires
  | .renew _ token _ _ now => .act token now
  | .complete _ token _ now _ => .act token now
  | .pause token _ now => .act token now
  | .resume _ _ expires _ => .acquire expires
  | .cleanup _ token _ now => .interrupt token now
  | .fail _ token _ now => .interrupt token now
  | .cancel _ _ => .revoke
  | .recover _ _ expires _ => .acquire expires
  | .completeRecovery _ _ _ token _ now => .act token now

/-- Some machine applies some operation to the first run, with the second as its result. -/
def Applied (run updated : RotationRun) : Prop :=
  ∃ (machine : RotationMachine) (operation : Operation), machine.perform run operation = .ok updated

namespace RotationMachine
variable {machine : RotationMachine} {run updated : RotationRun} {token revision : Nat} {now : AwareDatetime}

private theorem fence_of_lease {lease : Lease} (h : run.lease = some lease) :
    (fence run).grant = some ⟨lease.fencingToken, lease.expiresAt⟩ := by
  simp [fence, h]

private theorem Controls.held (h : Controls run token revision now) :
    ∃ g, (fence run).grant = some g ∧ g.token = token ∧ now < g.expires := by
  obtain ⟨lease, hl, ht, he⟩ := h.live
  exact ⟨_, fence_of_lease hl, ht, he⟩

private theorem Interrupts.held (h : Interrupts run token revision now) :
    ∃ g, (fence run).grant = some g ∧ (now < g.expires → g.token = token) := by
  obtain ⟨lease, hl, ht⟩ := h.lease
  exact ⟨_, fence_of_lease hl, ht⟩

private theorem granted {owner : Identifier} {expires : AwareDatetime}
    (h : updated.lease = some (nextLease run owner expires)) :
    ∃ g, (fence updated).grant = some g ∧ g.expires = expires :=
  ⟨_, fence_of_lease h, rfl⟩

private theorem advance_fencingToken (stage : Stage) (r : RunFields) :
    (advance stage r).fencingToken = r.fencingToken := by
  unfold advance
  split <;> rfl

/-- Every applied operation is a step of the fence. -/
theorem perform_fence {operation : Operation} (h : machine.perform run operation = .ok updated) :
    Fence.Step (fence run) operation.request (fence updated) := by
  cases operation with
  | start owner revision expires now =>
    obtain ⟨_, _, _, hu⟩ := start_ok.mp h
    exact .acquire (congrArg RunFields.fencingToken hu :) (granted (congrArg RunFields.lease hu))
  | renew owner token revision expires now =>
    obtain ⟨hc, _, lease, _, _, hu⟩ := renew_ok.mp h
    exact .act hc.held (congrArg RunFields.fencingToken hu :)
  | complete proof token revision now bindings =>
    obtain ⟨hc, _, _, _, _, _, _, hu⟩ := complete_ok.mp h
    exact .act hc.held ((congrArg RunFields.fencingToken hu :).trans (advance_fencingToken _ _))
  | pause token revision now =>
    obtain ⟨hc, _, hu⟩ := pause_ok.mp h
    exact .act hc.held (congrArg RunFields.fencingToken hu :)
  | resume owner revision expires now =>
    obtain ⟨_, _, _, _, hu⟩ := resume_ok.mp h
    exact .acquire (congrArg RunFields.fencingToken hu :) (granted (congrArg RunFields.lease hu))
  | cleanup failure token revision now =>
    obtain ⟨hi, _, hu⟩ := cleanup_ok.mp h
    exact .interrupt hi.held (congrArg RunFields.fencingToken hu :)
  | fail failure token revision now =>
    obtain ⟨_, hi, hu⟩ := fail_ok.mp h
    refine .interrupt hi.held ((congrArg RunFields.fencingToken hu :).trans ?_)
    show (if _ then _ else _ : RunFields).fencingToken = _
    split <;> rfl
  | cancel revision now =>
    obtain ⟨_, _, hu⟩ := cancel_ok.mp h
    refine .revoke (congrArg RunFields.fencingToken hu :) ?_
    simp [fence, hu]
  | recover owner revision expires now =>
    obtain ⟨_, _, _, _, hu⟩ := recover_ok.mp h
    exact .acquire (congrArg RunFields.fencingToken hu :) (granted (congrArg RunFields.lease hu))
  | completeRecovery id mode evidence token revision now =>
    obtain ⟨hc, _, _, _, ⟨_, _, hu⟩ | ⟨_, hu⟩⟩ := completeRecovery_ok.mp h
    · exact .act hc.held (congrArg RunFields.fencingToken hu :)
    · exact .act hc.held (congrArg RunFields.fencingToken hu :)

private theorem fence_steps (h : Relation.ReflTransGen Applied run updated) :
    Relation.ReflTransGen Fence.Steps (fence run) (fence updated) :=
  h.lift fence fun _ _ ⟨_, operation, hp⟩ => ⟨operation.request, perform_fence hp⟩

end RotationMachine

/-- No machine applies the operation to the run. -/
def Refused (run : RotationRun) (operation : Operation) : Prop :=
  ∀ (machine : RotationMachine) (updated : RotationRun), machine.perform run operation ≠ .ok updated

private theorem refused_of_stale_act {run : RotationRun} {operation : Operation} {token : Nat}
    {now : AwareDatetime} (hr : operation.request = .act token now)
    (stale : token < run.fencingToken) : Refused run operation := by
  intro machine updated h
  have step := RotationMachine.perform_fence h
  rw [hr] at step
  exact absurd step.act_token stale.ne

private theorem refused_of_stale_interrupt {run : RotationRun} {operation : Operation} {token : Nat}
    {now : AwareDatetime} {lease : Lease} (hr : operation.request = .interrupt token now)
    (hl : run.lease = some lease) (live : now < lease.expiresAt)
    (stale : token < run.fencingToken) : Refused run operation := by
  intro machine updated h
  have step := RotationMachine.perform_fence h
  rw [hr] at step
  exact absurd (step.interrupt_token (g := ⟨lease.fencingToken, lease.expiresAt⟩) (by simp [fence, hl]) live)
    stale.ne

/-- What fencing promises about the whole life of a run. -/
structure Fenced : Prop where
  /-- The token never decreases. -/
  monotone : ∀ {run later : RotationRun}, Relation.ReflTransGen Applied run later →
    run.fencingToken ≤ later.fencingToken
  /-- Starting, resuming, recovering and cancelling raise it. -/
  rises : ∀ {machine : RotationMachine} {run updated : RotationRun} {operation : Operation},
    machine.perform run operation = .ok updated →
    (∃ expires, operation.request = .acquire expires) ∨ operation.request = .revoke →
    run.fencingToken < updated.fencingToken
  /-- The lease in force carries the token of the run. -/
  current : ∀ {run later : RotationRun} {lease : Lease}, Relation.ReflTransGen Applied run later →
    later.lease = some lease → lease.fencingToken = later.fencingToken
  /-- An older token renews, completes, pauses and completes a recovery nowhere. -/
  actRefused : ∀ {run later : RotationRun} {operation : Operation} {token : Nat} {now : AwareDatetime},
    Relation.ReflTransGen Applied run later → operation.request = .act token now →
    token < later.fencingToken → Refused later operation
  /-- An older token enters cleanup or failure only past the expiry of the lease. -/
  interruptRefused : ∀ {run later : RotationRun} {operation : Operation} {token : Nat}
    {now : AwareDatetime} {lease : Lease}, Relation.ReflTransGen Applied run later →
    operation.request = .interrupt token now → later.lease = some lease → now < lease.expiresAt →
    token < later.fencingToken → Refused later operation
  /-- Two workers: the first obtained its lease in `granted`, the second obtained one later.
  From then on the first one's token acts nowhere, and interrupts nothing while the lease in
  force is unexpired. -/
  overtaken : ∀ {machine₁ machine₂ : RotationMachine} {run granted before after later : RotationRun}
    {first second operation : Operation} {expires₁ expires₂ now : AwareDatetime},
    first.request = .acquire expires₁ → machine₁.perform run first = .ok granted →
    Relation.ReflTransGen Applied granted before →
    second.request = .acquire expires₂ → machine₂.perform before second = .ok after →
    Relation.ReflTransGen Applied after later →
    (operation.request = .act granted.fencingToken now → Refused later operation) ∧
    (operation.request = .interrupt granted.fencingToken now →
      (∃ lease, later.lease = some lease ∧ now < lease.expiresAt) → Refused later operation)

/-- Fencing holds of every run and every sequence of applied operations. -/
theorem runs_fenced : Fenced where
  monotone h := Fence.token_le_of_steps (RotationMachine.fence_steps h)
  rises h hr := by
    have step := RotationMachine.perform_fence h
    rcases hr with ⟨expires, hr⟩ | hr
    · rw [hr] at step
      exact step.token_lt_of_acquire
    · rw [hr] at step
      exact step.token_lt_of_revoke
  current _ hl := RotationRun.valid _ |>.lease _ hl
  actRefused _ hr stale := refused_of_stale_act hr stale
  interruptRefused _ hr hl live stale := refused_of_stale_interrupt hr hl live stale
  overtaken {_ _ _ granted _ _ later _ _ _ _ _ _} _ _ held hs hp since := by
    have step := RotationMachine.perform_fence hp
    rw [hs] at step
    have stale : granted.fencingToken < later.fencingToken :=
      Fence.overtaken_lt (RotationMachine.fence_steps held) step (RotationMachine.fence_steps since)
    refine ⟨fun hr => refused_of_stale_act hr stale, ?_⟩
    rintro hr ⟨lease, hl, live⟩
    exact refused_of_stale_interrupt hr hl live stale

end Uumi.State
