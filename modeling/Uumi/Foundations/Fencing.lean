import Mathlib

/-! Fencing tokens. A resource counts the grants it has made; a holder acts by presenting the
token of its grant. Whoever holds an overtaken token is shut out. -/
namespace Uumi.Foundations

/-- A grant: the token it was made under and when it expires. -/
structure Grant (Time : Type) where
  token : Nat
  expires : Time

/-- A fenced resource. The grant in force carries the current token. -/
structure Fence (Time : Type) where
  token : Nat
  grant : Option (Grant Time)
  current : ∀ g ∈ grant, g.token = token

/-- What a caller asks of a fenced resource. -/
inductive FenceRequest (Time : Type) where
  /-- Ask for a new grant. -/
  | acquire (expires : Time)
  /-- Withdraw whatever grant there is. -/
  | revoke
  /-- Act under a token at a time. -/
  | act (token : Nat) (now : Time)
  /-- Interrupt under a token at a time; an expired grant protects nobody. -/
  | interrupt (token : Nat) (now : Time)

namespace Fence
variable {Time : Type} [LT Time]

/-- The steps that a fenced resource may take on a request. -/
inductive Step : Fence Time → FenceRequest Time → Fence Time → Prop
  | acquire {f f' : Fence Time} {expires : Time} (token : f'.token = f.token + 1)
      (granted : ∃ g, f'.grant = some g ∧ g.expires = expires) : Step f (.acquire expires) f'
  | revoke {f f' : Fence Time} (token : f'.token = f.token + 1) (dropped : f'.grant = none) :
      Step f .revoke f'
  | act {f f' : Fence Time} {token : Nat} {now : Time}
      (held : ∃ g, f.grant = some g ∧ g.token = token ∧ now < g.expires)
      (same : f'.token = f.token) : Step f (.act token now) f'
  | interrupt {f f' : Fence Time} {token : Nat} {now : Time}
      (held : ∃ g, f.grant = some g ∧ (now < g.expires → g.token = token))
      (same : f'.token = f.token) : Step f (.interrupt token now) f'

/-- Some request takes the first resource to the second. -/
def Steps (f f' : Fence Time) : Prop := ∃ request, Step f request f'

variable {f f' : Fence Time} {token : Nat} {now expires : Time}

private theorem Step.token_le {request : FenceRequest Time} (h : Step f request f') : f.token ≤ f'.token := by
  cases h with
  | acquire token _ => omega
  | revoke token _ => omega
  | act _ same => exact same.ge
  | interrupt _ same => exact same.ge

/-- A grant counts the token up. -/
theorem Step.token_lt_of_acquire (h : Step f (.acquire expires) f') : f.token < f'.token := by
  cases h with
  | acquire token _ => omega

/-- A withdrawal counts the token up. -/
theorem Step.token_lt_of_revoke (h : Step f .revoke f') : f.token < f'.token := by
  cases h with
  | revoke token _ => omega

/-- Only the current token acts. -/
theorem Step.act_token (h : Step f (.act token now) f') : token = f.token := by
  cases h with
  | act held _ =>
    obtain ⟨g, hg, rfl, _⟩ := held
    exact f.current g hg

/-- While a grant is unexpired only the current token interrupts. -/
theorem Step.interrupt_token (h : Step f (.interrupt token now) f') {g : Grant Time}
    (hg : f.grant = some g) (live : now < g.expires) : token = f.token := by
  cases h with
  | interrupt held _ =>
    obtain ⟨g', hg', ht⟩ := held
    rw [hg] at hg'
    cases hg'
    rw [← ht live]
    exact f.current g hg

/-- The token never goes down. -/
theorem token_le_of_steps (h : Relation.ReflTransGen Steps f f') : f.token ≤ f'.token := by
  induction h with
  | refl => exact Nat.le_refl _
  | tail _ step ih =>
    obtain ⟨request, step⟩ := step
    exact ih.trans step.token_le

section Overtaken
variable {granted before after later : Fence Time}

/-- A token that was current before a later grant stays below the current token. -/
theorem overtaken_lt (held : Relation.ReflTransGen Steps granted before)
    (overtake : Step before (.acquire expires) after)
    (since : Relation.ReflTransGen Steps after later) : granted.token < later.token :=
  (token_le_of_steps held).trans_lt
    (overtake.token_lt_of_acquire.trans_le (token_le_of_steps since))

end Overtaken
end Fence
end Uumi.Foundations
