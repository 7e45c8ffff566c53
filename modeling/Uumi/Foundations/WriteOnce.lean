import Mathlib

/-! Values that are written at most once: along a run a value that has settled stays as it is. -/
namespace Uumi.Foundations

variable {α : Type*} {Settled : α → Prop} {v : ℕ → α} {i j : ℕ}

def WriteOnce (Settled : α → Prop) (v : ℕ → α) : Prop := ∀ n, Settled (v n) → v (n + 1) = v n

/-- The value settles in a step. -/
def Settles (Settled : α → Prop) (v : ℕ → α) (n : ℕ) : Prop := ¬ Settled (v n) ∧ Settled (v (n + 1))

namespace WriteOnce

/-- A settled value is kept. -/
theorem keeps (h : WriteOnce Settled v) (hij : i ≤ j) (hi : Settled (v i)) : v j = v i := by
  induction j, hij using Nat.le_induction with
  | base => rfl
  | succ n _ ih =>
    have hn : Settled (v n) := by
      rw [ih]
      exact hi
    exact (h n hn).trans ih

/-- What is settled stays settled. -/
theorem settled (h : WriteOnce Settled v) (hij : i ≤ j) (hi : Settled (v i)) : Settled (v j) := by
  rw [h.keeps hij hi]
  exact hi

/-- No value settles twice. -/
theorem settles_once (h : WriteOnce Settled v) (hi : Settles Settled v i) (hj : Settles Settled v j) : i = j := by
  rcases Nat.lt_trichotomy i j with hlt | heq | hlt
  · exact absurd (h.settled hlt hi.2) hj.1
  · exact heq
  · exact absurd (h.settled hlt hj.2) hi.1

end WriteOnce

end Uumi.Foundations
