import Mathlib

/-! Transactions whose answers may be lost. -/
namespace Uumi.Foundations
variable {ε δ α σ : Type}

/-- A transaction answers with its result. One that raises may be committed all the same. -/
def Commits (result : Except ε (α × σ)) (answer : Except δ α) (s t : σ) : Prop :=
  match answer with
  | .ok a => result = .ok (a, t)
  | .error _ => t = s ∨ ∃ a, result = .ok (a, t)

/-- A committed transaction, or none. -/
theorem commits_cases {result : Except ε (α × σ)} {answer : Except δ α} {s t : σ} (h : Commits result answer s t) :
    (t = s ∧ ∃ e, answer = .error e) ∨ ∃ a, result = .ok (a, t) ∧ ∀ b, answer = .ok b → b = a := by
  cases answer with
  | error e =>
    rcases h with h | ⟨a, h⟩
    · exact .inl ⟨h, e, rfl⟩
    · exact .inr ⟨a, h, nofun⟩
  | ok a =>
    refine .inr ⟨a, h, ?_⟩
    rintro b hb
    cases hb
    rfl

end Uumi.Foundations
