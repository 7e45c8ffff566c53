import Uumi.Foundations.Interaction

/-! Programs in worlds that answer every call in one way. -/
namespace Uumi.Foundations.Program
variable {Op : Type} {Answer : Op → Type} {ε α β σ : Type}

abbrev Server (Op : Type) (Answer : Op → Type) (ε σ : Type) := σ → (op : Op) → Except ε (Answer op) × σ

def served (server : Server Op Answer ε σ) : Program Op Answer ε α → σ → Except ε α × σ
  | .finish outcome, s => (outcome, s)
  | .call op next, s => (next (server s op).1).served server (server s op).2

variable (server : Server Op Answer ε σ) (s : σ)

@[simp] theorem served_finish (outcome : Except ε α) :
    (Program.finish outcome : Program Op Answer ε α).served server s = (outcome, s) := rfl

@[simp] theorem served_pure (a : α) : (pure a : Program Op Answer ε α).served server s = (.ok a, s) := rfl

@[simp] theorem served_lift (outcome : Except ε α) :
    (lift outcome : Program Op Answer ε α).served server s = (outcome, s) := rfl

@[simp] theorem served_perform (op : Op) :
    (perform op : Program Op Answer ε (Answer op)).served server s = server s op := rfl

/-- The rest of a sequence starts where its first part has returned. -/
theorem served_bind (p : Program Op Answer ε α) (f : α → Program Op Answer ε β) :
    (p >>= f).served server s =
      match p.served server s with
      | (.ok a, t) => (f a).served server t
      | (.error e, t) => (.error e, t) := by
  induction p generalizing s with
  | finish outcome => cases outcome <;> rfl
  | call op next ih => exact ih _ _

/-- A handler is served in the state that the error left. -/
theorem served_tryCatch (p : Program Op Answer ε α) (handler : ε → Program Op Answer ε α) :
    (p.tryCatch handler).served server s =
      match p.served server s with
      | (.ok a, t) => (.ok a, t)
      | (.error e, t) => (handler e).served server t := by
  induction p generalizing s with
  | finish outcome => cases outcome <;> rfl
  | call op next ih => exact ih _ _

/-- What every call keeps, a program keeps. -/
theorem served_keeps {P : σ → Prop} (keeps : ∀ s op, P s → P (server s op).2) (p : Program Op Answer ε α) {s : σ}
    (h : P s) : P (p.served server s).2 := by
  induction p generalizing s with
  | finish outcome => exact h
  | call op next ih => exact ih _ (keeps s op h)

end Uumi.Foundations.Program
