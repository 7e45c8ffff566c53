import Uumi.Foundations.Interaction

/-! Programs that are tried again after some of their errors. -/
namespace Uumi.Foundations.Program
variable {Op : Type} {Answer : Op → Type} {ε α σ : Type}

/-- Try a program, and up to `n` times more after errors that may pass. -/
def retry (p : Program Op Answer ε α) (again : ε → Bool) : Nat → Program Op Answer ε α
  | 0 => p
  | n + 1 => p.tryCatch fun e => if again e then p.retry again n else .finish (.error e)

def attempted (p : Program Op Answer ε α) : Program Op Answer ε (Except ε α) :=
  (p >>= fun a => pure (.ok a)).tryCatch fun e => pure (.error e)

variable {world : World Op Answer ε σ} {allowed : σ → Op → Prop} {p : Program Op Answer ε α} {s t : σ}

/-- What returns at once is not tried again. -/
theorem Steps.retry {a : α} (h : Steps world s p t (.finish (.ok a))) (again : ε → Bool) (n : Nat) :
    Steps world s (p.retry again n) t (.finish (.ok a)) := by
  cases n with
  | zero => exact h
  | succ n => exact h.tryCatch _

/-- The rule of attempts. What every attempt leaves after an error lets the next one begin. -/
theorem Spec.retry {I : σ → Prop} {post : Except ε α → σ → Prop} {again : ε → Bool}
    (h : ∀ s, I s → Spec world allowed p s post) (resume : ∀ e t, post (.error e) t → I t) (n : Nat) (init : I s) :
    Spec world allowed (p.retry again n) s post := by
  induction n generalizing s with
  | zero => exact h s init
  | succ n ih =>
    refine Spec.orElse (h s init) (fun _ _ done => done) fun e t raised => ?_
    split
    · exact ih (resume e t raised)
    · exact raised

/-- The rule of outcomes. -/
theorem spec_attempted {post : Except ε (Except ε α) → σ → Prop} :
    Spec world allowed p.attempted s post ↔ Spec world allowed p s fun outcome t => post (.ok outcome) t := by
  rw [attempted, spec_tryCatch, spec_bind]
  constructor
  · exact fun h => h.mono fun outcome t ht => by cases outcome <;> exact ht
  · exact fun h => h.mono fun outcome t ht => by cases outcome <;> exact ht

end Uumi.Foundations.Program
