import Mathlib

/-! Updates of one document that are computed from copies read earlier, and when none of them is lost. -/
namespace Uumi.Foundations

/-- Updates one after another. The writer of step `n` read the document as it was at `read n`. A step that is applied
writes the fields `written n`; those in `assigned n` it gives values of its own. -/
structure Updates (δ ι : Type*) where
  document : ℕ → δ
  read : ℕ → ℕ
  applied : ℕ → Prop
  written : ℕ → Set ι
  assigned : ℕ → Set ι

namespace Updates
variable {δ ι : Type*} {β : ι → Type*} (updates : Updates δ ι) (view : (field : ι) → δ → β field)

def Fresh (n : ℕ) : Prop := ∀ j, updates.read n ≤ j → j < n → ¬ updates.applied j

/-- Step `n` writes a field that step `j` wrote after the writer of step `n` had read the document. -/
def Overwrites (n j : ℕ) : Prop :=
  updates.applied n ∧ updates.applied j ∧ updates.read n ≤ j ∧ j < n ∧ ∃ field ∈ updates.written n, field ∈ updates.written j

/-- The document at `n` has what step `j` assigned, up to the fields that a writer who knew of it assigned anew. -/
def Reflected (j n : ℕ) : Prop :=
  ∀ field ∈ updates.assigned j, view field (updates.document n) = view field (updates.document (j + 1)) ∨
    ∃ k, j < k ∧ k < n ∧ updates.applied k ∧ j < updates.read k ∧ field ∈ updates.assigned k

/-- Every update that was applied is in the document, and none overwrites another that its writer did not know of. -/
structure LosesNothing : Prop where
  reflected : ∀ j n, j < n → updates.applied j → updates.Reflected view j n
  overwrites : ∀ n j, ¬ updates.Overwrites n j

variable {updates view}

/-- A fresh write stands on the document that it read. -/
theorem Fresh.document_eq {n : ℕ} (fresh : updates.Fresh n) (hread : updates.read n ≤ n)
    (hkeeps : ∀ n, ¬ updates.applied n → updates.document (n + 1) = updates.document n) :
    updates.document n = updates.document (updates.read n) := by
  suffices h : ∀ m, updates.read n ≤ m → m ≤ n → updates.document m = updates.document (updates.read n) from
    h n hread le_rfl
  intro m hm
  induction m, hm using Nat.le_induction with
  | base => exact fun _ => rfl
  | succ m hm ih =>
    intro hle
    rw [hkeeps m (fresh m hm hle)]
    exact ih (Nat.le_of_succ_le hle)

/-- When every writer read the document as it was when its update was applied, nothing is lost. -/
theorem losesNothing_of_fresh (hread : ∀ n, updates.applied n → updates.read n ≤ n)
    (hkeeps : ∀ n, ¬ updates.applied n → updates.document (n + 1) = updates.document n)
    (hstores : ∀ n, updates.applied n → ∀ field, field ∉ updates.assigned n →
      view field (updates.document (n + 1)) = view field (updates.document (updates.read n)))
    (fresh : ∀ n, updates.applied n → updates.Fresh n) : updates.LosesNothing view := by
  refine ⟨fun j n hlt hj field hfield => ?_, fun n j ⟨hn, hj, hle, hlt, _⟩ => fresh n hn j hle hlt hj⟩
  induction n, hlt using Nat.le_induction with
  | base => exact .inl rfl
  | succ n hn ih =>
    rcases ih with ih | ⟨k, hjk, hkn, hk⟩
    · by_cases happlied : updates.applied n
      · have hknows : j < updates.read n := by
          by_contra hle
          exact fresh n happlied j (Nat.le_of_not_lt hle) hn hj
        by_cases hassigned : field ∈ updates.assigned n
        · exact .inr ⟨n, hn, Nat.lt_succ_self n, happlied, hknows, hassigned⟩
        · have hdocument := (fresh n happlied).document_eq (hread n happlied) hkeeps
          rw [hstores n happlied field hassigned, ← hdocument]
          exact .inl ih
      · rw [hkeeps n happlied]
        exact .inl ih
    · exact .inr ⟨k, hjk, Nat.lt_succ_of_lt hkn, hk⟩

end Updates
end Uumi.Foundations
