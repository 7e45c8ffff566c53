import Mathlib

/-! Gap-free logs: the entries under some keys are numbered 0 to the last number, each number
once. -/
namespace Uumi.Foundations
variable {κ : Type}

/-- `number` gives the entries of a log their numbers, which run from 0 to `last`. -/
structure DenseLog (number : κ → Option Nat) (last : Nat) : Prop where
  bounded : ∀ k m, number k = some m → m ≤ last
  unique : ∀ k l m, number k = some m → number l = some m → k = l
  full : ∀ m ≤ last, ∃ k, number k = some m

namespace DenseLog
variable {number : κ → Option Nat} {last : Nat}

/-- Every number up to the last one belongs to exactly one entry. -/
theorem existsUnique (h : DenseLog number last) {m : Nat} (hm : m ≤ last) : ∃! k, number k = some m := by
  obtain ⟨k, hk⟩ := h.full m hm
  exact ⟨k, hk, fun l hl => h.unique l k m hl hk⟩

variable [DecidableEq κ]

/-- A log with one entry. -/
theorem first {key : κ} (fresh : ∀ k, number k = none) :
    DenseLog (Function.update number key (some 0)) 0 := by
  have only : ∀ k m, Function.update number key (some 0) k = some m → k = key ∧ m = 0 := by
    intro k m hk
    by_cases he : k = key
    · subst he
      rw [Function.update_self, Option.some.injEq] at hk
      exact ⟨rfl, hk.symm⟩
    · rw [Function.update_of_ne he, fresh] at hk
      cases hk
  refine ⟨fun k m hk => Nat.le_of_eq (only k m hk).2, fun k l m hk hl => ?_, fun m hm => ⟨key, ?_⟩⟩
  · rw [(only k m hk).1, (only l m hl).1]
  · rw [Function.update_self, Nat.le_zero.mp hm]

/-- An entry under a new key takes the next number. -/
theorem append (key : κ) (h : DenseLog number last) (fresh : number key = none) :
    DenseLog (Function.update number key (some (last + 1))) (last + 1) := by
  have new : ∀ k m, Function.update number key (some (last + 1)) k = some m →
      (k = key ∧ m = last + 1) ∨ (k ≠ key ∧ number k = some m) := by
    intro k m hk
    by_cases he : k = key
    · subst he
      rw [Function.update_self, Option.some.injEq] at hk
      exact .inl ⟨rfl, hk.symm⟩
    · rw [Function.update_of_ne he] at hk
      exact .inr ⟨he, hk⟩
  refine ⟨fun k m hk => ?_, fun k l m hk hl => ?_, fun m hm => ?_⟩
  · rcases new k m hk with ⟨_, rfl⟩ | ⟨_, ho⟩
    · exact Nat.le_refl _
    · exact Nat.le_succ_of_le (h.bounded k m ho)
  · rcases new k m hk with ⟨rfl, rfl⟩ | ⟨_, hko⟩
    · rcases new l _ hl with ⟨rfl, _⟩ | ⟨_, hlo⟩
      · rfl
      · exact absurd (h.bounded l _ hlo) (Nat.not_succ_le_self _)
    · rcases new l m hl with ⟨rfl, rfl⟩ | ⟨_, hlo⟩
      · exact absurd (h.bounded k _ hko) (Nat.not_succ_le_self _)
      · exact h.unique k l m hko hlo
  · rcases Nat.le_succ_iff.mp hm with hle | rfl
    · obtain ⟨k, hk⟩ := h.full m hle
      have hne : k ≠ key := by
        rintro rfl
        rw [fresh] at hk
        cases hk
      exact ⟨k, by rw [Function.update_of_ne hne, hk]⟩
    · exact ⟨key, Function.update_self ..⟩

end DenseLog
end Uumi.Foundations
