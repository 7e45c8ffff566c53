import Mathlib

/-! Patterns of names with separators: a name itself, or every name below a suffix. -/
namespace Uumi.Foundations

inductive NamePattern (α : Type*) where
  | exact (name : List α)
  | below (suffix : List α)

namespace NamePattern
variable {α : Type*} (separator : α)

/-- A name is the one of the pattern, or has the suffix after a separator. -/
def Matches : NamePattern α → List α → Prop
  | exact name, x => x = name
  | below suffix, x => separator :: suffix <:+ x

/-- What can be seen of two patterns when every name of the second is one of the first. -/
def Dominates : NamePattern α → NamePattern α → Prop
  | exact name, exact other => name = other
  | exact _, below _ => False
  | below suffix, exact other => separator :: suffix <:+ other
  | below suffix, below other => separator :: suffix <:+ separator :: other

variable {separator}

/-- To match a name is to dominate the pattern of that name. -/
theorem matches_iff {q : NamePattern α} {x : List α} : q.Matches separator x ↔ q.Dominates separator (exact x) := by
  cases q with
  | exact name => exact eq_comm
  | below suffix => exact Iff.rfl

/-- A pattern matches what the patterns that it dominates match. -/
theorem Dominates.matches {q need : NamePattern α} (h : q.Dominates separator need) {x : List α}
    (hx : need.Matches separator x) : q.Matches separator x := by
  cases q with
  | exact name =>
    cases need with
    | exact other => exact Eq.trans hx (Eq.symm h)
    | below other => exact absurd h id
  | below suffix =>
    cases need with
    | exact other =>
      have hx : x = other := hx
      exact hx ▸ h
    | below other => exact List.IsSuffix.trans h hx

/-- A suffix that starts with a separator does not reach into letters before the last separator. -/
theorem suffix_of_letters {c : α} (hc : c ≠ separator) {suffix other : List α} (n : ℕ)
    (h : separator :: suffix <:+ List.replicate n c ++ separator :: other) :
    separator :: suffix <:+ separator :: other := by
  induction n with
  | zero => exact h
  | succ n ih =>
    rcases List.suffix_cons_iff.mp h with h | h
    · exact absurd (List.cons.inj h).1.symm hc
    · exact ih h

/-- Some patterns together match what a pattern matches exactly when one of them dominates it. -/
theorem covered_iff {c : α} (hc : c ≠ separator) (need : NamePattern α) (allowed : List (NamePattern α)) :
    (∀ x, need.Matches separator x → ∃ q ∈ allowed, q.Matches separator x) ↔
      ∃ q ∈ allowed, q.Dominates separator need := by
  constructor
  · intro h
    cases need with
    | exact name =>
      obtain ⟨q, hq, hmatch⟩ := h name rfl
      refine ⟨q, hq, ?_⟩
      cases q with
      | exact other => exact Eq.symm hmatch
      | below suffix => exact hmatch
    | below suffix =>
      -- A name that is longer than every name among the patterns.
      let longest := (allowed.map fun q => match q with | exact name => name.length | below _ => 0).sum
      obtain ⟨q, hq, hmatch⟩ := h (List.replicate (longest + 1) c ++ separator :: suffix) (List.suffix_append ..)
      refine ⟨q, hq, ?_⟩
      cases q with
      | exact name =>
        have hlength : name.length ≤ longest := List.single_le_sum (by simp) _ (List.mem_map.mpr ⟨exact name, hq, rfl⟩)
        have heq : (List.replicate (longest + 1) c ++ separator :: suffix).length = name.length := congrArg List.length hmatch
        rw [List.length_append, List.length_replicate] at heq
        omega
      | below other => exact suffix_of_letters hc _ hmatch
  · rintro ⟨q, hq, hdominates⟩ x hx
    exact ⟨q, hq, hdominates.matches hx⟩

end NamePattern
end Uumi.Foundations
