import Mathlib

/-! Exclusive claims: each resource has at most one holder, and the holder is the one owner that
is entitled to it. -/
namespace Uumi.Foundations
variable {R O : Type}

/-- `holder` names who has a resource, `demand` the resource that an owner is entitled to. -/
structure Exclusive (holder : R → Option O) (demand : O → Option R) : Prop where
  agree : ∀ resource owner, holder resource = some owner ↔ demand owner = some resource

namespace Exclusive
variable {holder : R → Option O} {demand : O → Option R}

/-- Nobody holds anything at first. -/
theorem initial : Exclusive (fun _ : R => (none : Option O)) fun _ => none := ⟨fun _ _ => by simp⟩

/-- Two owners never demand one resource. -/
theorem unique (h : Exclusive holder demand) {resource : R} {a b : O} (ha : demand a = some resource)
    (hb : demand b = some resource) : a = b := by
  have hh := (h.agree resource a).mpr ha
  rw [(h.agree resource b).mpr hb, Option.some.injEq] at hh
  exact hh.symm

variable [DecidableEq O]

/-- The owner of a resource keeps it. -/
theorem keep (h : Exclusive holder demand) {resource : R} {owner : O}
    (owned : demand owner = some resource) :
    Exclusive holder (Function.update demand owner (some resource)) := by
  rw [← owned, Function.update_eq_self]
  exact h

/-- An idle owner stays idle. -/
theorem rest (h : Exclusive holder demand) {owner : O} (idle : demand owner = none) :
    Exclusive holder (Function.update demand owner none) := by
  rw [← idle, Function.update_eq_self]
  exact h

variable [DecidableEq R]

/-- An idle owner takes a free resource. -/
theorem acquire (h : Exclusive holder demand) {resource : R} {owner : O} (free : holder resource = none)
    (idle : demand owner = none) :
    Exclusive (Function.update holder resource (some owner))
      (Function.update demand owner (some resource)) := by
  refine ⟨fun x o => ?_⟩
  by_cases hx : x = resource
  · subst hx
    by_cases ho : o = owner
    · subst ho
      simp
    · rw [Function.update_self, Function.update_of_ne ho, ← h.agree, free]
      simp [Ne.symm ho]
  · by_cases ho : o = owner
    · subst ho
      rw [Function.update_self, Function.update_of_ne hx, h.agree, idle]
      simp [Ne.symm hx]
    · rw [Function.update_of_ne hx, Function.update_of_ne ho]
      exact h.agree x o

/-- The owner of a resource gives it back. -/
theorem release (h : Exclusive holder demand) {resource : R} {owner : O}
    (owned : demand owner = some resource) :
    Exclusive (Function.update holder resource none) (Function.update demand owner none) := by
  refine ⟨fun x o => ?_⟩
  by_cases hx : x = resource
  · subst hx
    rw [Function.update_self]
    by_cases ho : o = owner
    · subst ho
      simp
    · rw [Function.update_of_ne ho]
      exact ⟨nofun, fun hd => absurd (h.unique hd owned) ho⟩
  · rw [Function.update_of_ne hx]
    by_cases ho : o = owner
    · subst ho
      rw [Function.update_self, h.agree, owned, Option.some.injEq]
      exact ⟨fun he => absurd he.symm hx, nofun⟩
    · rw [Function.update_of_ne ho]
      exact h.agree x o

end Exclusive
end Uumi.Foundations
