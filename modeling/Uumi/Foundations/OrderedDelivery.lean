import Mathlib

/-! Ordered delivery: the items of numbered streams are settled one after the other, and a count for each
stream says how many of them are. -/
namespace Uumi.Foundations

/-- The places of some items in their streams, which items are settled, and how many of each stream are. -/
structure Delivery (ι κ : Type) where
  place : ι → Option (κ × Nat)
  settled : ι → Prop
  count : κ → Nat

namespace Delivery
variable {ι κ : Type}

/-- No two items share a place, no place before a taken one is free, and the settled items of a stream
are its first ones. -/
structure Ordered (d : Delivery ι κ) : Prop where
  unique : ∀ i j k n, d.place i = some (k, n) → d.place j = some (k, n) → i = j
  dense : ∀ i k n, d.place i = some (k, n) → ∀ m < n, ∃ j, d.place j = some (k, m)
  counted : ∀ k m, m < d.count k → ∃ i, d.place i = some (k, m)
  settled : ∀ i k n, d.place i = some (k, n) → (d.settled i ↔ n < d.count k)

variable [DecidableEq ι] [DecidableEq κ]

/-- An item joins the end of its stream, or the next item of a stream is settled, or nothing happens to either. -/
inductive Step (d d' : Delivery ι κ) : Prop
  | stay (place : d'.place = d.place) (settled : ∀ i, d'.settled i ↔ d.settled i) (count : d'.count = d.count)
  | add (i : ι) (k : κ) (n : Nat) (free : d.place i = none) (fresh : ¬ d.settled i)
      (last : ∀ j, d.place j ≠ some (k, n)) (full : ∀ m < n, ∃ j, d.place j = some (k, m))
      (place : d'.place = Function.update d.place i (some (k, n)))
      (settled : ∀ j, d'.settled j ↔ d.settled j) (count : d'.count = d.count)
  | settle (i : ι) (k : κ) (next : d.place i = some (k, d.count k)) (place : d'.place = d.place)
      (settled : ∀ j, d'.settled j ↔ j = i ∨ d.settled j)
      (count : d'.count = Function.update d.count k (d.count k + 1))

variable {d d' : Delivery ι κ}

omit [DecidableEq ι] [DecidableEq κ] in
/-- Before an item that is settled, or is next, all items of its stream are settled. -/
theorem Ordered.earlier (h : d.Ordered) {i : ι} {k : κ} {n : Nat} (hi : d.place i = some (k, n))
    (hn : n ≤ d.count k) {m : Nat} (hm : m < n) : ∃ j, d.place j = some (k, m) ∧ d.settled j := by
  obtain ⟨j, hj⟩ := h.dense i k n hi m hm
  exact ⟨j, hj, (h.settled j k m hj).mpr (by omega)⟩

/-- A step keeps the order of deliveries. -/
theorem Ordered.step (h : d.Ordered) (hs : Step d d') : d'.Ordered := by
  cases hs with
  | stay place settled count =>
    refine ⟨?_, ?_, ?_, fun i k n hi => ?_⟩
    · rw [place]
      exact h.unique
    · rw [place]
      exact h.dense
    · rw [place, count]
      exact h.counted
    · rw [place] at hi
      rw [settled, count]
      exact h.settled i k n hi
  | add i k n free fresh last full place settled count =>
    have old : ∀ j l m, d.place j = some (l, m) → d'.place j = some (l, m) := by
      intro j l m hj
      have hne : j ≠ i := by
        rintro rfl
        rw [free] at hj
        cases hj
      rw [place, Function.update_of_ne hne, hj]
    have new : ∀ j l m, d'.place j = some (l, m) → (j = i ∧ l = k ∧ m = n) ∨ d.place j = some (l, m) := by
      intro j l m hj
      by_cases hji : j = i
      · subst hji
        rw [place, Function.update_self] at hj
        cases hj
        exact .inl ⟨rfl, rfl, rfl⟩
      · rw [place, Function.update_of_ne hji] at hj
        exact .inr hj
    refine ⟨fun a b l m ha hb => ?_, fun a l m ha p hp => ?_, fun l m hm => ?_, fun a l m ha => ?_⟩
    · rcases new a l m ha with ⟨rfl, rfl, rfl⟩ | ha
      · rcases new b _ _ hb with ⟨rfl, _, _⟩ | hb
        · rfl
        · exact absurd hb (last b)
      · rcases new b l m hb with ⟨rfl, rfl, rfl⟩ | hb
        · exact absurd ha (last a)
        · exact h.unique a b l m ha hb
    · rcases new a l m ha with ⟨rfl, rfl, rfl⟩ | ha
      · obtain ⟨j, hj⟩ := full p hp
        exact ⟨j, old j _ _ hj⟩
      · obtain ⟨j, hj⟩ := h.dense a l m ha p hp
        exact ⟨j, old j _ _ hj⟩
    · rw [count] at hm
      obtain ⟨j, hj⟩ := h.counted l m hm
      exact ⟨j, old j _ _ hj⟩
    · rw [settled, count]
      rcases new a l m ha with ⟨rfl, rfl, rfl⟩ | ha
      · -- an item at the end of its stream lies behind the settled ones
        refine iff_of_false fresh fun hlt => ?_
        obtain ⟨j, hj⟩ := h.counted l m hlt
        exact last j hj
      · exact h.settled a l m ha
  | settle i k next place settled count =>
    refine ⟨?_, ?_, fun l m hm => ?_, fun a l m ha => ?_⟩
    · rw [place]
      exact h.unique
    · rw [place]
      exact h.dense
    · rw [place]
      by_cases hl : l = k
      · subst hl
        rw [count, Function.update_self] at hm
        rcases Nat.lt_succ_iff_lt_or_eq.mp hm with hm | rfl
        · exact h.counted l m hm
        · exact ⟨i, next⟩
      · rw [count, Function.update_of_ne hl] at hm
        exact h.counted l m hm
    · rw [place] at ha
      rw [settled, count, h.settled a l m ha]
      by_cases hl : l = k
      · subst hl
        rw [Function.update_self]
        constructor
        · rintro (rfl | hm)
          · rw [next] at ha
            cases ha
            exact Nat.lt_succ_self _
          · exact Nat.lt_succ_of_lt hm
        · intro hm
          rcases Nat.lt_succ_iff_lt_or_eq.mp hm with hm | rfl
          · exact .inr hm
          · exact .inl (h.unique a i _ _ ha next)
      · rw [Function.update_of_ne hl]
        refine or_iff_right fun hai => hl ?_
        subst hai
        rw [next] at ha
        cases ha
        rfl

/-- A count goes forward by one, or stays. -/
theorem Step.count (h : Step d d') (k : κ) : d'.count k = d.count k ∨ d'.count k = d.count k + 1 := by
  cases h with
  | stay _ _ count => exact .inl (by rw [count])
  | add _ _ _ _ _ _ _ _ _ count => exact .inl (by rw [count])
  | settle i l _ _ _ count =>
    rw [count]
    by_cases hk : k = l
    · subst hk
      exact .inr (Function.update_self ..)
    · exact .inl (Function.update_of_ne hk ..)

/-- What is settled stays settled. -/
theorem Step.settled (h : Step d d') {i : ι} (hi : d.settled i) : d'.settled i := by
  cases h with
  | stay _ settled _ => exact (settled i).mpr hi
  | add _ _ _ _ _ _ _ _ settled _ => exact (settled i).mpr hi
  | settle _ _ _ _ settled _ => exact (settled i).mpr (.inr hi)

end Delivery
end Uumi.Foundations
