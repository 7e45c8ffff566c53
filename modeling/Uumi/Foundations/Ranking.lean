import Mathlib

/-! Places in a sorted list. An item is among the first ones exactly when few enough items come before it. -/
namespace Uumi.Foundations
variable {α κ : Type} [LinearOrder κ] (key : α → κ)

def ranked (items : List α) : List α := items.insertionSort fun a b => key a ≤ key b

/-- How many items come before one with this key. -/
def ahead (items : List α) (k : κ) : Nat := items.countP fun a => key a < k

/-- Ranking rearranges the items. -/
theorem ranked_perm (items : List α) : (ranked key items).Perm items := List.perm_insertionSort _ _

@[simp] theorem mem_ranked {items : List α} {a : α} : a ∈ ranked key items ↔ a ∈ items :=
  (ranked_perm key items).mem_iff

variable {key}

/-- Items with different keys are sorted strictly. -/
theorem ranked_pairwise {items : List α} (distinct : items.Pairwise fun a b => key a ≠ key b) :
    (ranked key items).Pairwise fun a b => key a < key b := by
  have : IsTrans α fun a b => key a ≤ key b := ⟨fun _ _ _ => le_trans⟩
  have : Std.Total fun a b : α => key a ≤ key b := ⟨fun _ _ => le_total _ _⟩
  have sorted := List.pairwise_insertionSort (fun a b => key a ≤ key b) items
  have apart := (ranked_perm key items).symm.pairwise distinct fun h => h.symm
  refine (sorted.and apart).imp ?_
  rintro a b ⟨hle, hne⟩
  exact lt_of_le_of_ne hle hne

/-- Sorted items stay as they are. -/
theorem ranked_of_pairwise {items : List α} (sorted : items.Pairwise fun a b => key a < key b) :
    ranked key items = items := by
  have distinct := sorted.imp (S := fun a b => key a ≠ key b) fun h => h.ne
  exact (ranked_perm key items).eq_of_pairwise (fun _ _ _ _ hab hba => absurd hab hba.asymm) (ranked_pairwise distinct) sorted

private theorem mem_take_of_pairwise {items : List α} (sorted : items.Pairwise fun a b => key a < key b) {a : α}
    (ha : a ∈ items) (n : Nat) : a ∈ items.take n ↔ ahead key items (key a) < n := by
  induction items generalizing n with
  | nil => cases ha
  | cons b items ih =>
    obtain ⟨hb, sorted⟩ := List.pairwise_cons.mp sorted
    cases n with
    | zero => simp
    | succ n =>
      rw [List.take_succ_cons, List.mem_cons, ahead, List.countP_cons]
      rcases List.mem_cons.mp ha with rfl | hmem
      · have hzero : items.countP (fun c => key c < key a) = 0 := by
          rw [List.countP_eq_zero]
          intro c hc
          simpa using (hb c hc).le
        simp [hzero]
      · have hlt := hb a hmem
        have hne : a ≠ b := by
          rintro rfl
          exact lt_irrefl _ hlt
        rw [← ahead, if_pos (by simpa using hlt), Nat.add_lt_add_iff_right, ← ih sorted hmem n]
        exact ⟨fun h => h.resolve_left hne, .inr⟩

/-- An item is among the first `n` in order exactly when fewer than `n` come before it. -/
theorem mem_take_ranked {items : List α} (distinct : items.Pairwise fun a b => key a ≠ key b) {a : α}
    (ha : a ∈ items) (n : Nat) : a ∈ (ranked key items).take n ↔ ahead key items (key a) < n := by
  rw [mem_take_of_pairwise (ranked_pairwise distinct) ((mem_ranked key).mpr ha), ahead, (ranked_perm key items).countP_eq, ahead]

end Uumi.Foundations
