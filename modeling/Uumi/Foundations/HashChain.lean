import Mathlib

/-! Hash chains. Every entry has a number, the hash of the entry before it and a hash of its own, which its checksum
recomputes from what it says. -/
namespace Uumi.Foundations

/-- How the entries of a chain are read. -/
structure ChainFormat (α η : Type) where
  sequence : α → Nat
  previous : α → η
  hash : α → η
  checksum : α → η

namespace ChainFormat
variable {α η : Type} (format : ChainFormat α η)

/-- The entries are numbered from `n` on, the first one comes after the hash `p`, and every checksum is right. -/
def Linked : Nat → η → List α → Prop
  | _, _, [] => True
  | n, p, e :: es => format.sequence e = n ∧ format.previous e = p ∧ format.hash e = format.checksum e ∧
      Linked (n + 1) (format.hash e) es

def tip (p : η) (entries : List α) : η := (entries.getLast?.map format.hash).getD p

variable {format} {n : Nat} {p : η} {es : List α} {e : α}

private theorem tip_cons : format.tip p (e :: es) = format.tip (format.hash e) es := by
  cases es with
  | nil => rfl
  | cons f es => simp [tip, List.getLast?_eq_some_getLast]

/-- A chain is extended by an entry with the next number, the hash of the last one and a right checksum. -/
theorem linked_append : format.Linked n p (es ++ [e]) ↔
    format.Linked n p es ∧ format.sequence e = n + es.length ∧ format.previous e = format.tip p es ∧
      format.hash e = format.checksum e := by
  induction es generalizing n p with
  | nil => simp [Linked, tip]
  | cons f es ih =>
    rw [List.cons_append, Linked, Linked, ih, tip_cons, List.length_cons]
    constructor
    · rintro ⟨h1, h2, h3, h4, h5, h6⟩
      exact ⟨⟨h1, h2, h3, h4⟩, by omega, h6⟩
    · rintro ⟨⟨h1, h2, h3, h4⟩, h5, h6⟩
      exact ⟨h1, h2, h3, h4, by omega, h6⟩

/-- The number of an entry is its place. -/
theorem Linked.sequence_eq (h : format.Linked n p es) {i : Nat} (hi : es[i]? = some e) : format.sequence e = n + i := by
  induction es generalizing n p i with
  | nil => cases hi
  | cons f es ih =>
    obtain ⟨hn, -, -, h⟩ := h
    cases i with
    | zero =>
      cases hi
      exact hn
    | succ i =>
      rw [ih h hi]
      omega

/-- An entry refers to the one before it. -/
theorem Linked.previous_eq (h : format.Linked n p es) {i : Nat} (hi : es[i]? = some e) :
    format.previous e = format.tip p (es.take i) := by
  induction es generalizing n p i with
  | nil => cases hi
  | cons f es ih =>
    obtain ⟨-, hp, -, h⟩ := h
    cases i with
    | zero =>
      cases hi
      exact hp
    | succ i => rw [List.take_succ_cons, tip_cons, ih h hi]

/-- Every entry of a chain has its own checksum. -/
theorem Linked.checked (h : format.Linked n p es) (he : e ∈ es) : format.hash e = format.checksum e := by
  induction es generalizing n p with
  | nil => cases he
  | cons f es ih =>
    obtain ⟨-, -, hs, h⟩ := h
    rcases List.mem_cons.mp he with rfl | he
    · exact hs
    · exact ih h he

/-- The entries of a chain are numbered from its start. -/
theorem Linked.sequence_lt (h : format.Linked n p es) (he : e ∈ es) : format.sequence e < n + es.length := by
  obtain ⟨i, hi⟩ := List.mem_iff_getElem?.mp he
  rw [h.sequence_eq hi]
  have := (List.getElem?_eq_some_iff.mp hi).1
  omega

/-- The entries of a chain are in the order of their numbers. -/
theorem Linked.pairwise (h : format.Linked n p es) : es.Pairwise fun a b => format.sequence a < format.sequence b := by
  rw [List.pairwise_iff_getElem]
  intro i j hi hj hij
  rw [h.sequence_eq (List.getElem?_eq_getElem hi), h.sequence_eq (List.getElem?_eq_getElem hj)]
  omega

end ChainFormat
end Uumi.Foundations
