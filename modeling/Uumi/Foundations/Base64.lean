import Mathlib

/-! Base64 as it stands in URLs: written without padding, and read leniently once the padding is put back. -/
namespace Uumi.Foundations.Base64

def digit (v : Nat) : Char :=
  if v < 26 then Char.ofNat (65 + v)
  else if v < 52 then Char.ofNat (71 + v)
  else if v < 62 then Char.ofNat (v - 4)
  else if v = 62 then '-' else '_'

def value (c : Char) : Option Nat :=
  if 'A' ≤ c ∧ c ≤ 'Z' then some (c.toNat - 65)
  else if 'a' ≤ c ∧ c ≤ 'z' then some (c.toNat - 71)
  else if '0' ≤ c ∧ c ≤ '9' then some (c.toNat + 4)
  else if c = '-' ∨ c = '+' then some 62
  else if c = '_' ∨ c = '/' then some 63 else none

private theorem value_digit_below : ∀ v < 64, value (digit v) = some v ∧ digit v ≠ '=' ∧ digit v ≠ '.' ∧ digit v < '\x80' := by
  decide

private theorem value_digit {v : Nat} (h : v < 64) : value (digit v) = some v := (value_digit_below v h).1

private theorem digit_ne_pad {v : Nat} (h : v < 64) : digit v ≠ '=' := (value_digit_below v h).2.1

def encode : List UInt8 → List Char
  | [] => []
  | [a] => [digit (a.toNat / 4), digit (a.toNat % 4 * 16)]
  | [a, b] => [digit (a.toNat / 4), digit (a.toNat % 4 * 16 + b.toNat / 16), digit (b.toNat % 16 * 4)]
  | a :: b :: c :: rest => digit (a.toNat / 4) :: digit (a.toNat % 4 * 16 + b.toNat / 16) ::
      digit (b.toNat % 16 * 4 + c.toNat / 64) :: digit (c.toNat % 64) :: encode rest

def padded (text : List Char) : List Char := text ++ List.replicate ((4 - text.length % 4) % 4) '='

/-- Every digit that is written belongs to some six-bit value. -/
theorem encode_digits (bytes : List UInt8) : ∀ c ∈ encode bytes, ∃ v < 64, c = digit v := by
  fun_induction encode bytes with
  | case1 => exact fun c hc => absurd hc List.not_mem_nil
  | case2 a =>
    have ha := a.toNat_lt
    intro c hc
    simp only [List.mem_cons, List.not_mem_nil, or_false] at hc
    rcases hc with rfl | rfl
    · exact ⟨_, by omega, rfl⟩
    · exact ⟨_, by omega, rfl⟩
  | case3 a b =>
    have ha := a.toNat_lt
    have hb := b.toNat_lt
    intro c hc
    simp only [List.mem_cons, List.not_mem_nil, or_false] at hc
    rcases hc with rfl | rfl | rfl
    · exact ⟨_, by omega, rfl⟩
    · exact ⟨_, by omega, rfl⟩
    · exact ⟨_, by omega, rfl⟩
  | case4 a b c rest ih =>
    have ha := a.toNat_lt
    have hb := b.toNat_lt
    have hc := c.toNat_lt
    intro d hd
    simp only [List.mem_cons] at hd
    rcases hd with rfl | rfl | rfl | rfl | hd
    · exact ⟨_, by omega, rfl⟩
    · exact ⟨_, by omega, rfl⟩
    · exact ⟨_, by omega, rfl⟩
    · exact ⟨_, by omega, rfl⟩
    · exact ih d hd

/-- The bytes of a text from a position in a group of four digits on, with the bits that are left and the padding
seen. Characters that are no digits are skipped, and enough padding ends the text. -/
def decodeFrom : Nat → Nat → Nat → List Char → Option (List UInt8)
  | position, _, _, [] => if position = 0 then some [] else none
  | position, left, pads, c :: cs =>
    if c = '=' then
      if position < 2 then decodeFrom position left pads cs
      else if 4 ≤ position + (pads + 1) then some [] else decodeFrom position left (pads + 1) cs
    else match value c with
      | none => decodeFrom position left pads cs
      | some v => match position with
        | 0 => decodeFrom 1 v 0 cs
        | 1 => (decodeFrom 2 (v % 16) 0 cs).map (UInt8.ofNat (left * 4 + v / 16) :: ·)
        | 2 => (decodeFrom 3 (v % 4) 0 cs).map (UInt8.ofNat (left * 16 + v / 4) :: ·)
        | _ => (decodeFrom 0 0 0 cs).map (UInt8.ofNat (left * 64 + v) :: ·)

def decode (text : List Char) : Option (List UInt8) :=
  if text.all (· < '\x80') then decodeFrom 0 0 0 text else none

section
variable {v left pads : Nat} {cs : List Char}

private theorem decodeFrom_first (h : v < 64) : decodeFrom 0 left pads (digit v :: cs) = decodeFrom 1 v 0 cs := by
  rw [decodeFrom, if_neg (digit_ne_pad h), value_digit h]
  rfl

private theorem decodeFrom_second (h : v < 64) : decodeFrom 1 left pads (digit v :: cs) =
    (decodeFrom 2 (v % 16) 0 cs).map (UInt8.ofNat (left * 4 + v / 16) :: ·) := by
  rw [decodeFrom, if_neg (digit_ne_pad h), value_digit h]
  rfl

private theorem decodeFrom_third (h : v < 64) : decodeFrom 2 left pads (digit v :: cs) =
    (decodeFrom 3 (v % 4) 0 cs).map (UInt8.ofNat (left * 16 + v / 4) :: ·) := by
  rw [decodeFrom, if_neg (digit_ne_pad h), value_digit h]
  rfl

private theorem decodeFrom_fourth (h : v < 64) : decodeFrom 3 left pads (digit v :: cs) =
    (decodeFrom 0 0 0 cs).map (UInt8.ofNat (left * 64 + v) :: ·) := by
  rw [decodeFrom, if_neg (digit_ne_pad h), value_digit h]
  rfl

end

private theorem byte_eq {a : UInt8} {n : Nat} (h : n = a.toNat) : UInt8.ofNat n = a := by
  rw [h, UInt8.ofNat_toNat]

private theorem decodeFrom_encode (bytes : List UInt8) : decodeFrom 0 0 0 (padded (encode bytes)) = some bytes := by
  fun_induction encode bytes with
  | case1 => rfl
  | case2 a =>
    have ha := a.toNat_lt
    have hbyte : UInt8.ofNat (a.toNat / 4 * 4 + a.toNat % 4 * 16 / 16) = a := byte_eq (by omega)
    change decodeFrom 0 0 0 (digit _ :: digit _ :: ['=', '=']) = _
    rw [decodeFrom_first (by omega), decodeFrom_second (by omega), hbyte]
    rfl
  | case3 a b =>
    have ha := a.toNat_lt
    have hb := b.toNat_lt
    have hfirst : UInt8.ofNat (a.toNat / 4 * 4 + (a.toNat % 4 * 16 + b.toNat / 16) / 16) = a := byte_eq (by omega)
    have hsecond : UInt8.ofNat ((a.toNat % 4 * 16 + b.toNat / 16) % 16 * 16 + b.toNat % 16 * 4 / 4) = b :=
      byte_eq (by omega)
    change decodeFrom 0 0 0 (digit _ :: digit _ :: digit _ :: ['=']) = _
    rw [decodeFrom_first (by omega), decodeFrom_second (by omega), decodeFrom_third (by omega), hfirst, hsecond]
    rfl
  | case4 a b c rest ih =>
    have ha := a.toNat_lt
    have hb := b.toNat_lt
    have hc := c.toNat_lt
    have hfirst : UInt8.ofNat (a.toNat / 4 * 4 + (a.toNat % 4 * 16 + b.toNat / 16) / 16) = a := byte_eq (by omega)
    have hsecond : UInt8.ofNat ((a.toNat % 4 * 16 + b.toNat / 16) % 16 * 16 +
        (b.toNat % 16 * 4 + c.toNat / 64) / 4) = b := byte_eq (by omega)
    have hthird : UInt8.ofNat ((b.toNat % 16 * 4 + c.toNat / 64) % 4 * 64 + c.toNat % 64) = c := byte_eq (by omega)
    have hpad : padded (digit (a.toNat / 4) :: digit (a.toNat % 4 * 16 + b.toNat / 16) ::
        digit (b.toNat % 16 * 4 + c.toNat / 64) :: digit (c.toNat % 64) :: encode rest) =
        digit (a.toNat / 4) :: digit (a.toNat % 4 * 16 + b.toNat / 16) ::
        digit (b.toNat % 16 * 4 + c.toNat / 64) :: digit (c.toNat % 64) :: padded (encode rest) := by
      simp only [padded, List.length_cons, List.cons_append, Nat.add_assoc, Nat.add_mod_right]
    rw [hpad, decodeFrom_first (by omega), decodeFrom_second (by omega), decodeFrom_third (by omega),
      decodeFrom_fourth (by omega), ih, hfirst, hsecond, hthird]
    rfl

/-- Reading undoes writing. -/
theorem decode_encode (bytes : List UInt8) : decode (padded (encode bytes)) = some bytes := by
  have hascii : (padded (encode bytes)).all (· < '\x80') = true := by
    rw [List.all_eq_true]
    intro c hc
    rcases List.mem_append.mp hc with hc | hc
    · obtain ⟨v, hv, rfl⟩ := encode_digits bytes c hc
      exact decide_eq_true (value_digit_below v hv).2.2.2
    · rw [List.eq_of_mem_replicate hc]
      rfl
  rw [decode, if_pos hascii, decodeFrom_encode]

/-- What is written has no dot. -/
theorem dot_notMem_encode (bytes : List UInt8) : '.' ∉ encode bytes := by
  intro h
  obtain ⟨v, hv, hdot⟩ := encode_digits bytes '.' h
  exact (value_digit_below v hv).2.2.1 hdot.symm

end Uumi.Foundations.Base64
