import Mathlib

/-! JSON values and their compact text. No two values share a text, and a text followed by a
separator determines where its value ends. A floating-point number is held by its text. -/
namespace Uumi.Foundations

/-- A character of a number, be it `NaN` or `Infinity`. -/
def isNumberChar (c : Char) : Bool :=
  c.isDigit || ['.', '+', '-', 'e', 'N', 'a', 'I', 'n', 'f', 'i', 't', 'y'].contains c

def isFloatMark (c : Char) : Bool := ['.', 'e', 'N', 'I'].contains c

def isNumberHead (c : Char) : Bool := c.isDigit || ['-', 'N', 'I'].contains c

/-- The text of a floating-point number, which is not the text of an integer. -/
structure FloatText where
  chars : List Char
  starts : chars.head?.all isNumberHead = true
  number : chars.all isNumberChar = true
  marked : chars.any isFloatMark = true
  deriving DecidableEq

inductive Json where
  | null
  | bool (b : Bool)
  | int (n : Int)
  | float (f : FloatText)
  | str (s : String)
  | arr (items : List Json)
  | obj (fields : List (String × Json))

namespace Json

def controlEscape (n : Nat) : List Char :=
  if n = 8 then ['b'] else if n = 9 then ['t'] else if n = 10 then ['n']
  else if n = 12 then ['f'] else if n = 13 then ['r']
  else ['u', '0', '0', Nat.digitChar (n / 16), Nat.digitChar (n % 16)]

/-- One character of a string body. Characters above the control range other than the quote
and the backslash stand for themselves. -/
def escapeChar (c : Char) : List Char :=
  if c = '"' ∨ c = '\\' then ['\\', c]
  else if c.toNat < 32 then '\\' :: controlEscape c.toNat
  else [c]

def stringTail : List Char → List Char
  | [] => ['"']
  | c :: cs => escapeChar c ++ stringTail cs

def intText : Int → List Char
  | .ofNat n => Nat.toDigits 10 n
  | .negSucc n => '-' :: Nat.toDigits 10 (n + 1)

mutual
/-- The text of a value, with separators `,` and `:` and no blanks. -/
def chars : Json → List Char
  | null => "null".toList
  | bool true => "true".toList
  | bool false => "false".toList
  | int n => intText n
  | float f => f.chars
  | str s => '"' :: stringTail s.toList
  | arr [] => ['[', ']']
  | arr (v :: vs) => '[' :: (v.chars ++ itemsTail vs)
  | obj [] => ['{', '}']
  | obj ((k, v) :: fs) => '{' :: '"' :: (stringTail k.toList ++ ':' :: (v.chars ++ fieldsTail fs))

def itemsTail : List Json → List Char
  | [] => [']']
  | v :: vs => ',' :: (v.chars ++ itemsTail vs)

def fieldsTail : List (String × Json) → List Char
  | [] => ['}']
  | (k, v) :: fs => ',' :: '"' :: (stringTail k.toList ++ ':' :: (v.chars ++ fieldsTail fs))
end

def text (j : Json) : String := String.ofList j.chars

private def readUnit : List Char → Option (Option Char × List Char)
  | '"' :: r => some (none, r)
  | '\\' :: '"' :: r => some (some '"', r)
  | '\\' :: '\\' :: r => some (some '\\', r)
  | '\\' :: 'b' :: r => some (some (Char.ofNat 8), r)
  | '\\' :: 't' :: r => some (some (Char.ofNat 9), r)
  | '\\' :: 'n' :: r => some (some (Char.ofNat 10), r)
  | '\\' :: 'f' :: r => some (some (Char.ofNat 12), r)
  | '\\' :: 'r' :: r => some (some (Char.ofNat 13), r)
  | '\\' :: 'u' :: '0' :: '0' :: a :: b :: r =>
    some (some (Char.ofNat (16 * (a.toNat - 48) + (if b.isDigit then b.toNat - 48 else b.toNat - 87))), r)
  | c :: r => some (some c, r)
  | [] => none

private theorem readUnit_control (n : Nat) (h : n < 32) (r : List Char) :
    readUnit ('\\' :: (controlEscape n ++ r)) = some (some (Char.ofNat n), r) := by
  interval_cases n <;> rfl

private theorem readUnit_escape (c : Char) (r : List Char) :
    readUnit (escapeChar c ++ r) = some (some c, r) := by
  unfold escapeChar
  split
  · rename_i h
    rcases h with rfl | rfl <;> rfl
  · rename_i h
    split
    · rename_i hc
      have hr := readUnit_control c.toNat hc r
      rwa [Char.ofNat_toNat] at hr
    · obtain ⟨hq, hb⟩ := not_or.mp h
      simp [readUnit, hb]

private theorem readUnit_quote (r : List Char) : readUnit ('"' :: r) = some (none, r) := rfl

private theorem stringTail_prefix (cs ds r s : List Char)
    (h : stringTail cs ++ r = stringTail ds ++ s) : cs = ds ∧ r = s := by
  induction cs generalizing ds with
  | nil =>
    cases ds with
    | nil => exact ⟨rfl, by simpa [stringTail] using h⟩
    | cons d ds =>
      have hu := congrArg readUnit h
      simp only [stringTail, List.append_assoc, readUnit_escape, List.cons_append, List.nil_append,
        readUnit_quote] at hu
      cases hu
  | cons c cs ih =>
    cases ds with
    | nil =>
      have hu := congrArg readUnit h
      simp only [stringTail, List.append_assoc, readUnit_escape, List.cons_append, List.nil_append,
        readUnit_quote] at hu
      cases hu
    | cons d ds =>
      have hu := congrArg readUnit h
      simp only [stringTail, List.append_assoc, readUnit_escape, Option.some.injEq,
        Prod.mk.injEq] at hu
      obtain ⟨rfl, ht⟩ := hu
      obtain ⟨rfl, rfl⟩ := ih ds ht
      exact ⟨rfl, rfl⟩

/-- What may follow a value inside a larger text: nothing, or a character that no number has. -/
private def Stops (r : List Char) : Prop := ∀ c ∈ r.head?, isNumberChar c = false

private theorem isNumberChar_of_digit {c : Char} (h : c.isDigit = true) : isNumberChar c = true := by
  rw [isNumberChar, h, Bool.true_or]

private theorem toDigits_takeWhile (n : Nat) (r : List Char) (h : Stops r) :
    (Nat.toDigits 10 n ++ r).takeWhile Char.isDigit = Nat.toDigits 10 n := by
  rw [List.takeWhile_append_of_pos fun c hc =>
    Nat.isDigit_of_mem_toDigits (by decide) (Nat.le_refl 10) hc]
  cases r with
  | nil => simp
  | cons c r =>
    have hc : c.isDigit = false := by
      by_contra hd
      have := h c (by simp)
      rw [isNumberChar_of_digit (by simpa using hd)] at this
      cases this
    simp [hc]

private theorem toDigits_prefix (m n : Nat) (r s : List Char) (hr : Stops r) (hs : Stops s)
    (h : Nat.toDigits 10 m ++ r = Nat.toDigits 10 n ++ s) : m = n ∧ r = s := by
  have ht := congrArg (List.takeWhile Char.isDigit) h
  rw [toDigits_takeWhile m r hr, toDigits_takeWhile n s hs] at ht
  have hv := congrArg (Nat.ofDigitChars 10 · 0) ht
  simp only [Nat.ofDigitChars_ten_toDigits] at hv
  subst hv
  exact ⟨rfl, List.append_cancel_left h⟩

private theorem toDigits_head (n : Nat) : ∃ c cs, Nat.toDigits 10 n = c :: cs ∧ c.isDigit = true := by
  cases h : Nat.toDigits 10 n with
  | nil => exact absurd h Nat.toDigits_ne_nil
  | cons c cs =>
    exact ⟨c, cs, rfl, Nat.isDigit_of_mem_toDigits (by decide) (Nat.le_refl 10) (n := n) (by simp [h])⟩

private theorem intText_head (n : Int) : ∃ c cs, intText n = c :: cs ∧ (c = '-' ∨ c.isDigit = true) := by
  cases n with
  | ofNat n =>
    obtain ⟨c, cs, h, hc⟩ := toDigits_head n
    exact ⟨c, cs, h, .inr hc⟩
  | negSucc n => exact ⟨'-', _, rfl, .inl rfl⟩

private theorem intText_prefix (m n : Int) (r s : List Char) (hr : Stops r) (hs : Stops s)
    (h : intText m ++ r = intText n ++ s) : m = n ∧ r = s := by
  cases m with
  | ofNat m =>
    cases n with
    | ofNat n =>
      obtain ⟨rfl, rfl⟩ := toDigits_prefix m n r s hr hs h
      exact ⟨rfl, rfl⟩
    | negSucc n =>
      obtain ⟨c, cs, he, hc⟩ := toDigits_head m
      simp only [intText, he, List.cons_append, List.cons.injEq] at h
      exact absurd hc (by rw [h.1]; decide)
  | negSucc m =>
    cases n with
    | ofNat n =>
      obtain ⟨c, cs, he, hc⟩ := toDigits_head n
      simp only [intText, he, List.cons_append, List.cons.injEq] at h
      exact absurd hc (by rw [← h.1]; decide)
    | negSucc n =>
      simp only [intText, List.cons_append, List.cons.injEq, true_and] at h
      obtain ⟨hv, rfl⟩ := toDigits_prefix _ _ r s hr hs h
      exact ⟨by rw [Nat.succ.inj hv], rfl⟩

private theorem number_takeWhile (t r : List Char) (ht : ∀ c ∈ t, isNumberChar c = true) (hr : Stops r) :
    (t ++ r).takeWhile isNumberChar = t := by
  rw [List.takeWhile_append_of_pos ht]
  cases r with
  | nil => simp
  | cons c r => simp [hr c (by simp)]

private theorem intText_number (n : Int) : ∀ c ∈ intText n, isNumberChar c = true ∧ isFloatMark c = false := by
  have digit : ∀ c : Char, c.isDigit = true → isNumberChar c = true ∧ isFloatMark c = false := by
    intro c hc
    refine ⟨isNumberChar_of_digit hc, ?_⟩
    by_contra hm
    rw [Bool.not_eq_false, isFloatMark, List.contains_iff_mem] at hm
    simp only [List.mem_cons, List.not_mem_nil, or_false] at hm
    rcases hm with rfl | rfl | rfl | rfl <;> exact absurd hc (by decide)
  have digits : ∀ m, ∀ c ∈ Nat.toDigits 10 m, c.isDigit = true := fun m c hc =>
    Nat.isDigit_of_mem_toDigits (by decide) (Nat.le_refl 10) hc
  intro c hc
  cases n with
  | ofNat m => exact digit c (digits m c hc)
  | negSucc m =>
    rcases List.mem_cons.mp hc with rfl | hc
    · decide
    · exact digit c (digits _ c hc)

private theorem numbers_split (t u r s : List Char) (ht : ∀ c ∈ t, isNumberChar c = true)
    (hu : ∀ c ∈ u, isNumberChar c = true) (hr : Stops r) (hs : Stops s) (h : t ++ r = u ++ s) : t = u ∧ r = s := by
  have hw := congrArg (List.takeWhile isNumberChar) h
  rw [number_takeWhile t r ht hr, number_takeWhile u s hu hs] at hw
  subst hw
  exact ⟨rfl, List.append_cancel_left h⟩

private theorem intText_ne_float (n : Int) (f : FloatText) : intText n ≠ f.chars := by
  intro h
  obtain ⟨c, hc, hm⟩ := List.any_eq_true.mp f.marked
  rw [(intText_number n c (h ▸ hc)).2] at hm
  cases hm

private theorem float_number (f : FloatText) : ∀ c ∈ f.chars, isNumberChar c = true :=
  List.all_eq_true.mp f.number

private theorem float_head (f : FloatText) :
    ∃ c cs, f.chars = c :: cs ∧ (c = '-' ∨ c = 'N' ∨ c = 'I' ∨ c.isDigit = true) := by
  cases h : f.chars with
  | nil =>
    have hm := f.marked
    rw [h] at hm
    cases hm
  | cons c cs =>
    have hs := f.starts
    rw [h, List.head?_cons, Option.all_some, isNumberHead, Bool.or_eq_true, List.contains_iff_mem] at hs
    refine ⟨c, cs, rfl, ?_⟩
    rcases hs with hd | hm
    · exact .inr (.inr (.inr hd))
    · simp only [List.mem_cons, List.not_mem_nil, or_false] at hm
      rcases hm with hm | hm | hm
      · exact .inl hm
      · exact .inr (.inl hm)
      · exact .inr (.inr (.inl hm))

private def kind : Json → Fin 6
  | null => 0
  | bool _ => 1
  | int _ => 2
  | float _ => 2
  | str _ => 3
  | arr _ => 4
  | obj _ => 5

private def kindOf (c : Char) : Fin 6 :=
  if c = 'n' then 0 else if c = 't' ∨ c = 'f' then 1 else if c = '"' then 3
  else if c = '[' then 4 else if c = '{' then 5 else 2

private theorem kindOf_digit {c : Char} (h : c.isDigit = true) : kindOf c = 2 := by
  unfold kindOf
  split_ifs with h1 h2 h3 h4 h5
  · subst h1; exact absurd h (by decide)
  · rcases h2 with rfl | rfl <;> exact absurd h (by decide)
  · subst h3; exact absurd h (by decide)
  · subst h4; exact absurd h (by decide)
  · subst h5; exact absurd h (by decide)
  · rfl

private theorem chars_head (j : Json) :
    ∃ c cs, j.chars = c :: cs ∧ kindOf c = j.kind ∧ c ≠ ']' := by
  match j with
  | null => exact ⟨'n', _, rfl, rfl, by decide⟩
  | bool true => exact ⟨'t', _, rfl, rfl, by decide⟩
  | bool false => exact ⟨'f', _, rfl, rfl, by decide⟩
  | int n =>
    obtain ⟨c, cs, h, hc⟩ := intText_head n
    refine ⟨c, cs, by rw [chars, h], ?_⟩
    rcases hc with rfl | hc
    · exact ⟨rfl, by decide⟩
    · exact ⟨kindOf_digit hc, by rintro rfl; exact absurd hc (by decide)⟩
  | float f =>
    obtain ⟨c, cs, h, hc⟩ := float_head f
    refine ⟨c, cs, by rw [chars, h], ?_⟩
    rcases hc with rfl | rfl | rfl | hc
    · exact ⟨rfl, by decide⟩
    · exact ⟨rfl, by decide⟩
    · exact ⟨rfl, by decide⟩
    · exact ⟨kindOf_digit hc, by rintro rfl; exact absurd hc (by decide)⟩
  | str s => exact ⟨'"', _, by rw [chars], rfl, by decide⟩
  | arr [] => exact ⟨'[', _, by rw [chars], rfl, by decide⟩
  | arr (v :: vs) => exact ⟨'[', _, by rw [chars], rfl, by decide⟩
  | obj [] => exact ⟨'{', _, by rw [chars], rfl, by decide⟩
  | obj ((k, v) :: fs) => exact ⟨'{', _, by rw [chars], rfl, by decide⟩

private theorem kind_eq {j k : Json} {r s : List Char} (h : j.chars ++ r = k.chars ++ s) :
    j.kind = k.kind := by
  obtain ⟨c, cs, hc, hk, _⟩ := chars_head j
  obtain ⟨d, ds, hd, hl, _⟩ := chars_head k
  rw [hc, hd] at h
  rw [← hk, ← hl, (List.cons.inj h).1]

private theorem stops_itemsTail (vs : List Json) (r : List Char) : Stops (itemsTail vs ++ r) := by
  intro c hc
  cases vs with
  | nil => cases hc; decide
  | cons v vs => cases hc; decide

private theorem stops_fieldsTail (fs : List (String × Json)) (r : List Char) :
    Stops (fieldsTail fs ++ r) := by
  intro c hc
  cases fs with
  | nil => cases hc; decide
  | cons f fs => cases hc; decide

private theorem head_ne {c d : Char} {r s : List Char} (h : c ≠ d) : c :: r ≠ d :: s := by
  simp [h]

mutual
private theorem chars_split (j k : Json) (r s : List Char) (hr : Stops r) (hs : Stops s)
    (h : j.chars ++ r = k.chars ++ s) : j = k ∧ r = s := by
  have hk := kind_eq h
  match j, k with
  | null, null => exact ⟨rfl, List.append_cancel_left h⟩
  | bool true, bool true => exact ⟨rfl, List.append_cancel_left h⟩
  | bool false, bool false => exact ⟨rfl, List.append_cancel_left h⟩
  | bool true, bool false => exact absurd h (head_ne (by decide))
  | bool false, bool true => exact absurd h (head_ne (by decide))
  | int m, int n =>
    simp only [chars] at h
    obtain ⟨rfl, rfl⟩ := intText_prefix m n r s hr hs h
    exact ⟨rfl, rfl⟩
  | float f, float g =>
    obtain ⟨hc, rfl⟩ := numbers_split _ _ r s (float_number f) (float_number g) hr hs h
    cases f
    cases g
    cases hc
    exact ⟨rfl, rfl⟩
  | int n, float f =>
    exact absurd (numbers_split _ _ r s (fun c hc => (intText_number n c hc).1) (float_number f) hr hs h).1
      (intText_ne_float n f)
  | float f, int n =>
    exact absurd (numbers_split _ _ r s (float_number f) (fun c hc => (intText_number n c hc).1) hr hs h).1.symm
      (intText_ne_float n f)
  | str a, str b =>
    simp only [chars, List.cons_append, List.cons.injEq, true_and] at h
    obtain ⟨he, rfl⟩ := stringTail_prefix _ _ r s h
    exact ⟨by rw [String.toList_inj.mp he], rfl⟩
  | arr [], arr [] => exact ⟨rfl, List.append_cancel_left h⟩
  | arr [], arr (w :: ws) =>
    simp only [chars, List.cons_append, List.append_assoc] at h
    obtain ⟨c, cs, hc, _, hn⟩ := chars_head w
    rw [hc] at h
    exact absurd (List.cons.inj (List.cons.inj h).2).1.symm hn
  | arr (v :: vs), arr [] =>
    simp only [chars, List.cons_append, List.append_assoc] at h
    obtain ⟨c, cs, hc, _, hn⟩ := chars_head v
    rw [hc] at h
    exact absurd (List.cons.inj (List.cons.inj h).2).1 hn
  | arr (v :: vs), arr (w :: ws) =>
    simp only [chars, List.cons_append, List.append_assoc, List.cons.injEq, true_and] at h
    obtain ⟨rfl, ht⟩ := chars_split v w _ _ (stops_itemsTail vs r) (stops_itemsTail ws s) h
    obtain ⟨rfl, rfl⟩ := itemsTail_prefix vs ws r s ht
    exact ⟨rfl, rfl⟩
  | obj [], obj [] => exact ⟨rfl, List.append_cancel_left h⟩
  | obj [], obj ((k, w) :: fs) =>
    simp only [chars, List.cons_append] at h
    exact absurd (List.cons.inj h).2 (head_ne (by decide))
  | obj ((k, v) :: fs), obj [] =>
    simp only [chars, List.cons_append] at h
    exact absurd (List.cons.inj h).2 (head_ne (by decide))
  | obj ((k, v) :: fs), obj ((l, w) :: gs) =>
    simp only [chars, List.cons_append, List.append_assoc, List.cons.injEq, true_and] at h
    obtain ⟨hkl, ht⟩ := stringTail_prefix _ _ _ _ h
    obtain ⟨rfl, hf⟩ := chars_split v w _ _ (stops_fieldsTail fs r) (stops_fieldsTail gs s)
      (List.cons.inj ht).2
    obtain ⟨rfl, rfl⟩ := fieldsTail_prefix fs gs r s hf
    exact ⟨by rw [String.toList_inj.mp hkl], rfl⟩

private theorem itemsTail_prefix (vs ws : List Json) (r s : List Char)
    (h : itemsTail vs ++ r = itemsTail ws ++ s) : vs = ws ∧ r = s := by
  match vs, ws with
  | [], [] => exact ⟨rfl, List.append_cancel_left h⟩
  | [], w :: ws => exact absurd h (head_ne (by decide))
  | v :: vs, [] => exact absurd h (head_ne (by decide))
  | v :: vs, w :: ws =>
    simp only [itemsTail, List.cons_append, List.append_assoc, List.cons.injEq, true_and] at h
    obtain ⟨rfl, ht⟩ := chars_split v w _ _ (stops_itemsTail vs r) (stops_itemsTail ws s) h
    obtain ⟨rfl, rfl⟩ := itemsTail_prefix vs ws r s ht
    exact ⟨rfl, rfl⟩

private theorem fieldsTail_prefix (fs gs : List (String × Json)) (r s : List Char)
    (h : fieldsTail fs ++ r = fieldsTail gs ++ s) : fs = gs ∧ r = s := by
  match fs, gs with
  | [], [] => exact ⟨rfl, List.append_cancel_left h⟩
  | [], (l, w) :: gs => exact absurd h (head_ne (by decide))
  | (k, v) :: fs, [] => exact absurd h (head_ne (by decide))
  | (k, v) :: fs, (l, w) :: gs =>
    simp only [fieldsTail, List.cons_append, List.append_assoc, List.cons.injEq, true_and] at h
    obtain ⟨hkl, ht⟩ := stringTail_prefix _ _ _ _ h
    obtain ⟨rfl, hf⟩ := chars_split v w _ _ (stops_fieldsTail fs r) (stops_fieldsTail gs s)
      (List.cons.inj ht).2
    obtain ⟨rfl, rfl⟩ := fieldsTail_prefix fs gs r s hf
    exact ⟨by rw [String.toList_inj.mp hkl], rfl⟩
end

/-- Equal texts come from equal values. -/
theorem text_injective : Function.Injective text := by
  intro j k h
  have hc : j.chars = k.chars := String.ofList_injective h
  exact (chars_split j k [] [] (by simp [Stops]) (by simp [Stops]) (by simpa using hc)).1

mutual
def sortKeys : Json → Json
  | arr items => arr (sortItems items)
  | obj fields => obj ((sortFields fields).insertionSort fun a b => a.1 ≤ b.1)
  | null => null
  | bool b => bool b
  | int n => int n
  | float f => float f
  | str s => str s

def sortItems : List Json → List Json
  | [] => []
  | v :: vs => v.sortKeys :: sortItems vs

def sortFields : List (String × Json) → List (String × Json)
  | [] => []
  | (k, v) :: fs => (k, v.sortKeys) :: sortFields fs
end

def field? (key : String) : Json → Option Json
  | obj fields => fields.lookup key
  | _ => none

end Json
end Uumi.Foundations
