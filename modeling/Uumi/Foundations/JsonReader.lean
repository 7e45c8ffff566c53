import Uumi.Foundations.Json

/-! JSON values as ASCII texts, and a reader of JSON texts that tolerates blanks and repeated keys. An object of
scalars is read back from its text. -/
namespace Uumi.Foundations.Json

def hexDigits (n : Nat) : List Char :=
  [Nat.digitChar (n / 4096 % 16), Nat.digitChar (n / 256 % 16), Nat.digitChar (n / 16 % 16), Nat.digitChar (n % 16)]

def unitEscape (n : Nat) : List Char := '\\' :: 'u' :: hexDigits n

def asciiChar (c : Char) : List Char :=
  if c.toNat < 127 then [c]
  else if c.toNat < 65536 then unitEscape c.toNat
  else unitEscape (55296 + (c.toNat - 65536) / 1024) ++ unitEscape (56320 + (c.toNat - 65536) % 1024)

def asciiText (cs : List Char) : List Char := cs.flatMap asciiChar

def ascii (j : Json) : String := String.ofList (asciiText j.chars)

@[simp] theorem asciiText_append (cs ds : List Char) : asciiText (cs ++ ds) = asciiText cs ++ asciiText ds :=
  List.flatMap_append

private theorem asciiText_cons {c : Char} {cs : List Char} (h : c.toNat < 127) : asciiText (c :: cs) = c :: asciiText cs := by
  rw [asciiText, List.flatMap_cons, asciiChar, if_pos h]
  rfl

private theorem asciiText_self {cs : List Char} (h : ∀ c ∈ cs, c.toNat < 127) : asciiText cs = cs := by
  induction cs with
  | nil => rfl
  | cons c cs ih => rw [asciiText_cons (h c List.mem_cons_self), ih fun d hd => h d (List.mem_cons_of_mem _ hd)]

def hexValue (c : Char) : Option Nat :=
  if c.isDigit then some (c.toNat - 48)
  else if 'a' ≤ c ∧ c ≤ 'f' then some (c.toNat - 87)
  else if 'A' ≤ c ∧ c ≤ 'F' then some (c.toNat - 55) else none

def scanHex : List Char → Option (Nat × List Char)
  | a :: b :: c :: d :: r => do
    let a ← hexValue a
    let b ← hexValue b
    let c ← hexValue c
    let d ← hexValue d
    return (a * 4096 + b * 256 + c * 16 + d, r)
  | _ => none

def scanEscape : List Char → Option (Char × List Char)
  | '"' :: r => some ('"', r)
  | '\\' :: r => some ('\\', r)
  | '/' :: r => some ('/', r)
  | 'b' :: r => some (Char.ofNat 8, r)
  | 'f' :: r => some (Char.ofNat 12, r)
  | 'n' :: r => some (Char.ofNat 10, r)
  | 'r' :: r => some (Char.ofNat 13, r)
  | 't' :: r => some (Char.ofNat 9, r)
  | 'u' :: r => do
    let (n, r) ← scanHex r
    if 55296 ≤ n ∧ n < 56320 then
      match r with
      | '\\' :: 'u' :: r => do
        let (m, r) ← scanHex r
        if 56320 ≤ m ∧ m < 57344 then some (Char.ofNat (65536 + (n - 55296) * 1024 + (m - 56320)), r) else none
      | _ => none
    else if 56320 ≤ n ∧ n < 57344 then none else some (Char.ofNat n, r)
  | _ => none

def scanString : Nat → List Char → Option (List Char × List Char)
  | 0, _ => none
  | fuel + 1, text =>
    match text with
    | [] => none
    | c :: r =>
      if c = '"' then some ([], r)
      else do
        let (d, r) ← if c = '\\' then scanEscape r else if c.toNat < 32 then none else some (c, r)
        let (cs, r) ← scanString fuel r
        return (d :: cs, r)

private theorem hexValue_digitChar : ∀ d < 16, hexValue (Nat.digitChar d) = some d := by
  decide

private theorem scanHex_hexDigits {n : Nat} (h : n < 65536) (r : List Char) : scanHex (hexDigits n ++ r) = some (n, r) := by
  have hvalue : n / 4096 % 16 * 4096 + n / 256 % 16 * 256 + n / 16 % 16 * 16 + n % 16 = n := by omega
  rw [hexDigits, List.cons_append, List.cons_append, List.cons_append, List.cons_append, List.nil_append, scanHex,
    hexValue_digitChar _ (Nat.mod_lt _ (by decide)), hexValue_digitChar _ (Nat.mod_lt _ (by decide)),
    hexValue_digitChar _ (Nat.mod_lt _ (by decide)), hexValue_digitChar _ (Nat.mod_lt _ (by decide))]
  exact congrArg (fun m => some (m, r)) hvalue

private theorem toNat_valid (c : Char) : c.toNat < 55296 ∨ (57343 < c.toNat ∧ c.toNat < 1114112) := by
  obtain ⟨unit, h⟩ := c
  rw [UInt32.isValidChar, Nat.isValidChar] at h
  rw [Char.toNat]
  omega

private theorem asciiText_control : ∀ n < 32, asciiText (controlEscape n) = controlEscape n := by
  decide

private theorem scanEscape_unit {n : Nat} (h : n < 55296 ∨ (57343 < n ∧ n < 65536)) (r : List Char) :
    scanEscape ('u' :: (hexDigits n ++ r)) = some (Char.ofNat n, r) := by
  rw [scanEscape, scanHex_hexDigits (by omega)]
  change (if 55296 ≤ n ∧ n < 56320 then _ else if 56320 ≤ n ∧ n < 57344 then none else some (Char.ofNat n, r)) = _
  rw [if_neg (by omega), if_neg (by omega)]

private theorem controlEscape_unit : ∀ n < 32, n ∉ [8, 9, 10, 12, 13] → controlEscape n = 'u' :: hexDigits n := by
  decide

private theorem scanEscape_control {n : Nat} (h : n < 32) (r : List Char) :
    scanEscape (controlEscape n ++ r) = some (Char.ofNat n, r) := by
  by_cases hshort : n ∈ [8, 9, 10, 12, 13]
  · simp only [List.mem_cons, List.not_mem_nil, or_false] at hshort
    rcases hshort with rfl | rfl | rfl | rfl | rfl <;> rfl
  · rw [controlEscape_unit n h hshort, List.cons_append, scanEscape_unit (by omega)]

private theorem scanEscape_pair {n m : Nat} (hn : n < 1024) (hm : m < 1024) (r : List Char) :
    scanEscape ('u' :: (hexDigits (55296 + n) ++ (unitEscape (56320 + m) ++ r))) =
      some (Char.ofNat (65536 + n * 1024 + m), r) := by
  rw [scanEscape, scanHex_hexDigits (by omega)]
  change (if 55296 ≤ 55296 + n ∧ 55296 + n < 56320 then (do
      let (m, r) ← scanHex (hexDigits (56320 + m) ++ r)
      if 56320 ≤ m ∧ m < 57344 then some (Char.ofNat (65536 + (55296 + n - 55296) * 1024 + (m - 56320)), r) else none)
    else _) = _
  rw [if_pos (by omega), scanHex_hexDigits (by omega)]
  change (if 56320 ≤ 56320 + m ∧ 56320 + m < 57344 then some (Char.ofNat (65536 + (55296 + n - 55296) * 1024 +
    (56320 + m - 56320)), r) else none) = _
  rw [if_pos (by omega), Nat.add_sub_cancel_left, Nat.add_sub_cancel_left]

private theorem scanString_char (fuel : Nat) (c : Char) (r : List Char) :
    scanString (fuel + 1) (asciiText (escapeChar c) ++ r) = do
      let (cs, r) ← scanString fuel r
      return (c :: cs, r) := by
  have hescape (s : List Char) (h : scanEscape (s ++ r) = some (c, r)) : scanString (fuel + 1) ('\\' :: (s ++ r)) = do
      let (cs, r) ← scanString fuel r
      return (c :: cs, r) := by
    rw [scanString, if_neg (by decide), if_pos rfl, h]
    rfl
  unfold escapeChar
  split
  case isTrue h =>
    rcases h with rfl | rfl
    · exact hescape ['"'] rfl
    · exact hescape ['\\'] rfl
  case isFalse h =>
    obtain ⟨hquote, hslash⟩ := not_or.mp h
    split
    case isTrue hcontrol =>
      rw [asciiText_cons (by decide), asciiText_control _ hcontrol]
      refine hescape _ ?_
      rw [scanEscape_control hcontrol, Char.ofNat_toNat]
    case isFalse hplain =>
      rw [asciiText, List.flatMap_singleton, asciiChar]
      split
      case isTrue hascii =>
        rw [List.singleton_append, scanString, if_neg hquote, if_neg hslash, if_neg hplain]
        rfl
      case isFalse hascii =>
        have hvalid := toNat_valid c
        split
        case isTrue hbasic =>
          refine hescape ('u' :: hexDigits c.toNat) ?_
          rw [List.cons_append, scanEscape_unit (by omega), Char.ofNat_toNat]
        case isFalse hbasic =>
          have hn : (c.toNat - 65536) / 1024 < 1024 := by omega
          have hm : (c.toNat - 65536) % 1024 < 1024 := Nat.mod_lt _ (by decide)
          have hc : 65536 + (c.toNat - 65536) / 1024 * 1024 + (c.toNat - 65536) % 1024 = c.toNat := by omega
          refine hescape ('u' :: (hexDigits (55296 + (c.toNat - 65536) / 1024) ++
            unitEscape (56320 + (c.toNat - 65536) % 1024))) ?_
          rw [List.cons_append, List.append_assoc, scanEscape_pair hn hm, hc, Char.ofNat_toNat]

/-- A string is read back from its body. -/
theorem scanString_written (cs r : List Char) {fuel : Nat} (h : cs.length < fuel) :
    scanString fuel (asciiText (stringTail cs) ++ r) = some (cs, r) := by
  induction cs generalizing fuel with
  | nil =>
    cases fuel with
    | zero => cases h
    | succ fuel => rfl
  | cons c cs ih =>
    cases fuel with
    | zero => cases h
    | succ fuel =>
      rw [stringTail, asciiText_append, List.append_assoc, scanString_char, ih (Nat.lt_of_succ_lt_succ h)]
      rfl

def skipBlanks (text : List Char) : List Char := text.dropWhile [' ', '\t', '\n', '\r'].contains

def digitsAfter (marks signs : List Char) : List Char → List Char
  | c :: r =>
    let sign := r.takeWhile signs.contains |>.take 1
    let digits := (r.drop sign.length).takeWhile Char.isDigit
    if c ∈ marks ∧ digits ≠ [] then c :: (sign ++ digits) else []
  | [] => []

/-- A floating-point number by its text, with a small `e`. -/
def floatOf (chars : List Char) : Option Json :=
  let chars := chars.map fun c => if c = 'E' then 'e' else c
  if h : chars.head?.all isNumberHead = true ∧ chars.all isNumberChar = true ∧ chars.any isFloatMark = true then
    some (.float ⟨chars, h.1, h.2.1, h.2.2⟩)
  else none

def scanNumber (text : List Char) : Option (Json × List Char) :=
  let sign := text.takeWhile (· = '-') |>.take 1
  let body := text.drop sign.length
  let whole := if body.head? = some '0' then ['0'] else body.takeWhile Char.isDigit
  let rest := body.drop whole.length
  let fraction := digitsAfter ['.'] [] rest
  let exponent := digitsAfter ['e', 'E'] ['+', '-'] (rest.drop fraction.length)
  if "Infinity".toList.isPrefixOf body then (floatOf (sign ++ "Infinity".toList)).map fun f => (f, body.drop 8)
  else if "NaN".toList.isPrefixOf text then (floatOf "NaN".toList).map fun f => (f, text.drop 3)
  else if whole = [] then none
  else if fraction = [] ∧ exponent = [] then
    let n := Nat.ofDigitChars 10 whole 0
    some (.int (if sign = [] then n else -n), rest)
  else (floatOf (sign ++ whole ++ fraction ++ exponent)).map fun f => (f, rest.drop (fraction.length + exponent.length))

def insertField (fields : List (String × Json)) (field : String × Json) : List (String × Json) :=
  if field.1 ∈ fields.map Prod.fst then
    fields.map fun other => if other.1 = field.1 then (other.1, field.2) else other
  else fields ++ [field]

def dictionary (fields : List (String × Json)) : List (String × Json) := fields.foldl insertField []

mutual
def scanValue : Nat → List Char → Option (Json × List Char)
  | 0, _ => none
  | fuel + 1, text =>
    match text with
    | '"' :: r => do
      let (cs, r) ← scanString (r.length + 1) r
      return (.str (String.ofList cs), r)
    | '\x7b' :: r =>
      match skipBlanks r with
      | '\x7d' :: r => some (.obj [], r)
      | r => do
        let (fields, r) ← scanFields fuel r
        return (.obj (dictionary fields), r)
    | '[' :: r =>
      match skipBlanks r with
      | ']' :: r => some (.arr [], r)
      | r => do
        let (items, r) ← scanItems fuel r
        return (.arr items, r)
    | 'n' :: 'u' :: 'l' :: 'l' :: r => some (.null, r)
    | 't' :: 'r' :: 'u' :: 'e' :: r => some (.bool true, r)
    | 'f' :: 'a' :: 'l' :: 's' :: 'e' :: r => some (.bool false, r)
    | text => scanNumber text

def scanFields : Nat → List Char → Option (List (String × Json) × List Char)
  | 0, _ => none
  | fuel + 1, text =>
    match text with
    | '"' :: r => do
      let (key, r) ← scanString (r.length + 1) r
      match skipBlanks r with
      | ':' :: r => do
        let (v, r) ← scanValue fuel (skipBlanks r)
        match skipBlanks r with
        | '\x7d' :: r => return ([(String.ofList key, v)], r)
        | ',' :: r => do
          let (fields, r) ← scanFields fuel (skipBlanks r)
          return ((String.ofList key, v) :: fields, r)
        | _ => none
      | _ => none
    | _ => none

def scanItems : Nat → List Char → Option (List Json × List Char)
  | 0, _ => none
  | fuel + 1, text => do
    let (v, r) ← scanValue fuel text
    match skipBlanks r with
    | ']' :: r => return ([v], r)
    | ',' :: r => do
      let (items, r) ← scanItems fuel (skipBlanks r)
      return (v :: items, r)
    | _ => none
end

def parse (text : String) : Option Json := do
  let (v, r) ← scanValue (text.toList.length + 1) (skipBlanks text.toList)
  if skipBlanks r = [] then some v else none

def roundEven (q : ℚ) : ℤ :=
  let below := ⌊q⌋
  if q - below < 1 / 2 ∨ (q - below = 1 / 2 ∧ below % 2 = 0) then below else below + 1

def nearestDouble (q : ℚ) : Option ℚ :=
  if q = 0 then some 0
  else
    let unit : ℚ := 2 ^ max (Int.log 2 |q| - 52) (-1074)
    let rounded := roundEven (q / unit) * unit
    if 2 ^ 1024 ≤ |rounded| then none else some rounded

/-- What a decimal text stands for. `NaN` and the infinities stand for no number. -/
def decimal (chars : List Char) : Option ℚ :=
  let sign := chars.takeWhile (· = '-')
  let body := chars.drop sign.length
  let whole := body.takeWhile Char.isDigit
  let rest := body.drop whole.length
  let fraction := if rest.head? = some '.' then rest.tail.takeWhile Char.isDigit else []
  let rest := if rest.head? = some '.' then rest.tail.drop fraction.length else rest
  let digits := rest.tail.filter Char.isDigit
  let exponent : ℤ := if '-' ∈ rest then -Nat.ofDigitChars 10 digits 0 else Nat.ofDigitChars 10 digits 0
  if whole = [] then none
  else
    let value := (Nat.ofDigitChars 10 (whole ++ fraction) 0 : ℚ) * 10 ^ (exponent - fraction.length)
    some (if sign = [] then value else -value)

def equalsInt (n : ℤ) : Json → Bool
  | int m => m = n
  | bool b => (b.toNat : ℤ) = n
  | float f => (decimal f.chars).bind nearestDouble = some (n : ℚ)
  | _ => false

def isScalar : Json → Bool
  | null | bool _ | int _ | str _ => true
  | _ => false

/-- The text goes on with what stands after a field. -/
def Follows (r : List Char) : Prop := ∃ c rest, r = c :: rest ∧ (c = ',' ∨ c = '\x7d')

private theorem skipBlanks_of_head {c : Char} {r : List Char} (h : [' ', '\t', '\n', '\r'].contains c = false) :
    skipBlanks (c :: r) = c :: r := by
  rw [skipBlanks, List.dropWhile_cons, h]
  rfl

private theorem numeral_head {n : Nat} (h : n ≠ 0) : (Nat.toDigits 10 n).head? ≠ some '0' := by
  induction n using Nat.strong_induction_on with
  | h n ih =>
    rcases Nat.lt_or_ge n 10 with hn | hn
    · rw [Nat.toDigits_of_lt_base hn]
      interval_cases n
      · exact absurd rfl h
      all_goals decide
    · rw [Nat.toDigits_of_base_le (by decide) hn]
      have hne : (Nat.toDigits 10 (n / 10)) ≠ [] := Nat.toDigits_ne_nil
      rw [List.head?_append_of_ne_nil _ hne]
      exact ih (n / 10) (by omega) (by omega)

private theorem digit_toDigits {n : Nat} {c : Char} (h : c ∈ Nat.toDigits 10 n) : c.isDigit = true :=
  Nat.isDigit_of_mem_toDigits (by decide) (by decide) h

private theorem not_digit_of_follows {r : List Char} (h : Follows r) : r.takeWhile Char.isDigit = [] := by
  obtain ⟨c, rest, rfl, rfl | rfl⟩ := h <;> rfl

private theorem whole_digits (n : Nat) {r : List Char} (h : Follows r) :
    (if (Nat.toDigits 10 n ++ r).head? = some '0' then ['0'] else (Nat.toDigits 10 n ++ r).takeWhile Char.isDigit) =
      Nat.toDigits 10 n := by
  by_cases hn : n = 0
  · subst hn
    rfl
  · rw [List.head?_append_of_ne_nil _ Nat.toDigits_ne_nil, if_neg (numeral_head hn),
      List.takeWhile_append_of_pos fun c hc => digit_toDigits hc, not_digit_of_follows h, List.append_nil]

private theorem digitsAfter_follows {marks signs r : List Char} (h : Follows r) (hmarks : ',' ∉ marks ∧ '\x7d' ∉ marks) :
    digitsAfter marks signs r = [] := by
  obtain ⟨c, rest, rfl, rfl | rfl⟩ := h
  · exact if_neg fun h => hmarks.1 h.1
  · exact if_neg fun h => hmarks.2 h.1

private theorem toDigits_cons (n : Nat) : ∃ c cs, Nat.toDigits 10 n = c :: cs ∧ c.isDigit = true := by
  cases h : Nat.toDigits 10 n with
  | nil => exact absurd h Nat.toDigits_ne_nil
  | cons c cs => exact ⟨c, cs, rfl, digit_toDigits (h ▸ List.mem_cons_self)⟩

private theorem digit_ne {c d : Char} (h : c.isDigit = true) (hd : d.isDigit = false) : c ≠ d := by
  rintro rfl
  rw [h] at hd
  cases hd

private theorem isPrefixOf_digit {c d : Char} {cs ds : List Char} (h : c.isDigit = true) (hd : d.isDigit = false) :
    (d :: ds).isPrefixOf (c :: cs) = false := by
  rw [List.isPrefixOf, beq_eq_false_iff_ne.mpr (digit_ne h hd).symm, Bool.false_and]

private theorem scanNumber_int (n : Int) {r : List Char} (h : Follows r) :
    scanNumber (intText n ++ r) = some (.int n, r) := by
  have hfraction : digitsAfter ['.'] [] r = [] := digitsAfter_follows h (by decide)
  have hexponent : digitsAfter ['e', 'E'] ['+', '-'] r = [] := digitsAfter_follows h (by decide)
  cases n with
  | ofNat n =>
    obtain ⟨c, cs, hcs, hc⟩ := toDigits_cons n
    have hsign : ((Nat.toDigits 10 n ++ r).takeWhile fun c => c = '-').take 1 = [] := by
      rw [hcs, List.cons_append, List.takeWhile_cons_of_neg (by simpa using digit_ne hc rfl), List.take_nil]
    have hinfinity : "Infinity".toList.isPrefixOf (Nat.toDigits 10 n ++ r) = false := by
      rw [hcs]
      exact isPrefixOf_digit hc rfl
    have hnan : "NaN".toList.isPrefixOf (Nat.toDigits 10 n ++ r) = false := by
      rw [hcs]
      exact isPrefixOf_digit hc rfl
    rw [intText, scanNumber]
    simp only [hsign, List.length_nil, List.drop_zero, whole_digits n h, List.drop_left, hfraction, hexponent,
      hinfinity, hnan, Bool.false_eq_true, if_false, if_neg (Nat.toDigits_ne_nil : Nat.toDigits 10 n ≠ []), if_true,
      and_self, Nat.ofDigitChars_ten_toDigits, Int.ofNat_eq_natCast]
  | negSucc n =>
    obtain ⟨c, cs, hcs, hc⟩ := toDigits_cons (n + 1)
    have hsign : (('-' :: (Nat.toDigits 10 (n + 1) ++ r)).takeWhile fun c => c = '-').take 1 = ['-'] := by
      rw [List.takeWhile_cons_of_pos (by decide), List.take_succ_cons, List.take_zero]
    have hinfinity : "Infinity".toList.isPrefixOf (Nat.toDigits 10 (n + 1) ++ r) = false := by
      rw [hcs]
      exact isPrefixOf_digit hc rfl
    have hnan : "NaN".toList.isPrefixOf ('-' :: (Nat.toDigits 10 (n + 1) ++ r)) = false := rfl
    rw [intText, List.cons_append, scanNumber]
    simp only [hsign, hnan, List.length_nil, List.length_singleton, List.drop_succ_cons, List.drop_zero,
      whole_digits (n + 1) h, List.drop_left, hfraction, hexponent, hinfinity, Bool.false_eq_true, if_false,
      if_neg (Nat.toDigits_ne_nil : Nat.toDigits 10 (n + 1) ≠ []), and_self, if_true,
      Nat.ofDigitChars_ten_toDigits, List.cons_ne_nil]
    rfl

private theorem isDigit_ascii {c : Char} (h : c.isDigit = true) : c.toNat < 127 := by
  have hle : c.toNat ≤ 57 := by
    simp only [Char.isDigit, Bool.and_eq_true, decide_eq_true_eq] at h
    exact h.2
  omega

private theorem asciiText_int (n : Int) : asciiText (intText n) = intText n := by
  cases n with
  | ofNat n => exact asciiText_self fun c hc => isDigit_ascii (digit_toDigits hc)
  | negSucc n =>
    rw [intText, asciiText_cons (by decide), asciiText_self fun c hc => isDigit_ascii (digit_toDigits hc)]

private theorem scanValue_number {c : Char} (hc : c = '-' ∨ c.isDigit = true) (fuel : Nat) (cs : List Char) :
    scanValue (fuel + 1) (c :: cs) = scanNumber (c :: cs) := by
  have hne (d : Char) (hd : d.isDigit = false) (hminus : d ≠ '-') : c ≠ d := by
    rcases hc with rfl | hc
    · exact hminus.symm
    · exact digit_ne hc hd
  unfold scanValue
  split
  · rename_i heq
    exact absurd (List.cons.inj heq).1 (hne _ rfl (by decide))
  · rename_i heq
    exact absurd (List.cons.inj heq).1 (hne _ rfl (by decide))
  · rename_i heq
    exact absurd (List.cons.inj heq).1 (hne _ rfl (by decide))
  · rename_i heq
    exact absurd (List.cons.inj heq).1 (hne _ rfl (by decide))
  · rename_i heq
    exact absurd (List.cons.inj heq).1 (hne _ rfl (by decide))
  · rename_i heq
    exact absurd (List.cons.inj heq).1 (hne _ rfl (by decide))
  · rfl

private theorem intText_cons (n : Int) : ∃ c cs, intText n = c :: cs ∧ (c = '-' ∨ c.isDigit = true) := by
  cases n with
  | ofNat n =>
    obtain ⟨c, cs, hcs, hc⟩ := toDigits_cons n
    exact ⟨c, cs, hcs, .inr hc⟩
  | negSucc n => exact ⟨'-', _, rfl, .inl rfl⟩

private theorem length_le_stringTail (cs : List Char) : cs.length < (asciiText (stringTail cs)).length := by
  induction cs with
  | nil => exact Nat.one_pos
  | cons c cs ih =>
    have hone : 1 ≤ (asciiText (escapeChar c)).length := by
      unfold escapeChar
      split
      · rw [asciiText_cons (by decide), List.length_cons]
        omega
      · split
        · rw [asciiText_cons (by decide), List.length_cons]
          omega
        · rw [asciiText, List.flatMap_singleton, asciiChar]
          split
          · exact Nat.le_refl 1
          · split <;> exact Nat.succ_pos _
    rw [stringTail, asciiText_append, List.length_append, List.length_cons]
    omega

private theorem scanString_body (cs r : List Char) :
    scanString ((asciiText (stringTail cs) ++ r).length + 1) (asciiText (stringTail cs) ++ r) = some (cs, r) := by
  refine scanString_written cs r ?_
  have hlength := length_le_stringTail cs
  rw [List.length_append]
  omega

private theorem scanValue_scalar {v : Json} (hv : v.isScalar = true) (fuel : Nat) {r : List Char} (h : Follows r) :
    scanValue (fuel + 1) (skipBlanks (asciiText v.chars ++ r)) = some (v, r) := by
  cases v with
  | null => rfl
  | bool b => cases b <;> rfl
  | int n =>
    obtain ⟨c, cs, hcs, hc⟩ := intText_cons n
    have hnumber := scanNumber_int n h
    have hblank : [' ', '\t', '\n', '\r'].contains c = false := by
      rcases hc with rfl | hc
      · rfl
      · simp [digit_ne hc]
    rw [chars, asciiText_int, hcs, List.cons_append, skipBlanks_of_head hblank, scanValue_number hc, ← List.cons_append,
      ← hcs, hnumber]
  | str s =>
    rw [chars, asciiText_cons (by decide), List.cons_append, skipBlanks_of_head rfl, scanValue, scanString_body]
    change some (Json.str (String.ofList s.toList), r) = _
    rw [String.ofList_toList]
  | float f => cases hv
  | arr items => cases hv
  | obj fields => cases hv

private theorem follows_fieldsTail (fields : List (String × Json)) (r : List Char) :
    Follows (asciiText (fieldsTail fields) ++ r) := by
  cases fields with
  | nil => exact ⟨_, _, rfl, .inr rfl⟩
  | cons field fields => exact ⟨_, _, by rw [fieldsTail, asciiText_cons (by decide)]; rfl, .inl rfl⟩

private def fieldsText (key : String) (v : Json) (fields : List (String × Json)) : List Char :=
  asciiText ('"' :: (stringTail key.toList ++ ':' :: (v.chars ++ fieldsTail fields)))

private theorem fieldsText_eq (key : String) (v : Json) (fields : List (String × Json)) (r : List Char) :
    fieldsText key v fields ++ r = '"' :: (asciiText (stringTail key.toList) ++
      (':' :: (asciiText v.chars ++ (asciiText (fieldsTail fields) ++ r)))) := by
  rw [fieldsText, asciiText_cons (by decide), asciiText_append, asciiText_cons (by decide), asciiText_append]
  simp only [List.cons_append, List.append_assoc]

private theorem scanFields_written (fields : List (String × Json)) {key : String} {v : Json} {fuel : Nat}
    (hfuel : fields.length + 1 < fuel) (hv : v.isScalar = true) (hfields : ∀ field ∈ fields, field.2.isScalar = true)
    (r : List Char) : scanFields fuel (fieldsText key v fields ++ r) = some ((key, v) :: fields, r) := by
  induction fields generalizing key v fuel with
  | nil =>
    obtain ⟨fuel, rfl⟩ : ∃ n, fuel = n + 2 := ⟨fuel - 2, by rw [List.length_nil] at hfuel; omega⟩
    have hvalue := scanValue_scalar hv fuel (follows_fieldsTail [] r)
    rw [fieldsText_eq, scanFields, scanString_body]
    change (do
      let (v, r) ← scanValue (fuel + 1) (skipBlanks (asciiText v.chars ++ (asciiText (fieldsTail []) ++ r)))
      match skipBlanks r with
      | '\x7d' :: r => return ([(String.ofList key.toList, v)], r)
      | ',' :: r => do
        let (fields, r) ← scanFields (fuel + 1) (skipBlanks r)
        return ((String.ofList key.toList, v) :: fields, r)
      | _ => none) = _
    rw [hvalue, String.ofList_toList]
    rfl
  | cons field fields ih =>
    obtain ⟨fuel, rfl⟩ : ∃ n, fuel = n + 2 := ⟨fuel - 2, by rw [List.length_cons] at hfuel; omega⟩
    obtain ⟨next, w⟩ := field
    have hvalue := scanValue_scalar hv fuel (follows_fieldsTail ((next, w) :: fields) r)
    have htail : asciiText (fieldsTail ((next, w) :: fields)) ++ r = ',' :: (fieldsText next w fields ++ r) := by
      rw [fieldsTail, asciiText_cons (by decide), List.cons_append, fieldsText]
    have hblank : skipBlanks (fieldsText next w fields ++ r) = fieldsText next w fields ++ r := by
      rw [fieldsText_eq]
      exact skipBlanks_of_head rfl
    have hrest := @ih next w (fuel + 1) (by rw [List.length_cons] at hfuel; omega) (hfields _ List.mem_cons_self)
      fun field hfield => hfields field (List.mem_cons_of_mem _ hfield)
    rw [fieldsText_eq, scanFields, scanString_body]
    change (do
      let (v, r) ← scanValue (fuel + 1) (skipBlanks (asciiText v.chars ++
        (asciiText (fieldsTail ((next, w) :: fields)) ++ r)))
      match skipBlanks r with
      | '\x7d' :: r => return ([(String.ofList key.toList, v)], r)
      | ',' :: r => do
        let (fields, r) ← scanFields (fuel + 1) (skipBlanks r)
        return ((String.ofList key.toList, v) :: fields, r)
      | _ => none) = _
    rw [hvalue, String.ofList_toList, htail]
    change (do
      let (fields, r) ← scanFields (fuel + 1) (skipBlanks (fieldsText next w fields ++ r))
      return ((key, v) :: fields, r)) = _
    rw [hblank, hrest]
    rfl

private theorem foldl_insertField (fields earlier : List (String × Json))
    (h : ((earlier ++ fields).map Prod.fst).Nodup) : fields.foldl insertField earlier = earlier ++ fields := by
  induction fields generalizing earlier with
  | nil => rw [List.foldl_nil, List.append_nil]
  | cons field fields ih =>
    have hnew : field.1 ∉ earlier.map Prod.fst := by
      rw [List.map_append, List.map_cons] at h
      exact fun hmem => (List.nodup_append.mp h).2.2 _ hmem _ List.mem_cons_self rfl
    rw [List.append_cons] at h
    rw [List.foldl_cons, insertField, if_neg hnew, ih _ h, ← List.append_cons]

/-- Fields with different keys are a dictionary already. -/
theorem dictionary_of_nodup {fields : List (String × Json)} (h : (fields.map Prod.fst).Nodup) :
    dictionary fields = fields :=
  foldl_insertField fields [] h

private theorem length_fieldsTail (fields : List (String × Json)) :
    fields.length < (asciiText (fieldsTail fields)).length := by
  induction fields with
  | nil => exact Nat.one_pos
  | cons field fields ih =>
    obtain ⟨key, v⟩ := field
    have htail : asciiText (fieldsTail ((key, v) :: fields)) = ',' :: fieldsText key v fields := by
      rw [fieldsTail, asciiText_cons (by decide), fieldsText]
    have htext := congrArg List.length (fieldsText_eq key v fields [])
    rw [List.append_nil, List.append_nil] at htext
    rw [htail, List.length_cons, List.length_cons, htext]
    simp only [List.length_cons, List.length_append]
    omega

/-- An object of scalars with different keys is read back from its ASCII text. -/
theorem parse_ascii {fields : List (String × Json)} (hfields : ∀ field ∈ fields, field.2.isScalar = true)
    (hkeys : (fields.map Prod.fst).Nodup) : parse (obj fields).ascii = some (obj fields) := by
  cases fields with
  | nil => rfl
  | cons field fields =>
    obtain ⟨key, v⟩ := field
    have htext : (obj ((key, v) :: fields)).ascii.toList = '\x7b' :: (fieldsText key v fields ++ []) := by
      rw [ascii, String.toList_ofList, chars, asciiText_cons (by decide), fieldsText, List.append_nil]
    have hlength : fields.length + 1 < (fieldsText key v fields ++ []).length + 1 := by
      have htail := length_fieldsTail fields
      rw [fieldsText_eq]
      simp only [List.length_cons, List.length_append, List.length_nil]
      omega
    have hread : scanFields _ (fieldsText key v fields ++ []) = some ((key, v) :: fields, []) :=
      scanFields_written fields hlength (hfields _ List.mem_cons_self)
        (fun field hfield => hfields field (List.mem_cons_of_mem _ hfield)) []
    have hblank : skipBlanks ('\x7b' :: (fieldsText key v fields ++ [])) = '\x7b' :: (fieldsText key v fields ++ []) :=
      skipBlanks_of_head rfl
    have hvalue : scanValue ((fieldsText key v fields ++ []).length + 1 + 1) ('\x7b' :: (fieldsText key v fields ++ [])) =
        some (obj ((key, v) :: fields), []) := by
      rw [fieldsText_eq] at hread ⊢
      rw [scanValue, skipBlanks_of_head rfl]
      change (do
        let (fields, r) ← scanFields _ _
        return (obj (dictionary fields), r)) = _
      rw [hread]
      change some (obj (dictionary ((key, v) :: fields)), []) = _
      rw [dictionary_of_nodup hkeys]
    rw [parse, htext, List.length_cons, hblank, hvalue]
    rfl

end Uumi.Foundations.Json
