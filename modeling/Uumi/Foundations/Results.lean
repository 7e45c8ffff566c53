import Mathlib

/-! Fallible programs as Except values: guards that raise and inversion of binds.
A program that succeeds is taken apart one bind at a time, without unfolding its callees. -/
namespace Uumi.Foundations
variable {ε α β : Type}

/-- Raise `e` when the condition holds. -/
def raiseIf (c : Prop) [Decidable c] (e : ε) : Except ε Unit :=
  if c then .error e else .ok ()

def required (value : Option α) (e : ε) : Except ε α :=
  match value with
  | none => .error e
  | some a => .ok a

def absent (value : Option α) (e : α → ε) : Except ε Unit :=
  match value with
  | none => .ok ()
  | some a => .error (e a)

@[simp] theorem raiseIf_ok (c : Prop) [Decidable c] (e : ε) (u : Unit) :
    raiseIf c e = .ok u ↔ ¬ c := by
  unfold raiseIf
  split <;> simp_all

@[simp] theorem raiseIf_error (c : Prop) [Decidable c] (e f : ε) :
    raiseIf c e = .error f ↔ c ∧ e = f := by
  unfold raiseIf
  split <;> simp_all

@[simp] theorem required_ok (value : Option α) (e : ε) (a : α) :
    required value e = .ok a ↔ value = some a := by
  cases value <;> simp [required]

@[simp] theorem required_error (value : Option α) (e f : ε) :
    required value e = .error f ↔ value = none ∧ e = f := by
  cases value <;> simp [required]

@[simp] theorem absent_ok (value : Option α) (e : α → ε) (u : Unit) :
    absent value e = .ok u ↔ value = none := by
  cases value <;> simp [absent]

/-- A sequence succeeds exactly when both of its parts do. -/
theorem bind_ok (x : Except ε α) (f : α → Except ε β) (b : β) :
    (x >>= f) = .ok b ↔ ∃ a, x = .ok a ∧ f a = .ok b := by
  cases x <;> simp [bind, Except.bind]

/-- The same for a first part that only raises or passes. -/
@[simp] theorem unit_bind_ok (x : Except ε Unit) (f : Unit → Except ε β) (b : β) :
    (x >>= f) = .ok b ↔ x = .ok () ∧ f () = .ok b := by
  rw [bind_ok]
  exact ⟨fun ⟨_, hx, hf⟩ => ⟨hx, hf⟩, fun ⟨hx, hf⟩ => ⟨(), hx, hf⟩⟩

@[simp] theorem required_bind_ok (value : Option α) (e : ε) (f : α → Except ε β) (b : β) :
    (required value e >>= f) = .ok b ↔ ∃ a, value = some a ∧ f a = .ok b := by
  cases value <;> simp [required, bind, Except.bind]

/-- A sequence fails in its first part, or in its second part after the first succeeded. -/
theorem bind_error (x : Except ε α) (f : α → Except ε β) (e : ε) :
    (x >>= f) = .error e ↔ x = .error e ∨ ∃ a, x = .ok a ∧ f a = .error e := by
  cases x <;> simp [bind, Except.bind]

@[simp] theorem pure_ok (a b : α) : (pure a : Except ε α) = .ok b ↔ a = b := by
  simp [pure, Except.pure]

@[simp] theorem ok_bind (a : α) (f : α → Except ε β) : (Except.ok a >>= f) = f a := rfl

@[simp] theorem error_bind (e : ε) (f : α → Except ε β) :
    ((Except.error e : Except ε α) >>= f) = .error e := rfl

/-- A passed guard leaves the rest of the program. -/
theorem raiseIf_bind_of_not {c : Prop} [Decidable c] (h : ¬ c) (e : ε) (f : Unit → Except ε β) :
    (raiseIf c e >>= f) = f () := by
  simp [raiseIf, h]

/-- A guard that holds ends the program. -/
theorem raiseIf_bind_of {c : Prop} [Decidable c] (h : c) (e : ε) (f : Unit → Except ε β) :
    (raiseIf c e >>= f) = .error e := by
  simp [raiseIf, h]

def forEach (items : List α) (check : α → Except ε Unit) : Except ε Unit :=
  match items with
  | [] => .ok ()
  | item :: items => do
    check item
    forEach items check

@[simp] theorem forEach_ok (items : List α) (check : α → Except ε Unit) :
    forEach items check = .ok () ↔ ∀ item ∈ items, check item = .ok () := by
  induction items with
  | nil => simp [forEach]
  | cons item items ih => simp [forEach, ih]

def collect (items : List α) (f : α → Except ε β) : Except ε (List β) :=
  match items with
  | [] => .ok []
  | item :: items => do
    let value ← f item
    let values ← collect items f
    return value :: values

/-- Items are collected one by one. -/
theorem collect_ok {items : List α} {f : α → Except ε β} {values : List β} :
    collect items f = .ok values ↔ List.Forall₂ (fun item value => f item = .ok value) items values := by
  induction items generalizing values with
  | nil => simp [collect, eq_comm]
  | cons item items ih =>
    simp only [collect, bind_ok, pure_ok]
    constructor
    · rintro ⟨value, hv, rest, hr, rfl⟩
      exact .cons hv (ih.mp hr)
    · intro h
      cases h with
      | cons hv hr => exact ⟨_, hv, _, ih.mpr hr, rfl⟩

/-- Every item of the first of two related lists has a partner. -/
theorem paired_left {γ δ : Type*} {R : γ → δ → Prop} {items : List γ} {others : List δ} (h : List.Forall₂ R items others)
    {item : γ} (hi : item ∈ items) : ∃ other ∈ others, R item other := by
  induction h with
  | nil => cases hi
  | cons head _ ih =>
    rcases List.mem_cons.mp hi with rfl | hi
    · exact ⟨_, List.mem_cons_self, head⟩
    · obtain ⟨other, ho, hr⟩ := ih hi
      exact ⟨other, List.mem_cons_of_mem _ ho, hr⟩

/-- Every item of the second of two related lists has a partner. -/
theorem paired_right {γ δ : Type*} {R : γ → δ → Prop} {items : List γ} {others : List δ} (h : List.Forall₂ R items others)
    {other : δ} (ho : other ∈ others) : ∃ item ∈ items, R item other :=
  paired_left (R := fun other item => R item other) h.flip ho

/-- Pairings may be composed. -/
theorem paired_trans {γ δ η : Type*} {R : γ → δ → Prop} {S : δ → η → Prop} {T : γ → η → Prop} {first : List γ}
    {second : List δ} {third : List η} (h : List.Forall₂ R first second) (h' : List.Forall₂ S second third)
    (hT : ∀ a b c, R a b → S b c → T a c) : List.Forall₂ T first third := by
  induction h generalizing third with
  | nil =>
    cases h'
    exact .nil
  | cons head _ ih =>
    cases h' with
    | cons head' tail' => exact .cons (hT _ _ _ head head') (ih tail')

/-- The result of every item of a collected list is among the values. -/
theorem collect_value {items : List α} {f : α → Except ε β} {values : List β}
    (h : collect items f = .ok values) {item : α} (hi : item ∈ items) : ∃ value ∈ values, f item = .ok value :=
  paired_left (collect_ok.mp h) hi

/-- Every item of a collected list has a result. -/
theorem collect_mem {items : List α} {f : α → Except ε β} {values : List β}
    (h : collect items f = .ok values) {item : α} (hi : item ∈ items) : ∃ value, f item = .ok value := by
  obtain ⟨value, -, hf⟩ := collect_value h hi
  exact ⟨value, hf⟩

/-- Every collected value is the result of an item. -/
theorem collect_result {items : List α} {f : α → Except ε β} {values : List β}
    (h : collect items f = .ok values) {value : β} (hv : value ∈ values) : ∃ item ∈ items, f item = .ok value :=
  paired_right (collect_ok.mp h) hv

/-- A list is collected when every item has a result, and the values have what the results have. -/
theorem collect_total {items : List α} {f : α → Except ε β} {R : α → β → Prop}
    (h : ∀ item ∈ items, ∃ value, f item = .ok value ∧ R item value) :
    ∃ values, collect items f = .ok values ∧ List.Forall₂ R items values := by
  induction items with
  | nil => exact ⟨[], rfl, .nil⟩
  | cons item items ih =>
    obtain ⟨value, hvalue, hr⟩ := h item List.mem_cons_self
    obtain ⟨values, hvalues, hall⟩ := ih fun other ho => h other (List.mem_cons_of_mem _ ho)
    refine ⟨value :: values, ?_, .cons hr hall⟩
    rw [collect, hvalue, ok_bind, hvalues, ok_bind]
    rfl

/-- The first item that fails is the error of the whole. -/
theorem collect_error {before after : List α} {item : α} {f : α → Except ε β} {e : ε}
    (hb : ∀ earlier ∈ before, ∃ value, f earlier = .ok value) (h : f item = .error e) :
    collect (before ++ item :: after) f = .error e := by
  induction before with
  | nil => simp [collect, h]
  | cons head before ih =>
    obtain ⟨value, hv⟩ := hb head List.mem_cons_self
    rw [List.cons_append, collect, hv, ok_bind, ih fun earlier he => hb earlier (List.mem_cons_of_mem _ he)]
    rfl

/-- Every error that the program raises satisfies `P`. -/
def RaisesOnly (P : ε → Prop) (x : Except ε α) : Prop := ∀ e, x = .error e → P e

/-- A value raises nothing. -/
theorem raisesOnly_ok (P : ε → Prop) (a : α) : RaisesOnly P (.ok a) := nofun

/-- A condition raises its own error only. -/
theorem raisesOnly_raiseIf {P : ε → Prop} (c : Prop) [Decidable c] {e : ε} (h : P e) :
    RaisesOnly P (raiseIf c e) := by
  intro f hf
  rw [raiseIf_error] at hf
  exact hf.2 ▸ h

/-- A missing value raises its own error only. -/
theorem raisesOnly_required {P : ε → Prop} (value : Option α) {e : ε} (h : P e) :
    RaisesOnly P (required value e) := by
  intro f hf
  rw [required_error] at hf
  exact hf.2 ▸ h

/-- A sequence raises what its parts raise. -/
theorem raisesOnly_bind {P : ε → Prop} {x : Except ε α} {f : α → Except ε β}
    (hx : RaisesOnly P x) (hf : ∀ a, x = .ok a → RaisesOnly P (f a)) : RaisesOnly P (x >>= f) := by
  intro e he
  rcases (bind_error x f e).mp he with h | ⟨a, ha, h⟩
  · exact hx e h
  · exact hf a ha e h

/-- The rule of bind for a first part that only raises or passes. -/
theorem raisesOnly_guard {P : ε → Prop} {x : Except ε Unit} {f : Unit → Except ε β}
    (hx : RaisesOnly P x) (hf : x = .ok () → RaisesOnly P (f ())) : RaisesOnly P (x >>= f) :=
  raisesOnly_bind hx fun _ h => hf h

/-- After a value, only what follows can raise. -/
theorem raisesOnly_ok_bind {P : ε → Prop} {x : Except ε α} {a : α} {f : α → Except ε β}
    (hx : x = .ok a) : RaisesOnly P (x >>= f) ↔ RaisesOnly P (f a) := by
  rw [hx, ok_bind]

/-- A program whose errors all satisfy `P` either raises such an error or returns. -/
theorem raisesOnly_iff (P : ε → Prop) (x : Except ε α) :
    RaisesOnly P x ↔ (∃ e, x = .error e ∧ P e) ∨ ∃ a, x = .ok a := by
  cases x with
  | ok a => exact ⟨fun _ => .inr ⟨a, rfl⟩, fun _ => raisesOnly_ok P a⟩
  | error e =>
    constructor
    · intro h
      exact .inl ⟨e, rfl, h e rfl⟩
    · rintro (⟨f, hf, hp⟩ | ⟨a, ha⟩)
      · cases hf
        intro f hf
        cases hf
        exact hp
      · cases ha

end Uumi.Foundations
