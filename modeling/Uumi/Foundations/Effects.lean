import Mathlib

/-! Programs that keep what they have done when they raise: reads and writes of a state, and what a run leaves. -/
namespace Uumi.Foundations.Effects
variable {ε σ α β : Type}

def reading (f : σ → Except ε α) : EStateM ε σ α := fun s =>
  match f s with
  | .ok a => .ok a s
  | .error e => .error e s

def writing (f : σ → Except ε (α × σ)) : EStateM ε σ α := fun s =>
  match f s with
  | .ok (a, s') => .ok a s'
  | .error e => .error e s

def left : EStateM.Result ε σ α → σ
  | .ok _ s => s
  | .error _ s => s

def forget : EStateM.Result ε σ α → Except ε (α × σ)
  | .ok a s => .ok (a, s)
  | .error e _ => .error e

/-- A stateful computation returns or raises, and leaves a state either way. -/
theorem result_cases (r : EStateM.Result ε σ α) : (∃ a s, r = .ok a s) ∨ ∃ e s, r = .error e s := by
  cases r with
  | ok a s => exact .inl ⟨a, s, rfl⟩
  | error e s => exact .inr ⟨e, s, rfl⟩

/-- A sequence runs its second part in the state that the first part left. -/
theorem bind_run (x : EStateM ε σ α) (f : α → EStateM ε σ β) (s : σ) :
    (x >>= f) s = match x s with
      | .ok a s' => f a s'
      | .error e s' => .error e s' :=
  rfl

/-- A sequence returns when both of its parts do. -/
theorem bind_ok_iff {x : EStateM ε σ α} {f : α → EStateM ε σ β} {s s'' : σ} {b : β} :
    (x >>= f) s = .ok b s'' ↔ ∃ a s', x s = .ok a s' ∧ f a s' = .ok b s'' := by
  rw [bind_run]
  cases x s with
  | ok a s' =>
    constructor
    · exact fun h => ⟨a, s', rfl, h⟩
    · rintro ⟨_, _, h, hf⟩
      cases h
      exact hf
  | error e s' =>
    constructor
    · exact nofun
    · rintro ⟨_, _, h, _⟩
      cases h

/-- A reading computation leaves the state. -/
theorem reading_ok {f : σ → Except ε α} {s s' : σ} {a : α} : reading f s = .ok a s' ↔ f s = .ok a ∧ s' = s := by
  unfold reading
  cases f s with
  | ok b =>
    constructor
    · intro h
      cases h
      exact ⟨rfl, rfl⟩
    · rintro ⟨h, rfl⟩
      cases h
      rfl
  | error e => exact ⟨nofun, fun h => nomatch h.1⟩

/-- A writing computation leaves the state that it returns. -/
theorem writing_ok {f : σ → Except ε (α × σ)} {s s' : σ} {a : α} : writing f s = .ok a s' ↔ f s = .ok (a, s') := by
  unfold writing
  cases f s with
  | ok b =>
    constructor
    · intro h
      cases h
      rfl
    · intro h
      cases h
      rfl
  | error e => exact ⟨nofun, nofun⟩

/-- The state after an error is forgotten in a sequence too. -/
theorem forget_bind (x : EStateM ε σ α) (f : α → EStateM ε σ β) (s : σ) :
    forget ((x >>= f) s) = forget (x s) >>= fun found => forget (f found.1 found.2) := by
  rw [bind_run]
  cases x s <;> rfl

/-- A value raises nothing. -/
theorem forget_pure (a : α) (s : σ) : forget ((pure a : EStateM ε σ α) s) = .ok (a, s) := rfl

/-- Forgetting the state after an error of a reading computation. -/
theorem forget_reading (f : σ → Except ε α) (s : σ) : forget (reading f s) = (do return (← f s, s)) := by
  unfold reading
  cases f s <;> rfl

/-- Forgetting the state after an error of a writing computation. -/
theorem forget_writing (f : σ → Except ε (α × σ)) (s : σ) : forget (writing f s) = f s := by
  unfold writing
  cases f s <;> rfl

/-- Whatever happens, the state that a program leaves is related to the one it began in. -/
def Keeps (R : σ → σ → Prop) (x : EStateM ε σ α) : Prop := ∀ s, R s (left (x s))

section
variable {R : σ → σ → Prop} [Std.Refl R]

/-- A value keeps any reflexive relation. -/
theorem keeps_pure (a : α) : Keeps R (pure a : EStateM ε σ α) := fun s => refl_of R s

/-- Reading keeps any reflexive relation. -/
theorem keeps_reading (f : σ → Except ε α) : Keeps R (reading f) := by
  intro s
  unfold reading
  cases f s <;> exact refl_of R s

/-- Writing keeps what each of its writes keeps. -/
theorem keeps_writing {f : σ → Except ε (α × σ)} (h : ∀ s a s', f s = .ok (a, s') → R s s') : Keeps R (writing f) := by
  intro s
  unfold writing
  cases hf : f s with
  | ok found => exact h s found.1 found.2 hf
  | error e => exact refl_of R s

end

/-- A sequence keeps what its parts keep. -/
theorem keeps_bind {R : σ → σ → Prop} [IsTrans σ R] {x : EStateM ε σ α} {f : α → EStateM ε σ β} (hx : Keeps R x)
    (hf : ∀ a, Keeps R (f a)) : Keeps R (x >>= f) := by
  intro s
  have h := hx s
  rw [bind_run]
  cases hrun : x s with
  | ok a s' =>
    rw [hrun] at h
    exact trans_of R h (hf a s')
  | error e s' =>
    rw [hrun] at h
    exact h

end Uumi.Foundations.Effects
