import Uumi.Foundations.Executions

/-! Two services that receive the same calls: their outcomes agree at every call, and their states correspond after it. -/
namespace Uumi.Foundations
namespace Service
variable {σ τ κ ρ ε : Type} (same : ε → ε → Prop)

/-- Two outcomes with the same result, or with errors that are the same to a client. -/
def SameOutcome : Except ε (ρ × σ) → Except ε (ρ × τ) → Prop
  | .ok (result, _), .ok (other, _) => result = other
  | .error e, .error other => same e other
  | _, _ => False

variable (first : Service σ κ ρ ε) (second : Service τ κ ρ ε)

/-- The services give the same outcomes to the calls, and their states correspond before, between and after them. -/
def Lockstep (corresponds : σ → τ → Prop) : σ → τ → List κ → Prop
  | s, t, [] => corresponds s t
  | s, t, call :: calls =>
    corresponds s t ∧ SameOutcome same (first.perform s call) (second.perform t call) ∧
      Lockstep corresponds (first.exec s call) (second.exec t call) calls

/-- Every call meets the condition in the states in which it comes. -/
def Throughout (condition : σ → τ → κ → Prop) : σ → τ → List κ → Prop
  | _, _, [] => True
  | s, t, call :: calls =>
    condition s t call ∧ Throughout condition (first.exec s call) (second.exec t call) calls

variable {same first second}

/-- When an invariant makes a condition on the next call exact for one step, it is exact for every sequence of calls. -/
theorem lockstep_iff {corresponds invariant : σ → τ → Prop} {admitted condition : σ → τ → κ → Prop}
    (hcorresponds : ∀ s t, invariant s t → corresponds s t)
    (hagrees : ∀ s t call, invariant s t → admitted s t call →
      (SameOutcome same (first.perform s call) (second.perform t call) ↔ condition s t call))
    (hkept : ∀ s t call, invariant s t → admitted s t call → condition s t call →
      invariant (first.exec s call) (second.exec t call))
    (s : σ) (t : τ) (h : invariant s t) (calls : List κ) (hadmitted : Throughout first second admitted s t calls) :
    Lockstep same first second corresponds s t calls ↔ Throughout first second condition s t calls := by
  induction calls generalizing s t with
  | nil => exact iff_of_true (hcorresponds s t h) trivial
  | cons call calls ih =>
    obtain ⟨hcall, hcalls⟩ := hadmitted
    constructor
    · rintro ⟨-, hsame, hrest⟩
      have hcondition := (hagrees s t call h hcall).mp hsame
      exact ⟨hcondition, (ih _ _ (hkept s t call h hcall hcondition) hcalls).mp hrest⟩
    · rintro ⟨hcondition, hrest⟩
      refine ⟨hcorresponds s t h, (hagrees s t call h hcall).mpr hcondition, ?_⟩
      exact (ih _ _ (hkept s t call h hcall hcondition) hcalls).mpr hrest

/-- Outcomes with the same error, or with the same result and corresponding states. -/
def Tracks (corresponds : σ → τ → Prop) : Except ε (ρ × σ) → Except ε (ρ × τ) → Prop
  | .ok (result, s), .ok (other, t) => result = other ∧ corresponds s t
  | .error e, .error other => e = other
  | _, _ => False

section
variable {corresponds : σ → τ → Prop}

/-- Programs that begin alike agree when their rests do. -/
theorem Tracks.bind {α : Type} {x : Except ε α} {f : α → Except ε (ρ × σ)} {g : α → Except ε (ρ × τ)}
    (h : ∀ a, x = .ok a → Tracks corresponds (f a) (g a)) : Tracks corresponds (x >>= f) (x >>= g) := by
  cases x with
  | error e => exact rfl
  | ok a => exact h a rfl

/-- The same answer from corresponding states. -/
theorem Tracks.ok {result : ρ} {s : σ} {t : τ} (h : corresponds s t) :
    Tracks (ε := ε) corresponds (.ok (result, s)) (.ok (result, t)) := ⟨rfl, h⟩

/-- Calls that track each other have the same outcome. -/
theorem Tracks.sameOutcome {x : Except ε (ρ × σ)} {y : Except ε (ρ × τ)} (h : Tracks corresponds x y)
    (hsame : ∀ e, same e e) : SameOutcome same x y := by
  rcases x with e | ⟨result, s⟩ <;> rcases y with e' | ⟨result', t⟩
  · obtain rfl : e = e' := h
    exact hsame e
  · exact h.elim
  · exact h.elim
  · exact h.1

/-- Corresponding states stay so under a call. -/
theorem Tracks.exec {s : σ} {t : τ} {call : κ} (h : Tracks corresponds (first.perform s call) (second.perform t call))
    (hst : corresponds s t) : corresponds (first.exec s call) (second.exec t call) := by
  unfold Service.exec
  cases hx : first.perform s call with
  | error e =>
    cases hy : second.perform t call with
    | error e' => exact hst
    | ok out =>
      rw [hx, hy] at h
      exact h.elim
  | ok out =>
    cases hy : second.perform t call with
    | error e' =>
      rw [hx, hy] at h
      exact h.elim
    | ok out' =>
      rw [hx, hy] at h
      exact h.2

end

end Service
end Uumi.Foundations
