import Mathlib

/-! Finite sequences of atomic calls on one state. A call either succeeds with a result and
a next state, or raises and leaves the state as it was. -/
namespace Uumi.Foundations

/-- What one call does: the outcome carries the next state only when the call succeeds. -/
structure Service (σ κ ρ ε : Type) where
  perform : σ → κ → Except ε (ρ × σ)

namespace Service
variable {σ κ ρ ε : Type} (service : Service σ κ ρ ε)

def exec (s : σ) (call : κ) : σ :=
  match service.perform s call with
  | .ok out => out.2
  | .error _ => s

def run (s : σ) (calls : List κ) : σ := calls.foldl service.exec s

@[simp] theorem run_nil (s : σ) : service.run s [] = s := rfl

@[simp] theorem run_cons (s : σ) (call : κ) (calls : List κ) :
    service.run s (call :: calls) = service.run (service.exec s call) calls := rfl

private theorem run_append (s : σ) (before after : List κ) :
    service.run s (before ++ after) = service.run (service.run s before) after :=
  List.foldl_append

/-- A call that returns leaves the state that it returns. -/
theorem exec_of_ok {s s' : σ} {call : κ} {result : ρ}
    (h : service.perform s call = .ok (result, s')) : service.exec s call = s' := by
  simp [exec, h]

/-- A call that raises leaves the state as it was. -/
theorem exec_of_error {s : σ} {call : κ} {e : ε}
    (h : service.perform s call = .error e) : service.exec s call = s := by
  simp [exec, h]

/-- A call changes the state only by succeeding. -/
theorem exec_cases (s : σ) (call : κ) :
    (∃ e, service.perform s call = .error e ∧ service.exec s call = s) ∨
      ∃ result s', service.perform s call = .ok (result, s') ∧ service.exec s call = s' := by
  cases h : service.perform s call with
  | error e => exact .inl ⟨e, rfl, service.exec_of_error h⟩
  | ok out => exact .inr ⟨out.1, out.2, rfl, service.exec_of_ok h⟩

/-- A property that every successful call admitted by `A` preserves holds after any sequence
of such calls. -/
theorem run_invariant {I : σ → Prop} {A : κ → Prop}
    (step : ∀ s call result s', A call → I s → service.perform s call = .ok (result, s') → I s')
    (calls : List κ) (hok : ∀ call ∈ calls, A call) (s : σ) (h : I s) :
    I (service.run s calls) := by
  induction calls generalizing s with
  | nil => exact h
  | cons call calls ih =>
    apply ih (fun c hc => hok c (List.mem_cons_of_mem _ hc))
    rcases service.exec_cases s call with ⟨e, _, he⟩ | ⟨result, s', hp, he⟩
    · rwa [he]
    · rw [he]
      exact step s call result s' (hok call List.mem_cons_self) h hp

/-- A reflexive and transitive relation that every successful call respects, on states that
satisfy an invariant of the calls, relates the first and the last state of any sequence. -/
theorem run_relates {I : σ → Prop} {R : σ → σ → Prop}
    (invariant : ∀ s call result s', I s → service.perform s call = .ok (result, s') → I s')
    (refl : ∀ s, R s s) (trans : ∀ s t u, R s t → R t u → R s u)
    (step : ∀ s call result s', I s → service.perform s call = .ok (result, s') → R s s')
    (calls : List κ) (s : σ) (h : I s) : R s (service.run s calls) := by
  induction calls generalizing s with
  | nil => exact refl s
  | cons call calls ih =>
    rcases service.exec_cases s call with ⟨e, _, he⟩ | ⟨result, s', hp, he⟩
    · rw [run_cons, he]
      exact ih s h
    · rw [run_cons, he]
      exact trans s s' _ (step s call result s' h hp) (ih s' (invariant s call result s' h hp))

/-- The states reachable from an initial state by finitely many calls. -/
def Reachable (initial : σ → Prop) (s : σ) : Prop :=
  ∃ s₀ calls, initial s₀ ∧ s = service.run s₀ calls

variable {service}

/-- More calls stay within the reachable states. -/
theorem Reachable.run {initial : σ → Prop} {s : σ} (h : service.Reachable initial s)
    (calls : List κ) : service.Reachable initial (service.run s calls) := by
  obtain ⟨s₀, before, h₀, rfl⟩ := h
  exact ⟨s₀, before ++ calls, h₀, (service.run_append s₀ before calls).symm⟩

/-- One more call stays within the reachable states. -/
theorem Reachable.exec {initial : σ → Prop} {s : σ} (h : service.Reachable initial s)
    (call : κ) : service.Reachable initial (service.exec s call) :=
  h.run [call]

/-- An inductive invariant holds in every reachable state. -/
theorem Reachable.invariant {initial I : σ → Prop} {s : σ} (h : service.Reachable initial s)
    (init : ∀ s, initial s → I s)
    (step : ∀ s call result s', I s → service.perform s call = .ok (result, s') → I s') : I s := by
  obtain ⟨s₀, calls, h₀, rfl⟩ := h
  exact service.run_invariant (A := fun _ => True) (fun s call result s' _ => step s call result s')
    calls (fun _ _ => trivial) s₀ (init s₀ h₀)

end Service
end Uumi.Foundations
