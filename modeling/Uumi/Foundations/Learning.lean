import Uumi.Foundations.Interaction

/-! Programs that go by what they have learnt: a call may need facts to be known, and its answer may teach more. Side by
side, what each program knows stays true. -/
namespace Uumi.Foundations
variable {Op : Type} {Answer : Op → Type} {ε α β F : Type}

namespace Program

/-- What a program that knows some facts may know after a call is answered. Nothing is forgotten. -/
structure Learning (Op : Type) (Answer : Op → Type) (ε F : Type) where
  world : World Op Answer ε (Set F)
  grows : ∀ {known op answer after}, world known op answer after → known ⊆ after

/-- A program makes only calls that are justified by what it knows, never forgets, and returns in its postcondition. -/
abbrev Learns (learning : Learning Op Answer ε F) (justified : Set F → Op → Prop) (p : Program Op Answer ε α)
    (known : Set F) (post : α → Set F → Prop) : Prop :=
  p.Spec learning.world justified known fun outcome after => known ⊆ after ∧ ∀ a, outcome = .ok a → post a after

namespace Learns
variable {learning : Learning Op Answer ε F} {justified : Set F → Op → Prop} {known : Set F}

private theorem ofSpec {p : Program Op Answer ε α} {post : α → Set F → Prop}
    (h : p.Spec learning.world justified known fun outcome after => ∀ a, outcome = .ok a → post a after) :
    Learns learning justified p known post :=
  h.remember (fun _ => subset_rfl) (fun _ _ _ => Set.Subset.trans) fun _ _ _ _ => learning.grows

/-- Calls that need no fact. -/
theorem plain {P : Op → Prop} {p : Program Op Answer ε α} (h : p.Calls P)
    (permitted : ∀ known op, P op → justified known op) : Learns learning justified p known fun _ _ => True :=
  ofSpec ((h.permitted permitted).mono fun _ _ _ _ _ => trivial)

/-- A value, where the postcondition holds already. -/
theorem pure {a : α} {post : α → Set F → Prop} (h : post a known) :
    Learns learning justified (Pure.pure a) known post :=
  ⟨subset_rfl, fun _ ha => Except.ok.inj ha ▸ h⟩

/-- An error has nothing to learn for. -/
theorem raised {e : ε} {post : α → Set F → Prop} : Learns learning justified (lift (.error e)) known post :=
  ⟨subset_rfl, nofun⟩

/-- A choice, of which the condition is known in each branch. -/
theorem choice {c : Prop} [Decidable c] {p q : Program Op Answer ε α} {post : α → Set F → Prop}
    (hp : c → Learns learning justified p known post) (hq : ¬ c → Learns learning justified q known post) :
    Learns learning justified (if c then p else q) known post := by
  split
  · rename_i h
    exact hp h
  · rename_i h
    exact hq h

/-- A sequence goes on with what its first part has learnt. -/
theorem bind {p : Program Op Answer ε α} {f : α → Program Op Answer ε β} {mid : α → Set F → Prop}
    {post : β → Set F → Prop} (h : Learns learning justified p known mid)
    (rest : ∀ a after, known ⊆ after → mid a after → Learns learning justified (f a) after post) :
    Learns learning justified (p >>= f) known post :=
  Spec.andThen h
    (fun a after ⟨grown, hm⟩ => (rest a after grown (hm a rfl)).mono fun _ _ ⟨later, hp⟩ => ⟨grown.trans later, hp⟩)
    fun _ _ ⟨grown, _⟩ => ⟨grown, nofun⟩

/-- A computation that calls nothing, and what follows it. -/
theorem lifted {x : Except ε α} {f : α → Program Op Answer ε β} {post : β → Set F → Prop}
    (rest : ∀ a, x = .ok a → Learns learning justified (f a) known post) :
    Learns learning justified (lift x >>= f) known post := by
  cases x with
  | ok a => exact rest a rfl
  | error e => exact raised

/-- A computation that calls nothing, at the end. -/
theorem last {x : Except ε α} {post : α → Set F → Prop} (h : ∀ a, x = .ok a → post a known) :
    Learns learning justified (lift x) known post := by
  cases x with
  | ok a => exact pure (h a rfl)
  | error e => exact raised

/-- A handler goes on with whatever was learnt before the error. -/
theorem handled {p : Program Op Answer ε α} {handler : ε → Program Op Answer ε α} {post : α → Set F → Prop}
    (h : Learns learning justified p known post)
    (handles : ∀ e after, known ⊆ after → Learns learning justified (handler e) after post) :
    Learns learning justified (p.tryCatch handler) known post :=
  Spec.orElse h (fun _ _ done => done) fun e after ⟨grown, _⟩ =>
    (handles e after grown).mono fun _ _ ⟨later, hp⟩ => ⟨grown.trans later, hp⟩

/-- A weaker postcondition, at whatever has been learnt. -/
theorem weaken {p : Program Op Answer ε α} {post more : α → Set F → Prop} (h : Learns learning justified p known post)
    (imp : ∀ a after, known ⊆ after → post a after → more a after) : Learns learning justified p known more :=
  h.mono fun _ after ⟨grown, hp⟩ => ⟨grown, fun a ha => imp a after grown (hp a ha)⟩

/-- A call, and what follows it. -/
theorem call {op : Op} {f : Answer op → Program Op Answer ε β} {post : β → Set F → Prop} (h : justified known op)
    (rest : ∀ a after, known ⊆ after → learning.world known op (.ok a) after →
      Learns learning justified (f a) after post) :
    Learns learning justified (perform op >>= f) known post := by
  refine Spec.callThen h (fun a after learnt => ?_) fun _ _ learnt => ⟨learning.grows learnt, nofun⟩
  have grown := learning.grows learnt
  exact (rest a after grown learnt).mono fun _ _ ⟨later, hp⟩ => ⟨grown.trans later, hp⟩

/-- A call at the end. -/
theorem lastCall {op : Op} {post : Answer op → Set F → Prop} (h : justified known op)
    (learns : ∀ a after, learning.world known op (.ok a) after → post a after) :
    Learns learning justified (perform op) known post :=
  ⟨h, fun _ after learnt => ⟨learning.grows learnt, fun a ha => learns a after (ha ▸ learnt)⟩⟩

end Learns
end Program

namespace Pool
variable {ι σ : Type} [DecidableEq ι]

/-- The shared state is consistent with what has happened, what every program knows is true, and what is left of it
goes by what it knows. -/
structure Informed (learning : Program.Learning Op Answer ε F) (justified : ι → Set F → Op → Prop)
    (ends : ι → α → Set F → Prop) (consistent : List (Event ι Op Answer ε) → σ → Prop)
    (holds : ι → List (Event ι Op Answer ε) → σ → F → Prop) (events : List (Event ι Op Answer ε))
    (pool : Pool ι Op Answer ε α σ) (known : ι → Set F) : Prop where
  consistent : consistent events pool.state
  facts : ∀ i, ∀ fact ∈ known i, holds i events pool.state fact
  follows : ∀ i, (pool.programs i).Spec learning.world (justified i) (known i) fun outcome after =>
    ∀ a, outcome = .ok a → ends i a after

variable {world : Program.World Op Answer ε σ} {admits : List (Event ι Op Answer ε) → ι → Op → Prop}
  {learning : Program.Learning Op Answer ε F} {justified : ι → Set F → Op → Prop} {ends : ι → α → Set F → Prop}
  {consistent : List (Event ι Op Answer ε) → σ → Prop} {holds : ι → List (Event ι Op Answer ε) → σ → F → Prop}
  {before events : List (Event ι Op Answer ε)} {start pool : Pool ι Op Answer ε α σ}

/-- The rule of knowledge. When justified calls keep the state consistent and every fact true, and teach only what is
true, programs stay informed. -/
theorem Run.informed {known : ι → Set F}
    (informed : Informed learning justified ends consistent holds before start known)
    (kept : ∀ who events s op answer t known, consistent events s → (∀ fact ∈ known, holds who events s fact) →
      justified who known op → world s op answer t → consistent (events ++ [⟨who, op, answer⟩]) t ∧
        (∀ i fact, holds i events s fact → holds i (events ++ [⟨who, op, answer⟩]) t fact) ∧
        ∃ after, learning.world known op answer after ∧ ∀ fact ∈ after, holds who (events ++ [⟨who, op, answer⟩]) t fact)
    (run : Run world admits before start events pool) :
    ∃ known', Informed learning justified ends consistent holds events pool known' := by
  obtain ⟨known', ⟨hc, facts⟩, follows⟩ := run.invariant
    (fun events s known => consistent events s ∧ ∀ i, ∀ fact ∈ known i, holds i events s fact)
    known ⟨informed.consistent, informed.facts⟩ informed.follows (by
      rintro events s known who op answer t ⟨hc, facts⟩ hj - answered
      obtain ⟨ht, later, after, learnt, taught⟩ := kept who events s op answer t (known who) hc (facts who) hj answered
      refine ⟨after, learnt, ht, fun i fact hf => ?_⟩
      by_cases hi : i = who
      · subst hi
        rw [Function.update_self] at hf
        exact taught fact hf
      · rw [Function.update_of_ne hi] at hf
        exact later i fact (facts i fact hf))
  exact ⟨known', hc, facts, follows⟩

end Pool
end Uumi.Foundations
