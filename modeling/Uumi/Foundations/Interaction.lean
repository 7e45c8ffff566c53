import Mathlib
import Uumi.Foundations.Results

/-! Programs that call operations outside and go on with their answers. A program is a tree of calls; a world says
which answers each call may get and what it changes. Any number of programs may run side by side. -/
namespace Uumi.Foundations

/-- A program over operations `Op` that raises errors of type `ε`. -/
inductive Program (Op : Type) (Answer : Op → Type) (ε α : Type) where
  | finish (outcome : Except ε α)
  | call (op : Op) (next : Except ε (Answer op) → Program Op Answer ε α)

namespace Program
variable {Op : Type} {Answer : Op → Type} {ε α β σ : Type}

def perform (op : Op) : Program Op Answer ε (Answer op) := .call op .finish

def lift (outcome : Except ε α) : Program Op Answer ε α := .finish outcome

def bind (p : Program Op Answer ε α) (f : α → Program Op Answer ε β) : Program Op Answer ε β :=
  match p with
  | .finish (.ok a) => f a
  | .finish (.error e) => .finish (.error e)
  | .call op next => .call op fun answer => (next answer).bind f

def tryCatch (p : Program Op Answer ε α) (handler : ε → Program Op Answer ε α) : Program Op Answer ε α :=
  match p with
  | .finish (.ok a) => .finish (.ok a)
  | .finish (.error e) => handler e
  | .call op next => .call op fun answer => (next answer).tryCatch handler

instance : Monad (Program Op Answer ε) where
  pure a := .finish (.ok a)
  bind := bind

@[simp] theorem ok_then (a : α) (f : α → Program Op Answer ε β) :
    ((Program.finish (.ok a) : Program Op Answer ε α) >>= f) = f a := rfl

@[simp] theorem error_then (e : ε) (f : α → Program Op Answer ε β) :
    ((Program.finish (.error e) : Program Op Answer ε α) >>= f) = .finish (.error e) := rfl

@[simp] theorem call_then (op : Op) (next : Except ε (Answer op) → Program Op Answer ε α)
    (f : α → Program Op Answer ε β) :
    (Program.call op next >>= f) = .call op fun answer => next answer >>= f := rfl

/-- What a call may answer in a state, and the state after it. -/
abbrev World (Op : Type) (Answer : Op → Type) (ε σ : Type) := σ → (op : Op) → Except ε (Answer op) → σ → Prop

/-- A program gets from one state to another, and this much of it is left. -/
inductive Steps (world : World Op Answer ε σ) : σ → Program Op Answer ε α → σ → Program Op Answer ε α → Prop where
  | refl (s : σ) (p : Program Op Answer ε α) : Steps world s p s p
  | call {s t u : σ} {op : Op} {answer : Except ε (Answer op)}
      {next : Except ε (Answer op) → Program Op Answer ε α} {q : Program Op Answer ε α}
      (answered : world s op answer t) (rest : Steps world t (next answer) u q) : Steps world s (.call op next) u q

variable {world : World Op Answer ε σ}

/-- Steps may be joined. -/
theorem Steps.trans {s t u : σ} {p q r : Program Op Answer ε α} (h : Steps world s p t q)
    (h' : Steps world t q u r) : Steps world s p u r := by
  induction h with
  | refl => exact h'
  | call answered _ ih => exact .call answered (ih h')

/-- The steps of a first part are steps of the whole. -/
theorem Steps.bind {s t : σ} {p q : Program Op Answer ε α} (h : Steps world s p t q)
    (f : α → Program Op Answer ε β) : Steps world s (p >>= f) t (q >>= f) := by
  induction h with
  | refl => exact .refl ..
  | call answered _ ih => exact .call answered ih

/-- The steps of a program are steps under a handler. -/
theorem Steps.tryCatch {s t : σ} {p q : Program Op Answer ε α} (h : Steps world s p t q)
    (handler : ε → Program Op Answer ε α) : Steps world s (p.tryCatch handler) t (q.tryCatch handler) := by
  induction h with
  | refl => exact .refl ..
  | call answered _ ih => exact .call answered ih

/-- A first part that returns hands over to the rest. -/
theorem Steps.andThen {s t u : σ} {p : Program Op Answer ε α} {a : α} {f : α → Program Op Answer ε β}
    {q : Program Op Answer ε β} (h : Steps world s p t (.finish (.ok a))) (rest : Steps world t (f a) u q) :
    Steps world s (p >>= f) u q :=
  (h.bind f).trans rest

/-- A computation that calls nothing, and what follows it. -/
theorem Steps.liftThen {s t : σ} {x : Except ε α} {a : α} {f : α → Program Op Answer ε β} {q : Program Op Answer ε β}
    (h : x = .ok a) (rest : Steps world s (f a) t q) : Steps world s (lift x >>= f) t q := by
  subst h
  exact rest

/-- A call that is answered, and what follows it. -/
theorem Steps.callThen {s u : σ} {op : Op} (a : Answer op) (t : σ) {f : Answer op → Program Op Answer ε β}
    {q : Program Op Answer ε β} (h : world s op (.ok a) t) (rest : Steps world t (f a) u q) :
    Steps world s (perform op >>= f) u q :=
  .call h rest

/-- Steps of a sequence are steps of its first part, or go beyond it. -/
theorem Steps.of_bind {s t : σ} {p : Program Op Answer ε α} {f : α → Program Op Answer ε β}
    {q : Program Op Answer ε β} (h : Steps world s (p >>= f) t q) :
    (∃ r, Steps world s p t r ∧ q = (r >>= f)) ∨
      ∃ u a, Steps world s p u (.finish (.ok a)) ∧ Steps world u (f a) t q := by
  induction p generalizing s with
  | finish outcome =>
    cases outcome with
    | ok a => exact .inr ⟨s, a, .refl .., h⟩
    | error e =>
      cases h
      exact .inl ⟨_, .refl .., rfl⟩
  | call op next ih =>
    cases h with
    | refl => exact .inl ⟨_, .refl .., rfl⟩
    | call answered rest =>
      rcases ih _ rest with ⟨r, hr, rfl⟩ | ⟨u, a, hu, hq⟩
      · exact .inl ⟨r, .call answered hr, rfl⟩
      · exact .inr ⟨u, a, .call answered hu, hq⟩

/-- From `s` on, the program makes only calls that are allowed in their states, and ends in an outcome and a state
that satisfy the postcondition. -/
def Spec (world : World Op Answer ε σ) (allowed : σ → Op → Prop) (p : Program Op Answer ε α) (s : σ)
    (post : Except ε α → σ → Prop) : Prop :=
  match p with
  | .finish outcome => post outcome s
  | .call op next => allowed s op ∧ ∀ answer t, world s op answer t → (next answer).Spec world allowed t post

variable {allowed : σ → Op → Prop} {s : σ}

@[simp] theorem spec_finish (outcome : Except ε α) (post : Except ε α → σ → Prop) :
    Spec world allowed (.finish outcome) s post ↔ post outcome s := Iff.rfl

@[simp] theorem spec_pure (a : α) (post : Except ε α → σ → Prop) :
    Spec world allowed (pure a : Program Op Answer ε α) s post ↔ post (.ok a) s := Iff.rfl

@[simp] theorem spec_lift (outcome : Except ε α) (post : Except ε α → σ → Prop) :
    Spec world allowed (lift outcome : Program Op Answer ε α) s post ↔ post outcome s := Iff.rfl

@[simp] theorem spec_perform (op : Op) (post : Except ε (Answer op) → σ → Prop) :
    Spec world allowed (perform op) s post ↔
      allowed s op ∧ ∀ answer t, world s op answer t → post answer t := Iff.rfl

/-- A specification with a weaker postcondition. -/
theorem Spec.mono {p : Program Op Answer ε α} {post post' : Except ε α → σ → Prop}
    (h : Spec world allowed p s post) (imp : ∀ outcome t, post outcome t → post' outcome t) :
    Spec world allowed p s post' := by
  induction p generalizing s with
  | finish outcome => exact imp _ _ h
  | call op next ih => exact ⟨h.1, fun answer t ht => ih answer (h.2 answer t ht)⟩

/-- The rule of sequence: the rest starts where the first part returned, an error ends both. -/
theorem spec_bind (p : Program Op Answer ε α) (f : α → Program Op Answer ε β) (post : Except ε β → σ → Prop) :
    Spec world allowed (p >>= f) s post ↔
      Spec world allowed p s fun outcome t => match outcome with
        | .ok a => Spec world allowed (f a) t post
        | .error e => post (.error e) t := by
  induction p generalizing s with
  | finish outcome => cases outcome <;> exact Iff.rfl
  | call op next ih =>
    exact and_congr_right fun _ => forall_congr' fun answer => forall_congr' fun t => imp_congr_right fun _ => ih answer

/-- The rule of handlers. -/
theorem spec_tryCatch (p : Program Op Answer ε α) (handler : ε → Program Op Answer ε α)
    (post : Except ε α → σ → Prop) :
    Spec world allowed (p.tryCatch handler) s post ↔
      Spec world allowed p s fun outcome t => match outcome with
        | .ok a => post (.ok a) t
        | .error e => Spec world allowed (handler e) t post := by
  induction p generalizing s with
  | finish outcome => cases outcome <;> exact Iff.rfl
  | call op next ih =>
    exact and_congr_right fun _ => forall_congr' fun answer => forall_congr' fun t => imp_congr_right fun _ => ih answer

/-- The rule of sequence, from a specification of the first part. -/
theorem Spec.andThen {p : Program Op Answer ε α} {f : α → Program Op Answer ε β} {mid : Except ε α → σ → Prop}
    {post : Except ε β → σ → Prop} (h : Spec world allowed p s mid)
    (returned : ∀ a t, mid (.ok a) t → Spec world allowed (f a) t post)
    (raised : ∀ e t, mid (.error e) t → post (.error e) t) : Spec world allowed (p >>= f) s post := by
  rw [spec_bind]
  refine h.mono fun outcome t ht => ?_
  cases outcome with
  | ok a => exact returned a t ht
  | error e => exact raised e t ht

/-- The rule of handlers, from a specification of what they guard. -/
theorem Spec.orElse {p : Program Op Answer ε α} {handler : ε → Program Op Answer ε α}
    {mid post : Except ε α → σ → Prop} (h : Spec world allowed p s mid)
    (returned : ∀ a t, mid (.ok a) t → post (.ok a) t)
    (raised : ∀ e t, mid (.error e) t → Spec world allowed (handler e) t post) :
    Spec world allowed (p.tryCatch handler) s post := by
  rw [spec_tryCatch]
  refine h.mono fun outcome t ht => ?_
  cases outcome with
  | ok a => exact returned a t ht
  | error e => exact raised e t ht

/-- A computation that calls nothing, and what follows it. -/
theorem Spec.liftThen {x : Except ε α} {f : α → Program Op Answer ε β} {post : Except ε β → σ → Prop}
    (returned : ∀ a, x = .ok a → Spec world allowed (f a) s post)
    (raised : ∀ e, x = .error e → post (.error e) s) : Spec world allowed (lift x >>= f) s post := by
  cases x with
  | ok a => exact returned a rfl
  | error e => exact raised e rfl

/-- A call, and what follows it. -/
theorem Spec.callThen {op : Op} {f : Answer op → Program Op Answer ε β} {post : Except ε β → σ → Prop}
    (h : allowed s op) (returned : ∀ a t, world s op (.ok a) t → Spec world allowed (f a) t post)
    (raised : ∀ e t, world s op (.error e) t → post (.error e) t) :
    Spec world allowed (perform op >>= f) s post := by
  refine ⟨h, fun answer t ht => ?_⟩
  cases answer with
  | ok a => exact returned a t ht
  | error e => exact raised e t ht

/-- What is left of a program keeps its specification. -/
theorem Spec.steps {p q : Program Op Answer ε α} {t : σ} {post : Except ε α → σ → Prop}
    (h : Spec world allowed p s post) (hs : Steps world s p t q) : Spec world allowed q t post := by
  induction hs with
  | refl => exact h
  | call answered _ ih => exact ih (h.2 _ _ answered)

/-- A call that a program reaches is allowed there. -/
theorem Spec.reaches {p : Program Op Answer ε α} {t : σ} {op : Op}
    {next : Except ε (Answer op) → Program Op Answer ε α} {post : Except ε α → σ → Prop}
    (h : Spec world allowed p s post) (hs : Steps world s p t (.call op next)) : allowed t op :=
  (h.steps hs).1

/-- A program that ends does so in its postcondition. -/
theorem Spec.ends {p : Program Op Answer ε α} {t : σ} {outcome : Except ε α} {post : Except ε α → σ → Prop}
    (h : Spec world allowed p s post) (hs : Steps world s p t (.finish outcome)) : post outcome t :=
  h.steps hs

/-- What every answer leads to, a program leads to as well: its postcondition may compare with where it began. -/
theorem Spec.remember {p : Program Op Answer ε α} {R : σ → σ → Prop} {post : Except ε α → σ → Prop}
    (h : Spec world allowed p s post)
    (refl : ∀ s, R s s) (trans : ∀ s t u, R s t → R t u → R s u) (step : ∀ s op answer t, world s op answer t → R s t) :
    Spec world allowed p s fun outcome t => R s t ∧ post outcome t := by
  induction p generalizing s with
  | finish outcome => exact ⟨refl s, h⟩
  | call op next ih =>
    refine ⟨h.1, fun answer t ht => (ih answer (h.2 answer t ht)).mono fun outcome u hu => ?_⟩
    exact ⟨trans s t u (step s op answer t ht) hu.1, hu.2⟩

/-- Every call that the program may make, whatever the answers, satisfies `P`. -/
def Calls (P : Op → Prop) : Program Op Answer ε α → Prop
  | .finish _ => True
  | .call op next => P op ∧ ∀ answer, (next answer).Calls P

variable {P : Op → Prop}

/-- A computation calls nothing. -/
theorem calls_lift (outcome : Except ε α) : (lift outcome : Program Op Answer ε α).Calls P := trivial

/-- A value calls nothing. -/
theorem calls_pure (a : α) : (pure a : Program Op Answer ε α).Calls P := trivial

/-- A single call. -/
theorem calls_perform {op : Op} (h : P op) : (perform op : Program Op Answer ε (Answer op)).Calls P :=
  ⟨h, fun _ => trivial⟩

/-- A sequence calls what its parts call. -/
theorem Calls.bind {p : Program Op Answer ε α} {f : α → Program Op Answer ε β} (h : p.Calls P)
    (hf : ∀ a, (f a).Calls P) : (p >>= f).Calls P := by
  induction p with
  | finish outcome =>
    cases outcome with
    | ok a => exact hf a
    | error e => trivial
  | call op next ih => exact ⟨h.1, fun answer => ih answer (h.2 answer)⟩

/-- A handled program calls what it and the handler call. -/
theorem Calls.tryCatch {p : Program Op Answer ε α} {handler : ε → Program Op Answer ε α} (h : p.Calls P)
    (hh : ∀ e, (handler e).Calls P) : (p.tryCatch handler).Calls P := by
  induction p with
  | finish outcome =>
    cases outcome with
    | ok a => trivial
    | error e => exact hh e
  | call op next ih => exact ⟨h.1, fun answer => ih answer (h.2 answer)⟩

/-- A choice calls what its branches call. -/
theorem Calls.choice {c : Prop} [Decidable c] {p q : Program Op Answer ε α} (hp : p.Calls P) (hq : q.Calls P) :
    (if c then p else q).Calls P := by
  split
  · exact hp
  · exact hq

/-- A program makes no calls but these, and those are allowed. -/
theorem Calls.mono {Q : Op → Prop} {p : Program Op Answer ε α} (h : p.Calls P) (imp : ∀ op, P op → Q op) :
    p.Calls Q := by
  induction p with
  | finish outcome => trivial
  | call op next ih => exact ⟨imp op h.1, fun answer => ih answer (h.2 answer)⟩

/-- Calls that are allowed in a state and do not change it keep the whole program there. -/
theorem Calls.keeps {p : Program Op Answer ε α} (h : p.Calls P) (permitted : ∀ op, P op → allowed s op)
    (kept : ∀ op answer t, P op → world s op answer t → t = s) : Spec world allowed p s fun _ t => t = s := by
  induction p with
  | finish outcome => rfl
  | call op next ih =>
    refine ⟨permitted op h.1, fun answer t ht => ?_⟩
    obtain rfl := kept op answer t h.1 ht
    exact ih answer (h.2 answer)

/-- Every value that the program may return, whatever the answers, satisfies `Q`. -/
def Returns (Q : α → Prop) : Program Op Answer ε α → Prop
  | .finish (.ok a) => Q a
  | .finish (.error _) => True
  | .call _ next => ∀ answer, (next answer).Returns Q

/-- A sequence returns what its last part returns. -/
theorem Returns.bind {Q : β → Prop} (p : Program Op Answer ε α) {f : α → Program Op Answer ε β}
    (hf : ∀ a, (f a).Returns Q) : (p >>= f).Returns Q := by
  induction p with
  | finish outcome =>
    cases outcome with
    | ok a => exact hf a
    | error e => trivial
  | call op next ih => exact fun answer => ih answer

/-- A specification holds together with what the program returns. -/
theorem Returns.spec {Q : α → Prop} {p : Program Op Answer ε α} {post : Except ε α → σ → Prop} (h : p.Returns Q)
    (hs : Spec world allowed p s post) :
    Spec world allowed p s fun outcome t => post outcome t ∧ ∀ a, outcome = .ok a → Q a := by
  induction p generalizing s with
  | finish outcome =>
    refine ⟨hs, ?_⟩
    rintro a rfl
    exact h
  | call op next ih => exact ⟨hs.1, fun answer t ht => ih answer (h answer) (hs.2 answer t ht)⟩

/-- What a program returns, wherever its steps end. -/
theorem Returns.ends {Q : α → Prop} {p : Program Op Answer ε α} {t : σ} {a : α} (h : p.Returns Q)
    (hs : Steps world s p t (.finish (.ok a))) : Q a := by
  generalize hq : (Program.finish (.ok a) : Program Op Answer ε α) = q at hs
  induction hs with
  | refl =>
    subst hq
    exact h
  | call _ _ ih => exact ih (h _) hq

/-- What such calls keep, the whole program keeps. -/
theorem Calls.steps_keep {I : σ → Prop} {p q : Program Op Answer ε α} {t : σ} (h : p.Calls P)
    (kept : ∀ s op answer t, P op → I s → world s op answer t → I t) (steps : Steps world s p t q) (init : I s) :
    I t := by
  induction steps with
  | refl => exact init
  | call answered _ ih => exact ih (h.2 _) (kept _ _ _ _ h.1 init answered)

/-- Nothing is asked of a program. -/
theorem spec_anyway (p : Program Op Answer ε α) : Spec world (fun _ _ => True) p s fun _ _ => True := by
  induction p generalizing s with
  | finish outcome => trivial
  | call op next ih => exact ⟨trivial, fun answer t _ => ih answer⟩

/-- A program whose calls are allowed everywhere satisfies the specification that asks for nothing else. -/
theorem Calls.permitted {p : Program Op Answer ε α} (h : p.Calls P) (permitted : ∀ s op, P op → allowed s op) :
    Spec world allowed p s fun _ _ => True := by
  induction p generalizing s with
  | finish outcome => trivial
  | call op next ih => exact ⟨permitted s op h.1, fun answer t _ => ih answer (h.2 answer)⟩

/-- In any world and from any state, such a program makes such calls only. -/
theorem Calls.spec {p : Program Op Answer ε α} (h : p.Calls P) : Spec world (fun _ => P) p s fun _ _ => True :=
  h.permitted fun _ _ hp => hp

end Program

/-- The shared state, and what is left of every program. -/
structure Pool (ι Op : Type) (Answer : Op → Type) (ε α σ : Type) where
  state : σ
  programs : ι → Program Op Answer ε α

namespace Pool
variable {ι Op : Type} {Answer : Op → Type} {ε α σ : Type} [DecidableEq ι]

/-- Who called what, and the answer. -/
structure Event (ι Op : Type) (Answer : Op → Type) (ε : Type) where
  who : ι
  op : Op
  answer : Except ε (Answer op)

/-- The runs of a pool, from what has happened before to what has happened after, earliest first. In every step one
program makes its next call. A step has to be admitted, given what has happened. A program that makes no more calls has
crashed. -/
inductive Run (world : Program.World Op Answer ε σ) (admits : List (Event ι Op Answer ε) → ι → Op → Prop)
    (before : List (Event ι Op Answer ε)) (start : Pool ι Op Answer ε α σ) :
    List (Event ι Op Answer ε) → Pool ι Op Answer ε α σ → Prop where
  | nil : Run world admits before start before start
  | step {events : List (Event ι Op Answer ε)} {pool : Pool ι Op Answer ε α σ} {who : ι} {op : Op}
      {next : Except ε (Answer op) → Program Op Answer ε α} {answer : Except ε (Answer op)} {t : σ}
      (run : Run world admits before start events pool) (turn : pool.programs who = .call op next)
      (admitted : admits events who op) (answered : world pool.state op answer t) :
      Run world admits before start (events ++ [⟨who, op, answer⟩])
        ⟨t, Function.update pool.programs who (next answer)⟩

variable {world : Program.World Op Answer ε σ} {admits : List (Event ι Op Answer ε) → ι → Op → Prop}
  {before events : List (Event ι Op Answer ε)} {start pool : Pool ι Op Answer ε α σ}

/-- Runs may be joined. -/
theorem Run.trans {later : List (Event ι Op Answer ε)} {last : Pool ι Op Answer ε α σ}
    (run : Run world admits before start events pool) (rest : Run world admits events pool later last) :
    Run world admits before start later last := by
  induction rest with
  | nil => exact run
  | step _ turn admitted answered ih => exact .step ih turn admitted answered

/-- The rule of pools. Every program follows a specification over a local state of its own. An invariant relates the
events, the shared state and the local states; an allowed step keeps it, with a local step of its program. -/
theorem Run.invariant {φ : Type} {locally : ι → Program.World Op Answer ε φ} {allowed : ι → φ → Op → Prop}
    {post : ι → Except ε α → φ → Prop} (I : List (Event ι Op Answer ε) → σ → (ι → φ) → Prop) (g₀ : ι → φ)
    (init : I before start.state g₀)
    (specs : ∀ i, (start.programs i).Spec (locally i) (allowed i) (g₀ i) (post i))
    (preserved : ∀ events s g who op answer t, I events s g → allowed who (g who) op → admits events who op →
      world s op answer t → ∃ φ', locally who (g who) op answer φ' ∧
        I (events ++ [⟨who, op, answer⟩]) t (Function.update g who φ'))
    (run : Run world admits before start events pool) :
    ∃ g, I events pool.state g ∧ ∀ i, (pool.programs i).Spec (locally i) (allowed i) (g i) (post i) := by
  induction run with
  | nil => exact ⟨g₀, init, specs⟩
  | @step events pool who op next answer t run turn admitted answered ih =>
    obtain ⟨g, hI, hs⟩ := ih
    have hspec := hs who
    rw [turn] at hspec
    obtain ⟨φ', hlocal, hI'⟩ := preserved events pool.state g who op answer t hI hspec.1 admitted answered
    refine ⟨Function.update g who φ', hI', fun i => ?_⟩
    by_cases hi : i = who
    · subst hi
      simpa using hspec.2 answer φ' hlocal
    · simpa [hi] using hs i

/-- A property of the shared state that every answer keeps is kept by every run. -/
theorem Run.keeps (I : σ → Prop) (init : I start.state)
    (kept : ∀ s op answer t, I s → world s op answer t → I t)
    (run : Run world admits before start events pool) : I pool.state := by
  induction run with
  | nil => exact init
  | step _ _ _ answered ih => exact kept _ _ _ _ ih answered

/-- The steps of one program are steps of the pool, if something that its own events keep admits its calls. -/
theorem Run.alone {s t : σ} {p q : Program Op Answer ε α} (h : Program.Steps world s p t q)
    (who : ι) (I : List (Event ι Op Answer ε) → Prop)
    (kept : ∀ events op answer, I events → I (events ++ [⟨who, op, answer⟩]))
    (admitted : ∀ events op, I events → admits events who op)
    (programs : ι → Program Op Answer ε α) (turn : programs who = p) (before : List (Event ι Op Answer ε))
    (init : I before) :
    ∃ events, I events ∧ Run world admits before ⟨s, programs⟩ events ⟨t, Function.update programs who q⟩ := by
  induction h generalizing programs before with
  | refl s p =>
    refine ⟨before, init, ?_⟩
    rw [← turn, Function.update_eq_self]
    exact .nil
  | @call s t u op answer next q answered rest ih =>
    obtain ⟨events, hI, run⟩ := ih (Function.update programs who (next answer)) (Function.update_self ..)
      (before ++ [⟨who, op, answer⟩]) (kept _ _ _ init)
    rw [Function.update_idem] at run
    exact ⟨events, hI, .trans (.step .nil turn (admitted _ _ init) answered) run⟩

/-- The steps of one program are steps of the pool where every call is admitted. -/
theorem Run.ofSteps {s t : σ} {p q : Program Op Answer ε α} (h : Program.Steps world s p t q)
    (who : ι) (programs : ι → Program Op Answer ε α) (turn : programs who = p)
    (before : List (Event ι Op Answer ε)) :
    ∃ events, Run world (fun _ _ _ => True) before ⟨s, programs⟩ events ⟨t, Function.update programs who q⟩ := by
  have sole : ∃ events, True ∧
      Run world (fun _ _ _ => True) before ⟨s, programs⟩ events ⟨t, Function.update programs who q⟩ :=
    Run.alone h who (fun _ => True) (fun _ _ _ _ => trivial) (fun _ _ _ => trivial) programs turn before trivial
  obtain ⟨events, -, run⟩ := sole
  exact ⟨events, run⟩

def own (who : ι) (events : List (Event ι Op Answer ε)) : List ((op : Op) × Except ε (Answer op)) :=
  (events.filter fun event => event.who = who).map fun event => ⟨event.op, event.answer⟩

def recording : Program.World Op Answer ε (List ((op : Op) × Except ε (Answer op))) :=
  fun calls op answer after => after = calls ++ [⟨op, answer⟩]

omit [DecidableEq ι] in
/-- What a program calls is recorded after what was recorded before. -/
theorem recorded_calls {P : Op → Prop} {p q : Program Op Answer ε α}
    {calls after : List ((op : Op) × Except ε (Answer op))} (h : p.Calls P)
    (steps : Program.Steps recording calls p after q) : ∀ call ∈ after, call ∈ calls ∨ P call.1 := by
  induction steps with
  | refl => exact fun call hc => .inl hc
  | @call s t u op answer next q answered rest ih =>
    intro call hc
    rcases ih (h.2 answer) call hc with hc | hc
    · have ht : t = s ++ [(⟨op, answer⟩ : (op : Op) × Except ε (Answer op))] := answered
      rw [ht] at hc
      rcases List.mem_append.mp hc with hc | hc
      · exact .inl hc
      · rw [List.mem_singleton.mp hc]
        exact .inr h.1
    · exact .inr hc

omit [DecidableEq ι] in
/-- What was recorded before stays in front. -/
theorem recorded_prefix {p q : Program Op Answer ε α} {calls after : List ((op : Op) × Except ε (Answer op))}
    (steps : Program.Steps recording calls p after q) : calls <+: after := by
  induction steps with
  | refl => exact List.prefix_rfl
  | @call s t u op answer next q answered rest ih =>
    have ht : t = s ++ [(⟨op, answer⟩ : (op : Op) × Except ε (Answer op))] := answered
    exact (ht ▸ List.prefix_append ..).trans ih

/-- What is left of a program follows from its own part of the events. -/
theorem Run.own_steps (run : Run world admits before start events pool) (who : ι) :
    Program.Steps recording (own who before) (start.programs who) (own who events) (pool.programs who) := by
  induction run with
  | nil => exact .refl ..
  | @step events pool i op next answer t run turn admitted answered ih =>
    by_cases hi : i = who
    · subst hi
      rw [turn] at ih
      simp only [Function.update_self]
      refine ih.trans (.call ?_ (.refl ..))
      simp [recording, own]
    · have hown : own who (events ++ [⟨i, op, answer⟩]) = own who events := by
        simp [own, hi]
      simpa only [hown, Function.update_of_ne (Ne.symm hi)] using ih

end Pool
end Uumi.Foundations
