import Uumi.Foundations.Interaction
import Uumi.Foundations.Transactions

/-! A server that answers every call, and what programs come to with it, one after another. -/
namespace Uumi.Foundations
variable {Op : Type} {Answer : Op → Type} {ε α σ : Type}

def committed (result : Except ε (α × σ)) (s : σ) : Except ε α × σ :=
  match result with
  | .ok (a, t) => (.ok a, t)
  | .error e => (.error e, s)

/-- A transaction that raises leaves the state, any other commits what it returns. -/
theorem committed_commits (result : Except ε (α × σ)) (s : σ) :
    Commits result (committed result s).1 s (committed result s).2 := by
  cases result with
  | ok done => rfl
  | error e => exact .inl rfl

namespace Program

def execute (serve : σ → (op : Op) → Except ε (Answer op) × σ) : Program Op Answer ε α → σ → Except ε α × σ
  | .finish outcome, s => (outcome, s)
  | .call op next, s => (next (serve s op).1).execute serve (serve s op).2

variable {world : World Op Answer ε σ} {serve : σ → (op : Op) → Except ε (Answer op) × σ}

/-- A server that answers as the world may takes a program to its end. -/
theorem execute_steps (served : ∀ s op, world s op (serve s op).1 (serve s op).2) (p : Program Op Answer ε α) (s : σ) :
    Steps world s p (p.execute serve s).2 (.finish (p.execute serve s).1) := by
  induction p generalizing s with
  | finish outcome => exact .refl ..
  | call op next ih => exact .call (served s op) (ih _ _)

end Program

namespace Pool
variable {ι : Type} [DecidableEq ι] {world : Program.World Op Answer ε σ}
  {serve : σ → (op : Op) → Except ε (Answer op) × σ}

def inTurn (serve : σ → (op : Op) → Except ε (Answer op) × σ) (pool : Pool ι Op Answer ε α σ) :
    List ι → Pool ι Op Answer ε α σ
  | [] => pool
  | who :: rest =>
    let ended := (pool.programs who).execute serve pool.state
    inTurn serve ⟨ended.2, Function.update pool.programs who (.finish ended.1)⟩ rest

/-- Taking turns is a run. -/
theorem Run.inTurn (served : ∀ s op, world s op (serve s op).1 (serve s op).2) (order : List ι)
    (pool : Pool ι Op Answer ε α σ) (before : List (Event ι Op Answer ε)) :
    ∃ events, Run world (fun _ _ _ => True) before pool events (pool.inTurn serve order) := by
  induction order generalizing pool before with
  | nil => exact ⟨before, .nil⟩
  | cons who rest ih =>
    obtain ⟨events, first⟩ := Run.ofSteps (Program.execute_steps served (pool.programs who) pool.state) who
      pool.programs rfl before
    obtain ⟨later, others⟩ := ih ⟨_, Function.update pool.programs who (.finish _)⟩ events
    exact ⟨later, first.trans others⟩

end Pool
end Uumi.Foundations
