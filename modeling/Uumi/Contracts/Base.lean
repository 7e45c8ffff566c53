import Mathlib

/-! Scalar contracts: identifiers, timestamps, the closed enumerations of a run. -/
namespace Uumi.Contracts

-- The order by which sets of texts are listed.
instance le_trans_text : IsTrans String (fun a b => a ≤ b) := inferInstance
instance le_antisymm_text : Std.Antisymm (fun a b : String => a ≤ b) := inferInstance
instance le_total_text : Std.Total (fun a b : String => a ≤ b) := inferInstance

/-- The identifier pattern: 3 to 128 characters, a lowercase letter first, then lowercase
letters, digits, underscores and hyphens. -/
def identifierAccepts (s : String) : Bool :=
  match s.toList with
  | [] => false
  | c :: cs => lower c && cs.all (fun d => lower d || ('0' ≤ d && d ≤ '9') || d == '_' || d == '-') &&
      3 ≤ s.length && s.length ≤ 128
where
  lower (c : Char) : Bool := 'a' ≤ c && c ≤ 'z'

/-- A string that matches the identifier pattern. -/
structure Identifier where
  text : String
  accepted : identifierAccepts text = true
  deriving DecidableEq

/-- Identifiers with one text are one identifier. -/
theorem Identifier.text_injective : Function.Injective Identifier.text := by
  rintro ⟨a, _⟩ ⟨b, _⟩ h
  cases h
  rfl

/-- A timezone-aware timestamp. Comparisons use the instant; the UTC offset only shows in the
serialised text. -/
structure AwareDatetime where
  instant : Int
  offset : Int
  deriving DecidableEq, Repr

namespace AwareDatetime

instance : LE AwareDatetime := ⟨fun a b => a.instant ≤ b.instant⟩
instance : LT AwareDatetime := ⟨fun a b => a.instant < b.instant⟩

instance (a b : AwareDatetime) : Decidable (a ≤ b) := inferInstanceAs (Decidable (a.instant ≤ b.instant))
instance (a b : AwareDatetime) : Decidable (a < b) := inferInstanceAs (Decidable (a.instant < b.instant))

@[simp] theorem not_le {a b : AwareDatetime} : ¬ a ≤ b ↔ b < a := Int.not_le
@[simp] theorem not_lt {a b : AwareDatetime} : ¬ a < b ↔ b ≤ a := Int.not_lt

end AwareDatetime

inductive Stage where
  | trigger | preflight | plan | create | store | deploy
  | verify | rollout | observe | approval | revoke | complete
  deriving DecidableEq, Repr

namespace Stage

def value : Stage → String
  | .trigger => "trigger"
  | .preflight => "preflight"
  | .plan => "plan"
  | .create => "create"
  | .store => "store"
  | .deploy => "deploy"
  | .verify => "verify"
  | .rollout => "rollout"
  | .observe => "observe"
  | .approval => "approval"
  | .revoke => "revoke"
  | .complete => "complete"

/-- `STAGES`: every stage in its order of execution. -/
def all : List Stage :=
  [.trigger, .preflight, .plan, .create, .store, .deploy,
    .verify, .rollout, .observe, .approval, .revoke, .complete]

/-- The position of a stage in `STAGES`. -/
def index (s : Stage) : Nat := all.idxOf s

/-- `STAGES[index + 1]`; the complete stage has no successor. -/
def next? (s : Stage) : Option Stage := all[s.index + 1]?

/-- The list of stages is complete. -/
theorem mem_all (s : Stage) : s ∈ all := by
  cases s <;> decide

/-- Stages with one value are one stage. -/
theorem value_injective : Function.Injective value := by
  intro a b h
  cases a <;> cases b <;> first | rfl | exact absurd h (by decide)

/-- Stages at one position are one stage. -/
theorem index_injective : Function.Injective index := by
  intro a b h
  cases a <;> cases b <;> first | rfl | exact absurd h (by decide)

/-- Every stage but the last has a successor, one position further. -/
theorem next?_of_ne_complete (s : Stage) (h : s ≠ .complete) :
    ∃ t, s.next? = some t ∧ t.index = s.index + 1 := by
  cases s <;> first | exact absurd rfl h | exact ⟨_, rfl, rfl⟩

/-- The next stage is one position further. -/
theorem next?_index {s t : Stage} (h : s.next? = some t) : t.index = s.index + 1 := by
  by_cases hs : s = .complete
  · subst hs
    cases h
  · obtain ⟨u, hu, hi⟩ := next?_of_ne_complete s hs
    rw [hu] at h
    cases h
    exact hi

/-- No stage comes after the last. -/
theorem index_le_complete (s : Stage) : s.index ≤ Stage.complete.index := by
  cases s <;> decide

end Stage

inductive RunStatus where
  | pending | running | paused | recovering | cleanup | failed | cancelled | compensated | completed
  deriving DecidableEq, Repr

def RunStatus.value : RunStatus → String
  | .pending => "pending"
  | .running => "running"
  | .paused => "paused"
  | .recovering => "recovering"
  | .cleanup => "cleanup-required"
  | .failed => "failed"
  | .cancelled => "cancelled"
  | .compensated => "compensated"
  | .completed => "completed"

inductive GenerationState where
  | creating | active | superseded | revoked | orphaned | unknown
  deriving DecidableEq, Repr

inductive RecoveryMode where
  | retry | rollback | rollforward | cleanup | escalate
  deriving DecidableEq, Repr

def RecoveryMode.value : RecoveryMode → String
  | .retry => "retry"
  | .rollback => "rollback"
  | .rollforward => "rollforward"
  | .cleanup => "cleanup"
  | .escalate => "escalate"

/-- Recovery modes with one value are one mode. -/
theorem RecoveryMode.value_injective : Function.Injective RecoveryMode.value := by
  intro a b h
  cases a <;> cases b <;> first | rfl | exact absurd h (by decide)

/-- A value of an action parameter. -/
inductive ParameterValue where
  | text (value : String)
  | number (value : Int)
  | flag (value : Bool)
  | texts (values : List String)
  deriving DecidableEq

abbrev Parameters := List (String × ParameterValue)

-- Identifiers that concrete records share.
def organisationOne : Identifier := ⟨"org-1", by decide⟩
def operatorOne : Identifier := ⟨"operator-1", by decide⟩
def generationOne : Identifier := ⟨"generation-1", by decide⟩
def workerOne : Identifier := ⟨"worker-1", by decide⟩
def runOne : Identifier := ⟨"run-1", by decide⟩
def evidenceOne : Identifier := ⟨"evidence-1", by decide⟩
def credentialOne : Identifier := ⟨"credential-1", by decide⟩
def connectionOne : Identifier := ⟨"connection-1", by decide⟩
def commandThree : Identifier := ⟨"command-3", by decide⟩
def probeOne : Identifier := ⟨"probe-1", by decide⟩
def generationTwo : Identifier := ⟨"generation-2", by decide⟩
def controlsOne : Identifier := ⟨"controls-1", by decide⟩
def commandFour : Identifier := ⟨"command-4", by decide⟩
def runTwo : Identifier := ⟨"run-2", by decide⟩
def reportOne : Identifier := ⟨"report-1", by decide⟩
def playbookVersionOne : Identifier := ⟨"playbook-version-1", by decide⟩
def playbookOne : Identifier := ⟨"playbook-1", by decide⟩
def accountOne : Identifier := ⟨"org_one", by decide⟩
def evidenceTwo : Identifier := ⟨"evidence-2", by decide⟩
def environmentOne : Identifier := ⟨"environment-1", by decide⟩
def connectionTwo : Identifier := ⟨"connection-2", by decide⟩
def commandTwo : Identifier := ⟨"command-2", by decide⟩
def commandOne : Identifier := ⟨"command-1", by decide⟩
def attemptTwo : Identifier := ⟨"attempt-2", by decide⟩
def approvalOne : Identifier := ⟨"approval-1", by decide⟩
def applicationOne : Identifier := ⟨"application-1", by decide⟩
def coordinatorOne : Identifier := ⟨"coordinator_one", by decide⟩
def actionOne : Identifier := ⟨"action-1", by decide⟩

/-- Some evidence is cited. -/
theorem evidenceOne_cited : [evidenceOne] ≠ [] :=
  List.cons_ne_nil _ _

end Uumi.Contracts
