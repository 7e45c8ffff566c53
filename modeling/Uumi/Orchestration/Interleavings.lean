import Uumi.Foundations.Transactions
import Uumi.Orchestration.Reports
import Uumi.Workflow.Causes
import Uumi.Workflow.Reaping

/-! Executions of the workflow and of the coordinator side by side, with sweeps and other clients in between: what each
of them knows stays true, and what is stored stays consistent. -/
namespace Uumi.Orchestration
open Uumi.Contracts Uumi.Coordinator Uumi.Core Uumi.Foundations Uumi.Policy Uumi.State Uumi.Storage Uumi.Workflow
open Uumi.Foundations.Program
open Orchestrator (Report)

/-- The documents of runs, and the results of stages under the names of executions. -/
structure Documents where
  runs : Store
  results : Collection (Identifier × Identifier) StageExecutionResult

/-- A command of a sweep. Sweeps are called under the workflow's identity. -/
def Swept (command : RunCommand) : Prop :=
  ∃ (sweep : Sweep) (run : RotationRun),
    command ∈ [sweep.recover run, sweep.failRecovery run, sweep.cleanup run, sweep.fail run]

/-- A call of another program: it creates a run, sweeps, or acts under an identity of its own. -/
def Foreign (orchestrator : Orchestrator) : Call → Prop
  | .create _ _ _ => True
  | .mutate _ _ command => command.actorId = orchestrator.actorId → Swept command

/-- What other programs do to the documents: a call of the run repository, or new control versions. -/
inductive Passes (orchestrator : Orchestrator) : Documents → Documents → Prop
  | call {s : Documents} {call : Call} {result : MutationResult} {runs : Store} (foreign : Foreign orchestrator call)
      (h : (repository orchestrator.hashes.toHashing).perform s.runs call = .ok (result, runs)) :
      Passes orchestrator s { s with runs }
  | controls (s : Documents) (controls : Collection (Identifier × Identifier × Identifier) ControlVersion)
      (kept : ∀ key version, s.runs.controls key = some version → controls key = some version) :
      Passes orchestrator s { s with runs := { s.runs with controls } }

def onRuns {α : Type} (s : Documents) (result : Except Error (α × Store)) : Except Error (α × Documents) :=
  result.map fun done => (done.1, { s with runs := done.2 })

/-- `create` of the catalog: a result is created once. -/
def createResult (s : Documents) (result : StageExecutionResult) : Except Error (Unit × Documents) := do
  absent (s.results (result.organisationId, result.id)) fun _ => .resourceConflict
    s!"resource organisations/{result.organisationId.text}/stages/{result.id.text} already exists"
  return ((), { s with results := s.results.set (result.organisationId, result.id) result })

def answers (hashing : Hashing) : World RotationCall RotationCall.Answer Fault Documents := fun s op answer t =>
  match op, answer with
  | .run organisationId runId, answer =>
    t = s ∧ ∀ run, answer = .ok run → Storage.get s.runs organisationId runId = .ok run
  | .mutate command, answer =>
    ∃ machine now, Commits (onRuns s (mutateRun hashing s.runs machine now command)) answer s t
  | .result organisationId executionId, answer =>
    t = s ∧ ∀ result, answer = .ok result → s.results (organisationId, executionId) = some result
  | .control run, answer => t = s ∧ ∀ controls, answer = .ok controls → Pins hashing s.runs run controls
  | .create result, answer => Commits (createResult s result) answer s t
  | _, _ => t = s

def world (orchestrator : Orchestrator) : World RotationCall RotationCall.Answer Fault Documents := fun s op answer t =>
  ∃ m, Relation.ReflTransGen (Passes orchestrator) s m ∧ answers orchestrator.hashes.toHashing m op answer t

/-- A result was made by the coordinator for a version of a run: under the name of this stage and revision, a success
only of a running run and past its pinned controls, a recovery only of a recovering one. -/
structure Made (hashes : Hashes) (s : Documents) (run : RotationRun) (result : StageExecutionResult) : Prop where
  read : Reached s.runs run
  organisationId : result.organisationId = run.organisationId
  runId : result.runId = run.id
  stage : result.stage = run.stage
  id : result.id = stageId hashes run.id run.stage run.revision
  active : run.status ∈ [.running, .recovering]
  succeeded : result.status = .succeeded → run.status = .running ∧
    ∃ controls, Pins hashes.toHashing s.runs run controls ∧ controls.definition.requiredChecks run.stage ⊆ result.checks
  recovered : result.status = .recovered → run.status = .recovering

def stored (s : Documents) : Knowledge where
  versions := {run | Reached s.runs run}
  results := {result | s.results (result.organisationId, result.id) = some result}

/-- Results are what the coordinator made, and the steps of the workflow have a warrant. -/
structure Consistent (orchestrator : Orchestrator) (s : Documents) : Prop where
  traced : Traced orchestrator.hashes.toHashing s.runs
  made : ∀ key result, s.results key = some result →
    key = (result.organisationId, result.id) ∧ ∃ run, Made orchestrator.hashes s run result
  warranted : ∀ key step command, s.runs.steps key = some step → Causes orchestrator.hashes.toHashing command key step →
    command.actorId = orchestrator.actorId → Swept command ∨ Warranted orchestrator.hashes (stored s) command

/-- Nothing is lost from one state to a later one. -/
structure Extends (s t : Documents) : Prop where
  reached : ∀ run, Reached s.runs run → Reached t.runs run
  steps : ∀ key step, s.runs.steps key = some step → t.runs.steps key = some step
  controls : ∀ key version, s.runs.controls key = some version → t.runs.controls key = some version
  results : ∀ key result, s.results key = some result → t.results key = some result

variable {orchestrator : Orchestrator} {s t u : Documents} {run : RotationRun} {result : StageExecutionResult}

/-- No documents need be added. -/
theorem Extends.refl (s : Documents) : Extends s s :=
  ⟨fun _ h => h, fun _ _ h => h, fun _ _ h => h, fun _ _ h => h⟩

/-- Documents may grow again. -/
theorem Extends.trans (h : Extends s t) (k : Extends t u) : Extends s u where
  reached run hr := k.reached run (h.reached run hr)
  steps key step hs := k.steps key step (h.steps key step hs)
  controls key version hv := k.controls key version (h.controls key version hv)
  results key result hr := k.results key result (h.results key result hr)

/-- Controls stay pinned while documents grow. -/
theorem Extends.pins (h : Extends s t) {hashing : Hashing} {controls : ControlVersion}
    (pins : Pins hashing s.runs run controls) : Pins hashing t.runs run controls :=
  { pins with stored := h.controls _ _ pins.stored }

/-- A result that was made stays made. -/
theorem Made.extend (h : Made orchestrator.hashes s run result) (later : Extends s t) :
    Made orchestrator.hashes t run result :=
  { h with
    read := later.reached run h.read
    succeeded := fun hs => by
      obtain ⟨running, controls, pins, passed⟩ := h.succeeded hs
      exact ⟨running, controls, later.pins pins, passed⟩ }

/-- A warranted command stays warranted. -/
theorem Extends.warranted (later : Extends s t) {command : RunCommand}
    (h : Warranted orchestrator.hashes (stored s) command) : Warranted orchestrator.hashes (stored t) command :=
  h.mono later.reached fun _ hr => later.results _ _ hr

def Fact.Holds (hashing : Hashing) (s : Documents) : Fact → Prop
  | .version run => Reached s.runs run
  | .pinned run controls => Pins hashing s.runs run controls
  | .decided result => s.results (result.organisationId, result.id) = some result
  | .stepped command step => ∃ key, s.runs.steps key = some step ∧ Causes hashing command key step

/-- A fact stays so while documents grow. -/
theorem Fact.Holds.extend {hashing : Hashing} {fact : Fact} (h : fact.Holds hashing s) (later : Extends s t) :
    fact.Holds hashing t := by
  cases fact with
  | version run => exact later.reached run h
  | pinned run controls => exact later.pins h
  | decided result => exact later.results _ _ h
  | stepped command step =>
    obtain ⟨key, found, causes⟩ := h
    exact ⟨key, later.steps _ _ found, causes⟩

section
variable {command : RunCommand} {machine : RotationMachine} {now : AwareDatetime} {runs : Store}

private theorem perform_extends {call : Call} {answer : MutationResult} (traced : Traced orchestrator.hashes.toHashing s.runs)
    (h : (repository orchestrator.hashes.toHashing).perform s.runs call = .ok (answer, runs)) :
    Extends s { s with runs } where
  reached _ hr := hr.perform traced h
  steps := (perform_persists traced.logged h).steps
  controls key version hv := by
    cases perform_effect h with
    | created command newId now _ effect => exact effect.controls ▸ hv
    | mutated machine now command old updated _ effect => exact effect.controls ▸ hv
    | replayed _ unchanged => exact unchanged ▸ hv
  results _ _ hr := hr

private theorem perform_consistent {call : Call} {answer : MutationResult} (hc : Consistent orchestrator s)
    (h : (repository orchestrator.hashes.toHashing).perform s.runs call = .ok (answer, runs))
    (warrant : ∀ machine now command, call = .mutate machine now command → command.actorId = orchestrator.actorId →
      Swept command ∨ Warranted orchestrator.hashes (stored s) command)
    (injective : Function.Injective orchestrator.hashes.sha256) : Consistent orchestrator { s with runs } where
  traced := hc.traced.perform h
  made key result hr := by
    obtain ⟨placed, run, made⟩ := hc.made key result hr
    exact ⟨placed, run, made.extend (perform_extends hc.traced h)⟩
  warranted key step command found causes actor := by
    have later := perform_extends hc.traced h
    have old (found : s.runs.steps key = some step) :
        Swept command ∨ Warranted orchestrator.hashes (stored { s with runs }) command :=
      (hc.warranted key step command found causes actor).imp_right later.warranted
    cases perform_effect h with
    | created created newId now _ effect =>
      rw [effect.steps, Collection.set_eq_some] at found
      rcases found with ⟨-, rfl⟩ | ⟨-, found⟩
      · -- the step of a creation is caused by no other command
        have operation : "create" = command.operation := causes.operation
        cases command <;> simp [RunCommand.operation] at operation
      · exact old found
    | mutated machine now mutated before updated is_call effect =>
      have caused := effect.causes
      rw [effect.result_eq] at caused
      rw [effect.steps, Collection.set_eq_some] at found
      rcases found with ⟨-, rfl⟩ | ⟨-, found⟩
      · obtain rfl := causes.unique injective caused
        exact (warrant machine now command is_call actor).imp_right later.warranted
      · exact old found
    | replayed _ unchanged =>
      subst unchanged
      exact old found

private theorem mutate_stepped (injective : Function.Injective orchestrator.hashes.sha256)
    (traced : Traced orchestrator.hashes.toHashing s.runs) {answer : MutationResult}
    (h : mutateRun orchestrator.hashes.toHashing s.runs machine now command = .ok (answer, runs)) :
    (∃ key, runs.steps key = some answer.step ∧ Causes orchestrator.hashes.toHashing command key answer.step) ∧
      runs.runs (command.organisationId, command.runId) = some answer.run := by
  rcases mutate_ok.mp h with ⟨old, updated, effect⟩ | replayed
  · have mutates : Mutates orchestrator.hashes.toHashing s.runs machine now command old updated answer runs := effect
    refine ⟨⟨_, ?_, mutates.causes⟩, ?_⟩
    · rw [mutates.steps, Collection.set_same, mutates.result_eq]
    · rw [mutates.runs, Collection.set_same, mutates.result_eq]
  · obtain ⟨recorded, same, found, -, -, rfl⟩ := replayed
    refine ⟨⟨_, recorded, ?_⟩, found⟩
    cases traced.caused.steps recorded with
    | created operation first created hash =>
      exact absurd (same.symm.trans hash) (mutationHash_ne_creationHash injective command created)
    | caused other causes d previous _ _ _ _ =>
      obtain rfl := mutationHash_injective injective (same.symm.trans causes.hash)
      exact causes

end

/-- What other programs do in between. -/
theorem passes_extend (injective : Function.Injective orchestrator.hashes.sha256) (hc : Consistent orchestrator s)
    (h : Passes orchestrator s t) : Consistent orchestrator t ∧ Extends s t := by
  cases h with
  | call foreign h =>
    refine ⟨perform_consistent hc h ?_ injective, perform_extends hc.traced h⟩
    rintro machine now command rfl actor
    exact .inl (foreign actor)
  | controls controls kept =>
    have later : Extends s { s with runs := { s.runs with controls } } :=
      ⟨fun _ hr => ⟨hr.stored, hr.left⟩, fun _ _ hs => hs, kept, fun _ _ hr => hr⟩
    refine ⟨⟨hc.traced.controls controls, fun key result hr => ?_, fun key step command found causes actor => ?_⟩, later⟩
    · obtain ⟨placed, run, made⟩ := hc.made key result hr
      exact ⟨placed, run, made.extend later⟩
    · exact (hc.warranted key step command found causes actor).imp_right later.warranted

/-- The steps of others keep everything consistent and let documents grow. -/
theorem others_extend (injective : Function.Injective orchestrator.hashes.sha256) (hc : Consistent orchestrator s)
    (h : Relation.ReflTransGen (Passes orchestrator) s t) : Consistent orchestrator t ∧ Extends s t := by
  induction h with
  | refl => exact ⟨hc, .refl s⟩
  | tail _ step ih =>
    obtain ⟨hb, later⟩ := ih
    obtain ⟨hd, further⟩ := passes_extend injective hb step
    exact ⟨hd, later.trans further⟩

section
variable {known : Set Fact}

private theorem Decides.made (h : Decides orchestrator.hashes known run result)
    (facts : ∀ fact ∈ known, fact.Holds orchestrator.hashes.toHashing s) : Made orchestrator.hashes s run result :=
  { h with
    read := facts _ h.read
    succeeded := fun hs => by
      obtain ⟨running, controls, pinned, passed⟩ := h.succeeded hs
      exact ⟨running, controls, facts _ pinned, passed⟩ }

private theorem get_found {store : Store} {organisationId runId : Identifier}
    (h : Storage.get store organisationId runId = .ok run) : store.runs (organisationId, runId) = some run := by
  simp only [Storage.get, required_bind_ok, unit_bind_ok, pure_ok] at h
  obtain ⟨found, hfound, -, rfl⟩ := h
  exact hfound

private theorem onRuns_ok {α : Type} {answer : Except Error (α × Store)} {a : α} (h : onRuns s answer = .ok (a, t)) :
    ∃ runs, answer = .ok (a, runs) ∧ t = { s with runs } := by
  cases answer with
  | error e => cases h
  | ok done =>
    cases h
    exact ⟨done.2, rfl, rfl⟩

private theorem createResult_ok {a : Unit} (h : createResult s result = .ok (a, t)) :
    s.results (result.organisationId, result.id) = none ∧
      t = { s with results := s.results.set (result.organisationId, result.id) result } := by
  simp only [createResult, unit_bind_ok, absent_ok, pure_ok, Prod.mk.injEq] at h
  exact ⟨h.1, h.2.2.symm⟩

private theorem create_extends (hc : Consistent orchestrator s) (made : Made orchestrator.hashes s run result)
    (free : s.results (result.organisationId, result.id) = none)
    (ht : t = { s with results := s.results.set (result.organisationId, result.id) result }) :
    Consistent orchestrator t ∧ Extends s t := by
  have later : Extends s t := by
    subst ht
    refine ⟨fun _ hr => hr, fun _ _ hs => hs, fun _ _ hv => hv, fun key other hr => ?_⟩
    refine (Collection.set_of_ne ?_).trans hr
    rintro rfl
    cases free.symm.trans hr
  refine ⟨⟨?_, fun key other hr => ?_, fun key step command found causes actor => ?_⟩, later⟩
  · subst ht
    exact hc.traced
  · have hr' := hr
    rw [ht, Collection.set_eq_some] at hr'
    rcases hr' with ⟨hk, rfl⟩ | ⟨-, old⟩
    · exact ⟨hk, run, made.extend later⟩
    · obtain ⟨placed, run, made⟩ := hc.made key other old
      exact ⟨placed, run, made.extend later⟩
  · have found' : s.runs.steps key = some step := by
      subst ht
      exact found
    exact (hc.warranted key step command found' causes actor).imp_right later.warranted

/-- A justified call keeps everything consistent, and what the program learns from its answer is true. -/
theorem answers_extend (injective : Function.Injective orchestrator.hashes.sha256) (hc : Consistent orchestrator s)
    (facts : ∀ fact ∈ known, fact.Holds orchestrator.hashes.toHashing s) {op : RotationCall}
    {answer : Except Fault op.Answer} (justified : Justified orchestrator known op)
    (h : answers orchestrator.hashes.toHashing s op answer t) :
    (Consistent orchestrator t ∧ Extends s t) ∧
      ∃ after, learning known op answer after ∧ ∀ fact ∈ after, fact.Holds orchestrator.hashes.toHashing t := by
  have kept (later : Extends s t) : ∀ fact ∈ known, fact.Holds orchestrator.hashes.toHashing t :=
    fun fact hf => (facts fact hf).extend later
  have learns {fact : Fact} (later : Extends s t) (hf : fact.Holds orchestrator.hashes.toHashing t) :
      ∀ other ∈ insert fact known, other.Holds orchestrator.hashes.toHashing t := by
    intro other ho
    rcases ho with rfl | ho
    · exact hf
    · exact kept later other ho
  cases op with
  | run organisationId runId =>
    obtain ⟨rfl, found⟩ := h
    refine ⟨⟨hc, .refl _⟩, ?_⟩
    cases answer with
    | error e => exact ⟨known, rfl, facts⟩
    | ok run =>
      have found := get_found (found run rfl)
      exact ⟨_, ⟨rfl, hc.traced.placed.run found⟩, learns (.refl _) (Reached.now hc.traced found)⟩
  | mutate command =>
    obtain ⟨machine, now, committed⟩ := h
    obtain ⟨actor, warranted⟩ := justified
    have extended : Consistent orchestrator t ∧ Extends s t := by
      rcases commits_cases committed with ⟨rfl, -⟩ | ⟨a, done, -⟩
      · exact ⟨hc, .refl _⟩
      · obtain ⟨runs, hp, rfl⟩ := onRuns_ok done
        have performed : (repository orchestrator.hashes.toHashing).perform s.runs (.mutate machine now command) =
          .ok (a, runs) := hp
        refine ⟨perform_consistent hc performed ?_ injective, perform_extends hc.traced performed⟩
        rintro _ _ _ ⟨⟩ -
        exact .inr (warranted.mono (fun _ hv => facts _ hv) fun _ hr => facts _ hr)
    refine ⟨extended, ?_⟩
    cases answer with
    | error e => exact ⟨known, rfl, kept extended.2⟩
    | ok answer =>
      obtain ⟨runs, hp, rfl⟩ := onRuns_ok committed
      obtain ⟨⟨key, recorded, causes⟩, found⟩ := mutate_stepped injective hc.traced hp
      obtain ⟨organisationId, runId⟩ := extended.1.traced.placed.run found
      have revision : answer.step.revision ≤ answer.run.revision := by
        rw [causes.key] at recorded
        exact (extended.1.traced.logged.dense found).bounded command.id _ (congrArg (Option.map _) recorded)
      refine ⟨_, ⟨rfl, organisationId, runId, revision⟩, fun fact hf => ?_⟩
      rcases hf with rfl | rfl | hf
      · exact Reached.now extended.1.traced found
      · exact ⟨key, recorded, causes⟩
      · exact kept extended.2 fact hf
  | result organisationId executionId =>
    obtain ⟨rfl, found⟩ := h
    refine ⟨⟨hc, .refl _⟩, ?_⟩
    cases answer with
    | error e => exact ⟨known, rfl, facts⟩
    | ok result =>
      have read := found result rfl
      obtain ⟨placed, -⟩ := hc.made _ _ read
      obtain ⟨organisation, id⟩ := Prod.mk.inj placed
      exact ⟨_, ⟨rfl, organisation.symm, id.symm⟩, learns (.refl _) (by rwa [placed] at read)⟩
  | control run =>
    obtain ⟨rfl, found⟩ := h
    refine ⟨⟨hc, .refl _⟩, ?_⟩
    cases answer with
    | error e => exact ⟨known, rfl, facts⟩
    | ok controls => exact ⟨_, rfl, learns (.refl _) (found controls rfl)⟩
  | create result =>
    obtain ⟨run, decides⟩ := justified
    have extended : Consistent orchestrator t ∧ Extends s t := by
      rcases commits_cases h with ⟨rfl, -⟩ | ⟨a, done, -⟩
      · exact ⟨hc, .refl _⟩
      · obtain ⟨free, ht⟩ := createResult_ok done
        exact create_extends hc (decides.made facts) free ht
    refine ⟨extended, ?_⟩
    cases answer with
    | error e => exact ⟨known, rfl, kept extended.2⟩
    | ok answer =>
      obtain ⟨-, rfl⟩ := createResult_ok h
      exact ⟨_, rfl, learns extended.2 (Collection.set_same ..)⟩
  | _ =>
    subst h
    refine ⟨⟨hc, .refl _⟩, known, ?_, facts⟩
    cases answer <;> rfl

end

/-- What is set going: an execution of the workflow on an event, or one of the coordinator on a request. A call whose
caller has given up waiting is one of its own. -/
inductive Task where
  | rotation (limit : Nat) (event : RunEvent)
  | stage (request : StageExecutionRequest)

def Task.program (orchestrator : Orchestrator) : Task → RotationM (Option Report)
  | .rotation limit event => do
    let report : Report ← orchestrator.rotate limit event
    return some report
  | .stage request => do
    let _ ← StageCoordinator.execute orchestrator.hashes request
    return none

def Task.Ends (orchestrator : Orchestrator) (task : Task) (outcome : Option Report) (known : Set Fact) : Prop :=
  match task, outcome with
  | .rotation _ event, some report => Told orchestrator known event report
  | .rotation _ _, none => False
  | .stage _, outcome => outcome = none

/-- Every task has a warrant for what it writes. -/
theorem program_warrants (task : Task) (known : Set Fact) :
    Warrants orchestrator (task.program orchestrator) known fun outcome after => task.Ends orchestrator outcome after := by
  cases task with
  | rotation limit event =>
    exact (rotate_warrants limit).bind fun report after _ told => Learns.pure told
  | stage request =>
    exact (execute_warrants request).bind fun result after _ _ => Learns.pure rfl

section
variable {ι : Type} [DecidableEq ι]

abbrev RotationPool (ι : Type) := Pool ι RotationCall RotationCall.Answer Fault (Option Report) Documents

abbrev RotationEvents (ι : Type) := List (Pool.Event ι RotationCall RotationCall.Answer Fault)

/-- Any of the programs makes its next call, at any time. -/
abbrev Runs (orchestrator : Orchestrator) (before : RotationEvents ι) (start : RotationPool ι) (events : RotationEvents ι)
    (pool : RotationPool ι) : Prop :=
  Pool.Run (world orchestrator) (fun _ _ _ => True) before start events pool

abbrev Informed (orchestrator : Orchestrator) (tasks : ι → Task) (events : RotationEvents ι) (pool : RotationPool ι)
    (known : ι → Set Fact) : Prop :=
  Pool.Informed lessons (fun _ => Justified orchestrator) (fun i => (tasks i).Ends orchestrator)
    (fun _ s => Consistent orchestrator s) (fun _ _ s fact => fact.Holds orchestrator.hashes.toHashing s) events pool known

variable {tasks : ι → Task} {before events : RotationEvents ι} {start pool : RotationPool ι}

/-- Programs stay informed, and nothing is lost. -/
theorem runs_informed (injective : Function.Injective orchestrator.hashes.sha256) {known : ι → Set Fact}
    (informed : Informed orchestrator tasks before start known) (run : Runs orchestrator before start events pool) :
    ∃ known', Informed orchestrator tasks events pool known' ∧ Extends start.state pool.state := by
  have begun : Pool.Informed lessons (fun _ => Justified orchestrator) (fun i => (tasks i).Ends orchestrator)
      (fun _ s => Consistent orchestrator s ∧ Extends start.state s)
      (fun _ _ s fact => fact.Holds orchestrator.hashes.toHashing s) before start known :=
    ⟨⟨informed.consistent, .refl _⟩, informed.facts, informed.follows⟩
  obtain ⟨known', later⟩ := run.informed begun (by
    rintro who events s op answer t known ⟨consistent, extended⟩ facts justified ⟨m, others, answered⟩
    obtain ⟨hm, passed⟩ := others_extend injective consistent others
    have facts' : ∀ fact ∈ known, fact.Holds orchestrator.hashes.toHashing m :=
      fun fact hf => (facts fact hf).extend passed
    obtain ⟨⟨ht, later⟩, learnt⟩ := answers_extend injective hm facts' justified answered
    exact ⟨⟨ht, extended.trans (passed.trans later)⟩, fun _ _ hf => hf.extend (passed.trans later), learnt⟩)
  exact ⟨known', ⟨later.consistent.1, later.facts, later.follows⟩, later.consistent.2⟩

/-- No stage has been executed yet, and the runs are those of calls of other programs. -/
structure Start (orchestrator : Orchestrator) (s : Documents) : Prop where
  initial : ∃ controls, Relation.ReflTransGen (Passes orchestrator)
    ⟨{ runs := Collection.empty, steps := Collection.empty, outbox := Collection.empty, locks := Collection.empty,
       dedupe := Collection.empty, controls }, Collection.empty⟩ s

/-- What the workflow starts from is consistent. -/
theorem start_consistent (injective : Function.Injective orchestrator.hashes.sha256) (h : Start orchestrator s) :
    Consistent orchestrator s := by
  obtain ⟨controls, others⟩ := h.initial
  refine (others_extend injective ⟨initial_traced ⟨rfl, rfl, rfl, rfl, rfl⟩, fun _ _ hr => ?_, fun _ _ _ hs => ?_⟩ others).1
  · cases hr
  · cases hs

omit [DecidableEq ι] in
/-- Before the first call. -/
theorem start_informed (injective : Function.Injective orchestrator.hashes.sha256) {s : Documents}
    (begun : Start orchestrator s) (tasks : ι → Task) :
    Informed orchestrator tasks [] ⟨s, fun i => (tasks i).program orchestrator⟩ fun _ => ∅ where
  consistent := start_consistent injective begun
  facts _ _ hf := hf.elim
  follows i := (program_warrants (tasks i) ∅).mono fun _ _ ⟨_, ends⟩ => ends

end

end Uumi.Orchestration
