import Uumi.Foundations.Learning
import Uumi.Orchestration.Rotation

/-! What an execution has learnt when it makes a call, and that it writes only what it has a warrant for: what it
writes about a stage is what the coordinator decided about that stage at that revision. -/
namespace Uumi.Orchestration
open Uumi.Contracts Uumi.Coordinator Uumi.Core Uumi.Foundations Uumi.Policy Uumi.Storage
open Uumi.Foundations.Program

inductive Fact where
  /-- A run was read, or a command led to it. -/
  | version (run : RotationRun)
  /-- The controls that a run pins were read. -/
  | pinned (run : RotationRun) (controls : ControlVersion)
  /-- A result was stored, or read. -/
  | decided (result : StageExecutionResult)
  /-- A command took effect, in this step. -/
  | stepped (command : RunCommand) (step : RunStep)

/-- What a program learns from the answers to its calls. -/
def learning : World RotationCall RotationCall.Answer Fault (Set Fact) := fun known op answer after =>
  match op, answer with
  | .run organisationId runId, .ok run =>
    after = insert (.version run) known ∧ run.organisationId = organisationId ∧ run.id = runId
  | .mutate command, .ok result =>
    after = insert (.version result.run) (insert (.stepped command result.step) known) ∧
      result.run.organisationId = command.organisationId ∧ result.run.id = command.runId ∧
      result.step.revision ≤ result.run.revision
  | .result organisationId executionId, .ok result =>
    after = insert (.decided result) known ∧ result.organisationId = organisationId ∧ result.id = executionId
  | .control run, .ok controls => after = insert (.pinned run controls) known
  | .create result, .ok () => after = insert (.decided result) known
  | _, _ => after = known

/-- Nothing is forgotten. -/
theorem learning_grows {known after : Set Fact} {op : RotationCall} {answer : Except Fault op.Answer}
    (h : learning known op answer after) : known ⊆ after := by
  cases op <;> cases answer <;> simp only [learning] at h
  case run.ok => exact h.1 ▸ Set.subset_insert ..
  case mutate.ok => exact h.1 ▸ (Set.subset_insert ..).trans (Set.subset_insert ..)
  case result.ok => exact h.1 ▸ Set.subset_insert ..
  case control.ok => exact h ▸ Set.subset_insert ..
  case create.ok => exact h ▸ Set.subset_insert ..
  all_goals exact h.ge

/-- What the coordinator decides about the stage of a run that it has read: under the name of this stage and revision,
a success only of a running run and past its pinned controls, a recovery only of a recovering one. -/
structure Decides (hashes : Hashes) (known : Set Fact) (run : RotationRun) (result : StageExecutionResult) : Prop where
  read : .version run ∈ known
  organisationId : result.organisationId = run.organisationId
  runId : result.runId = run.id
  stage : result.stage = run.stage
  id : result.id = stageId hashes run.id run.stage run.revision
  active : run.status ∈ [.running, .recovering]
  succeeded : result.status = .succeeded → run.status = .running ∧
    ∃ controls, .pinned run controls ∈ known ∧ controls.definition.requiredChecks run.stage ⊆ result.checks
  recovered : result.status = .recovered → run.status = .recovering

/-- What a set of facts says: the versions of runs and the results that are known. -/
structure Knowledge where
  versions : Set RotationRun
  results : Set StageExecutionResult

/-- The coordinator decided in some way about the run that a command is about, at the revision that it expects. -/
structure Decided (hashes : Hashes) (knowledge : Knowledge) (command : CommandBase) (current : RotationRun)
    (status : StageExecutionStatus) (result : StageExecutionResult) : Prop where
  read : current ∈ knowledge.versions
  about : current.organisationId = command.organisationId ∧ current.id = command.runId
  revision : current.revision = command.expectedRevision
  stored : result ∈ knowledge.results
  organisationId : result.organisationId = command.organisationId
  id : result.id = stageId hashes current.id current.stage current.revision
  status : result.status = status

/-- A failure that the coordinator decided, or one that the workflow makes up when a call fails: that one may be
retried and has no evidence. -/
def FailedBy (hashes : Hashes) (knowledge : Knowledge) (command : CommandBase) (failure : Failure) : Prop :=
  (∃ current result, Decided hashes knowledge command current .failed result ∧ failure.retryable = result.retryable ∧
    failure.evidenceIds = result.evidenceIds ∧ ∃ reason ∈ result.reason, failure.message.value = strip reason) ∨
  failure.retryable = true ∧ failure.evidenceIds = []

/-- What has to be known for a command. -/
def Warranted (hashes : Hashes) (knowledge : Knowledge) : RunCommand → Prop
  | .complete c => ∃ current result, Decided hashes knowledge c.toCommandBase current .succeeded result ∧
    c.proof.stage = current.stage ∧ c.proof.checks = result.checks ∧ c.proof.evidenceIds = result.evidenceIds ∧
    c.proof.recordedAt = result.completedAt ∧ c.bindings = result.bindings
  | .completeRecovery c => ∃ current result, Decided hashes knowledge c.toCommandBase current .recovered result ∧
    result.recoveryMode = some c.mode ∧ c.evidenceIds = result.evidenceIds
  | .pause c => ∃ current result, Decided hashes knowledge c.toCommandBase current .paused result
  | .cleanup c => FailedBy hashes knowledge c.toCommandBase c.failure
  | .fail c => FailedBy hashes knowledge c.toCommandBase c.failure
  | _ => True

/-- More knowledge warrants more. -/
theorem Warranted.mono {hashes : Hashes} {knowledge more : Knowledge} {command : RunCommand}
    (h : Warranted hashes knowledge command) (versions : knowledge.versions ⊆ more.versions)
    (results : knowledge.results ⊆ more.results) : Warranted hashes more command := by
  have decided {base : CommandBase} {current : RotationRun} {status : StageExecutionStatus}
      {result : StageExecutionResult} (h : Decided hashes knowledge base current status result) :
      Decided hashes more base current status result :=
    { h with read := versions h.read, stored := results h.stored }
  have failed {base : CommandBase} {failure : Failure} (h : FailedBy hashes knowledge base failure) :
      FailedBy hashes more base failure := by
    rcases h with ⟨current, result, hd, rest⟩ | h
    · exact .inl ⟨current, result, decided hd, rest⟩
    · exact .inr h
  cases command with
  | complete c =>
    obtain ⟨current, result, hd, rest⟩ := h
    exact ⟨current, result, decided hd, rest⟩
  | completeRecovery c =>
    obtain ⟨current, result, hd, rest⟩ := h
    exact ⟨current, result, decided hd, rest⟩
  | pause c =>
    obtain ⟨current, result, hd⟩ := h
    exact ⟨current, result, decided hd⟩
  | cleanup c => exact failed h
  | fail c => exact failed h
  | start | renew | resume | cancel | recover => trivial

def knowledge (known : Set Fact) : Knowledge where
  versions := {run | .version run ∈ known}
  results := {result | .decided result ∈ known}

/-- The calls that a program may make when it has learnt this much. -/
def Justified (orchestrator : Orchestrator) (known : Set Fact) : RotationCall → Prop
  | .mutate command =>
    command.actorId = orchestrator.actorId ∧ Warranted orchestrator.hashes (knowledge known) command
  | .create result => ∃ run, Decides orchestrator.hashes known run result
  | _ => True

variable {orchestrator : Orchestrator} {known : Set Fact} {α β : Type}

def lessons : Learning RotationCall RotationCall.Answer Fault Fact := ⟨learning, learning_grows⟩

/-- A program calls only what it may, never forgets, and returns in its postcondition. -/
abbrev Warrants (orchestrator : Orchestrator) (p : RotationM α) (known : Set Fact) (post : α → Set Fact → Prop) : Prop :=
  Learns lessons (Justified orchestrator) p known post

def Plain : RotationCall → Prop
  | .mutate _ | .create _ => False
  | _ => True

/-- A program that only reads writes what is warranted. -/
theorem Warrants.plain {p : RotationM α} (h : p.Calls Plain) :
    Warrants orchestrator p known fun _ _ => True :=
  Learns.plain h fun _ op hp => by cases op <;> first | exact hp.elim | trivial

/-- A computation that calls nothing, and what follows it. -/
theorem Warrants.lifted {x : Except Error α} {f : α → RotationM β} {post : β → Set Fact → Prop}
    (rest : ∀ a, x = .ok a → Warrants orchestrator (f a) known post) :
    Warrants orchestrator (raises x >>= f) known post := by
  cases x with
  | ok a => exact rest a rfl
  | error e => exact ⟨subset_rfl, nofun⟩

/-- A computation that calls nothing, at the end. -/
theorem Warrants.last {x : Except Error α} {post : α → Set Fact → Prop} (h : ∀ a, x = .ok a → post a known) :
    Warrants orchestrator (raises x) known post := by
  cases x with
  | ok a => exact ⟨subset_rfl, fun b hb => Except.ok.inj hb ▸ h a rfl⟩
  | error e => exact ⟨subset_rfl, nofun⟩

/-- A call of another service. -/
theorem Warrants.remote {p : RotationM α} {post : α → Set Fact → Prop} (h : Warrants orchestrator p known post) :
    Warrants orchestrator (Orchestration.remote p) known post := by
  refine h.handled fun e after _ => ?_
  have answered : Warrants orchestrator (rotationCall .response >>= fun (answer : Bool × String) =>
      (lift (.error (.http answer.1 answer.2)) : RotationM α)) after post :=
    (Warrants.plain (p := rotationCall .response) (calls_perform trivial)).bind fun _ _ _ _ => Learns.raised
  cases e with
  | http transient text => exact Learns.raised
  | raised exception => exact answered
  | pause reason output => exact answered

/-- A call that is made again, until it goes through. -/
theorem Warrants.retrying {p : RotationM α} {post : α → Set Fact → Prop}
    (h : ∀ after, known ⊆ after → Warrants orchestrator p after post) :
    Warrants orchestrator (Orchestration.retrying p) known post :=
  Spec.retry (I := fun after => known ⊆ after)
    (fun after grown => (h after grown).mono fun _ _ ⟨later, hp⟩ => ⟨grown.trans later, hp⟩)
    (fun _ _ ⟨grown, _⟩ => grown) 5 subset_rfl

/-- An attempt, whose result is looked at only if there is one. -/
theorem Warrants.attempted {p : RotationM α} {post : α → Set Fact → Prop} (h : Warrants orchestrator p known post) :
    Warrants orchestrator p.attempted known fun outcome after => ∀ a, outcome = .ok a → post a after :=
  spec_attempted.mpr (h.mono fun _ _ ⟨grown, hp⟩ => ⟨grown, fun _ ho => Except.ok.inj ho ▸ hp⟩)

section
variable {run : RotationRun} {id : Identifier} {started : AwareDatetime}

/-- A decision stands whatever is learnt later. -/
theorem Decides.mono {hashes : Hashes} {after : Set Fact} {result : StageExecutionResult}
    (h : Decides hashes known run result) (grown : known ⊆ after) : Decides hashes after run result :=
  { h with
    read := grown h.read
    succeeded := fun hs => by
      obtain ⟨running, controls, pinned, passed⟩ := h.succeeded hs
      exact ⟨running, controls, grown pinned, passed⟩ }

private theorem checkGates_ok {controls : ControlVersion} {result : StageExecutionResult}
    (h : StageCoordinator.checkGates controls result = .ok ()) :
    controls.definition.requiredChecks result.stage ⊆ result.checks := by
  obtain ⟨proof, hproof, hgate⟩ := (bind_ok _ _ _).mp h
  unfold StageCoordinator.stageProof at hproof
  split at hproof
  · cases hproof
    exact (GatePolicy.validate_ok _ _).mp hgate
  · cases hproof

private theorem work_plain : (StageCoordinator.work run).Calls Plain := by
  unfold StageCoordinator.work
  split
  · exact Calls.bind (calls_perform trivial) fun _ => calls_pure _
  · exact Calls.bind (calls_perform trivial) fun _ => calls_pure _

private theorem terminate_plain : (StageCoordinator.terminate run).Calls Plain :=
  Calls.tryCatch (calls_perform trivial) fun _ => calls_pure _

private theorem attempt_warrants (read : .version run ∈ known) (active : run.status ∈ [.running, .recovering]) :
    Warrants orchestrator (StageCoordinator.attempt (stageId orchestrator.hashes run.id run.stage run.revision) run started)
      known fun result after => Decides orchestrator.hashes after run result := by
  unfold StageCoordinator.attempt
  refine Learns.call trivial fun (controls : ControlVersion) controlled grown pinned => ?_
  have pinned : .pinned run controls ∈ controlled := pinned ▸ Set.mem_insert ..
  refine (Warrants.plain work_plain).bind fun (work, mode) worked grown' _ => ?_
  refine Learns.call trivial fun (evidence : List Identifier) evidenced grown'' _ => ?_
  refine Learns.call trivial fun (completed : AwareDatetime) last grown''' _ => ?_
  refine Warrants.lifted fun result built => ?_
  have fields := StageExecutionResult.modelValidate_ok built
  have later := grown'.trans (grown''.trans grown''')
  have decides (gated : result.status = .succeeded → controls.definition.requiredChecks run.stage ⊆ result.checks) :
      Decides orchestrator.hashes last run result := by
    refine ⟨later (grown read), ?_, ?_, ?_, ?_, active, fun hs => ?_, fun hs => ?_⟩
    · rw [fields]
    · rw [fields]
    · rw [fields]
    · rw [fields]
    · refine ⟨?_, controls, later pinned, gated hs⟩
      rw [fields] at hs
      simp only [List.mem_cons, List.not_mem_nil, or_false] at active
      rcases active with running | recovering
      · exact running
      · simp [recovering] at hs
    · rw [fields] at hs
      by_contra running
      simp [running] at hs
  split
  · refine Warrants.lifted fun _ gate => Learns.pure (decides fun _ => ?_)
    have stage : result.stage = run.stage := by rw [fields]
    exact stage ▸ checkGates_ok gate
  · rename_i recovering
    refine Learns.pure (decides fun hs => ?_)
    rw [fields] at hs
    simp [not_not.mp recovering] at hs

private theorem unfinished_decides {fields : ExecutionFields} {result : StageExecutionResult}
    (read : .version run ∈ known) (active : run.status ∈ [.running, .recovering])
    (about : fields.id = stageId orchestrator.hashes run.id run.stage run.revision ∧
      fields.organisationId = run.organisationId ∧ fields.runId = run.id ∧ fields.stage = run.stage)
    (unfinished : fields.status ∉ ExecutionFields.completed)
    (built : StageExecutionResult.modelValidate fields = .ok result) :
    Decides orchestrator.hashes known run result := by
  have same := StageExecutionResult.modelValidate_ok built
  obtain ⟨id, organisationId, runId, stage⟩ := about
  have status : result.status = fields.status := by rw [same]
  refine ⟨read, ?_, ?_, ?_, ?_, active, fun hs => ?_, fun hs => ?_⟩
  · rw [same, organisationId]
  · rw [same, runId]
  · rw [same, stage]
  · rw [same, id]
  · exact absurd (by simp [ExecutionFields.completed, ← status, hs]) unfinished
  · exact absurd (by simp [ExecutionFields.completed, ← status, hs]) unfinished

private theorem paused_warrants {reason : String} {output : Output} (read : .version run ∈ known)
    (active : run.status ∈ [.running, .recovering]) :
    Warrants orchestrator
      (StageCoordinator.paused (stageId orchestrator.hashes run.id run.stage run.revision) run started reason output)
      known fun result after => Decides orchestrator.hashes after run result := by
  have decided (after : Set Fact) (grown : known ⊆ after) : Warrants orchestrator (do
      let completed ← rotationCall .now
      raises (StageExecutionResult.modelValidate {
        id := stageId orchestrator.hashes run.id run.stage run.revision
        organisationId := run.organisationId
        runId := run.id
        stage := run.stage
        status := .paused
        output
        reason := some reason
        startedAt := started
        completedAt := completed })) after fun result last => Decides orchestrator.hashes last run result := by
    refine Learns.call trivial fun (completed : AwareDatetime) last later _ => Warrants.last fun result built => ?_
    exact unfinished_decides (later (grown read)) active ⟨rfl, rfl, rfl, rfl⟩ (by simp [ExecutionFields.completed]) built
  unfold StageCoordinator.paused
  split
  · refine Learns.call trivial fun _ flagged grown _ => ?_
    exact (Warrants.plain terminate_plain).bind fun _ after later _ => decided after (grown.trans later)
  · exact decided known subset_rfl

private theorem failed_warrants {exception : Raised} (read : .version run ∈ known)
    (active : run.status ∈ [.running, .recovering]) :
    Warrants orchestrator
      (StageCoordinator.failed (stageId orchestrator.hashes run.id run.stage run.revision) run started exception)
      known fun result after => Decides orchestrator.hashes after run result := by
  unfold StageCoordinator.failed
  refine (Warrants.plain terminate_plain).bind fun _ terminated grown _ => ?_
  refine Learns.call trivial fun (evidence : List Identifier) evidenced grown' _ => ?_
  refine Learns.call trivial fun (completed : AwareDatetime) last grown'' _ => Warrants.last fun result built => ?_
  exact unfinished_decides (grown'' (grown' (grown read))) active ⟨rfl, rfl, rfl, rfl⟩
    (by simp [ExecutionFields.completed]) built

private theorem current_warrants {organisationId executionId : Identifier} :
    Warrants orchestrator (StageCoordinator.current organisationId executionId) known fun result after =>
      ∀ r, result = some r → .decided r ∈ after ∧ r.organisationId = organisationId ∧ r.id = executionId := by
  refine Learns.handled ?_ fun e after _ => ?_
  · refine Learns.call trivial fun (result : StageExecutionResult) after _ learnt => Learns.pure ?_
    rintro r ⟨rfl⟩
    exact ⟨learnt.1 ▸ Set.mem_insert .., learnt.2⟩
  · cases e with
    | raised exception =>
      refine Learns.choice (fun _ => Learns.pure ?_) fun _ => Learns.raised
      rintro r ⟨⟩
    | pause reason output => exact Learns.raised
    | http transient text => exact Learns.raised

private theorem validateRequest_ok {request : StageExecutionRequest} {now : AwareDatetime}
    (h : StageCoordinator.validateRequest request run now = .ok ()) :
    run.revision = request.expectedRevision ∧ run.stage = request.stage ∧ run.status ∈ [.running, .recovering] := by
  simp only [StageCoordinator.validateRequest, unit_bind_ok, raiseIf_ok, not_or, not_not] at h
  exact ⟨h.1.1, h.1.2, h.2.1⟩

/-- What the coordinator returns is the stored result of the stage at the revision that it was asked about. -/
theorem execute_warrants (request : StageExecutionRequest) :
    Warrants orchestrator (StageCoordinator.execute orchestrator.hashes request) known fun result after =>
      .decided result ∈ after ∧ result.organisationId = request.organisationId ∧
        result.id = executionId orchestrator.hashes request := by
  unfold StageCoordinator.execute
  refine Learns.call trivial fun (started : AwareDatetime) begun _ _ => ?_
  refine Learns.call trivial fun (run : RotationRun) reading _ learnt => ?_
  obtain ⟨hreading, organisationId, runId⟩ := learnt
  have read : .version run ∈ reading := hreading ▸ Set.mem_insert ..
  refine Learns.call trivial fun (now : AwareDatetime) timed grown _ => Warrants.lifted fun _ valid => ?_
  obtain ⟨revision, stage, active⟩ := validateRequest_ok valid
  have named : executionId orchestrator.hashes request = stageId orchestrator.hashes run.id run.stage run.revision := by
    rw [executionId, runId, stage, revision]
  refine current_warrants.bind fun found looked grown' known => ?_
  cases found with
  | some result => exact Learns.pure (known result rfl)
  | none =>
    rw [named]
    have read := grown' (grown read)
    refine ((attempt_warrants read active).handled fun e after later => ?_).bind
      fun (result : StageExecutionResult) worked _ decides => ?_
    · cases e with
      | pause reason output => exact paused_warrants (later read) active
      | raised exception => exact failed_warrants (later read) active
      | http transient text => exact failed_warrants (later read) active
    · refine Learns.call trivial fun _ audited later _ => ?_
      refine Learns.call ⟨run, decides.mono later⟩ fun _ stored _ learnt => Learns.pure ?_
      exact ⟨learnt ▸ Set.mem_insert .., decides.organisationId.trans organisationId, decides.id⟩

end

end Uumi.Orchestration
