import Uumi.Orchestration.Interleavings

/-! Whatever the order of their calls, and wherever executions stop, what the workflow wrote about a stage is what the
coordinator decided about it, and what the workflow reports is so. -/
namespace Uumi.Orchestration
open Uumi.Contracts Uumi.Coordinator Uumi.Core Uumi.Foundations Uumi.Policy Uumi.State Uumi.Storage Uumi.Workflow
open Uumi.Foundations.Program
open Orchestrator (Report)

variable {orchestrator : Orchestrator} {s : Documents} {run : RotationRun} {result : StageExecutionResult}

/-- The status of the result that a step of this operation concludes a stage with. -/
def conclusion : String → Option StageExecutionStatus
  | "complete-stage" => some .succeeded
  | "complete-recovery" => some .recovered
  | "pause" => some .paused
  | _ => none

/-- The failure that a command records. -/
def blame : RunCommand → Option Failure
  | .fail c => some c.failure
  | .cleanup c => some c.failure
  | _ => none

/-- The names of stages are distinct: no two versions of runs that there have been share one. -/
def Distinct (hashes : Hashes) (s : Documents) : Prop :=
  ∀ a b, Reached s.runs a → Reached s.runs b → a.organisationId = b.organisationId →
    stageId hashes a.id a.stage a.revision = stageId hashes b.id b.stage b.revision →
    a.id = b.id ∧ a.stage = b.stage ∧ a.revision = b.revision

/-- A step concludes a stage with a result: the one that is stored under the name of this stage and revision, with the
same status, checks, evidence and time. While names are distinct, the coordinator made it for the run just before the
step. -/
structure Concludes (hashes : Hashes) (s : Documents) (organisationId runId : Identifier) (step : RunStep)
    (result : StageExecutionResult) : Prop where
  stored : s.results (organisationId, result.id) = some result
  status : conclusion step.operation = some result.status
  named : ∃ stage revision, step.beforeStage = some stage ∧ step.revision = revision + 1 ∧
    result.id = stageId hashes runId stage revision
  proof : ∀ proof ∈ step.proof, proof.stage ∈ step.beforeStage ∧ proof.checks = result.checks ∧
    proof.evidenceIds = result.evidenceIds ∧ proof.recordedAt = result.completedAt
  made : Distinct hashes s → ∃ version, Made hashes s version result ∧ version.organisationId = organisationId ∧
    version.id = runId ∧ step.beforeStage = some version.stage ∧ step.beforeStatus = some version.status ∧
    step.revision = version.revision + 1

section
variable {organisationId runId stepId : Identifier} {step : RunStep} {status : StageExecutionStatus}

private theorem decided_concludes {base : CommandBase} (hc : Consistent orchestrator s)
    (h : Decided orchestrator.hashes (stored s) base run status result)
    (found : s.runs.steps (base.organisationId, base.runId, stepId) = some step)
    (revision : step.revision = base.expectedRevision + 1) (concluded : conclusion step.operation = some status)
    (proof : ∀ proof ∈ step.proof, proof.stage = run.stage ∧ proof.checks = result.checks ∧
      proof.evidenceIds = result.evidenceIds ∧ proof.recordedAt = result.completedAt) :
    Concludes orchestrator.hashes s base.organisationId base.runId step result := by
  obtain ⟨read, ⟨organisation, id⟩, expected, hstored, placed, named, rfl⟩ := h
  rw [← organisation, ← id] at found
  rw [← expected] at revision
  obtain ⟨beforeStage, -⟩ := Reached.before read hc.traced found revision
  refine ⟨placed ▸ hstored, concluded, ⟨run.stage, run.revision, beforeStage, revision, id ▸ named⟩, fun p hp => ?_,
    fun distinct => ?_⟩
  · obtain ⟨stage, rest⟩ := proof p hp
    exact ⟨stage ▸ beforeStage, rest⟩
  · obtain ⟨-, version, made⟩ := hc.made _ _ hstored
    have same : version.organisationId = run.organisationId :=
      made.organisationId.symm.trans (placed.trans organisation.symm)
    obtain ⟨sameId, -, sameRevision⟩ := distinct version run made.read read same (made.id.symm.trans named)
    rw [← same, ← sameId] at found
    rw [← sameRevision] at revision
    obtain ⟨beforeStage, beforeStatus⟩ := Reached.before made.read hc.traced found revision
    exact ⟨version, made, same.trans organisation, sameId.trans id, beforeStage, beforeStatus, revision⟩

private theorem swept_unconcluded {command : RunCommand} (h : Swept command) : conclusion command.operation = none := by
  obtain ⟨sweep, run, hm⟩ := h
  simp only [List.mem_cons, List.not_mem_nil, or_false] at hm
  rcases hm with rfl | rfl | rfl | rfl <;> rfl

/-- A step under the workflow's identity that concludes a stage does so with a result of the coordinator. -/
theorem Consistent.concludes (hc : Consistent orchestrator s)
    (found : s.runs.steps (organisationId, runId, stepId) = some step) (actor : step.actorId = orchestrator.actorId)
    (concluded : conclusion step.operation ≠ none) :
    ∃ result, Concludes orchestrator.hashes s organisationId runId step result := by
  cases hc.traced.caused.steps found with
  | created operation first command hash => exact absurd (by rw [operation]; rfl) concluded
  | caused command causes _ _ _ _ _ _ =>
    rw [causes.operation] at concluded
    rcases hc.warranted _ _ _ found causes (causes.actorId ▸ actor) with swept | warranted
    · exact absurd (swept_unconcluded swept) concluded
    obtain ⟨organisation, id, -⟩ : organisationId = command.organisationId ∧ runId = command.runId ∧ stepId = command.id := by
      simpa using causes.key
    subst organisation id
    cases command with
    | complete c =>
      obtain ⟨current, result, decided, stage, checks, evidence, recorded, -⟩ := warranted
      refine ⟨result, decided_concludes hc decided found causes.revision (by rw [causes.operation]; rfl) fun proof hp => ?_⟩
      obtain rfl : c.proof = proof := Option.some.inj (causes.proof.symm.trans hp)
      exact ⟨stage, checks, evidence, recorded⟩
    | completeRecovery c =>
      obtain ⟨current, result, decided, -⟩ := warranted
      exact ⟨result, decided_concludes hc decided found causes.revision (by rw [causes.operation]; rfl) (causes.proof ▸ nofun)⟩
    | pause c =>
      obtain ⟨current, result, decided⟩ := warranted
      exact ⟨result, decided_concludes hc decided found causes.revision (by rw [causes.operation]; rfl) (causes.proof ▸ nofun)⟩
    | _ => exact absurd rfl concluded

/-- A failure that is recorded under the workflow's identity is a sweep's, or the coordinator decided it, or a call
failed. -/
theorem Consistent.blames (hc : Consistent orchestrator s)
    (found : s.runs.steps (organisationId, runId, stepId) = some step) (actor : step.actorId = orchestrator.actorId)
    {command : RunCommand} (causes : Causes orchestrator.hashes.toHashing command (organisationId, runId, stepId) step)
    {failure : Failure} (blamed : failure ∈ blame command) :
    Swept command ∨ FailedBy orchestrator.hashes (stored s) command.base failure := by
  refine (hc.warranted _ _ _ found causes (causes.actorId ▸ actor)).imp_right fun warranted => ?_
  cases command with
  | fail c => exact Option.some.inj blamed ▸ warranted
  | cleanup c => exact Option.some.inj blamed ▸ warranted
  | _ => cases blamed

end

/-- In each of these states the run of an event is stored in this version. -/
def Stays (states : Set Documents) (event : RunEvent) (run : RotationRun) : Prop :=
  ∀ s ∈ states, s.runs.runs (event.organisationId, event.runId) = some run

/-- In each of these states this version of the run of an event has been stored, and one step is in its log: a command
of the workflow left the run in this status, in this version or in one before it. -/
structure Left (orchestrator : Orchestrator) (states : Set Documents) (event : RunEvent) (run : RotationRun)
    (status : RunStatus) (command : RunCommand) : Prop where
  reached : ∀ s ∈ states, Reached s.runs run
  concerns : Concerns event run
  actorId : command.actorId = orchestrator.actorId
  step : ∃ step, (∀ s ∈ states, s.runs.steps (event.organisationId, event.runId, command.id) = some step) ∧
    Causes orchestrator.hashes.toHashing command (event.organisationId, event.runId, command.id) step ∧
    step.afterStatus = status ∧ step.revision ≤ run.revision

/-- What a report says about the run of an event, in each of these states. -/
def Reported (orchestrator : Orchestrator) (states : Set Documents) (event : RunEvent) : Report → Prop
  | .completed runId revision => ∃ run, Stays states event run ∧ run.status = .completed ∧ run.id = runId ∧
    run.revision = revision
  | .compensated runId failedStage mode evidenceIds => ∃ run, Stays states event run ∧ run.status = .compensated ∧
    run.id = runId ∧ run.recoveryStage = failedStage ∧ run.recoveryMode = mode ∧ run.recoveryEvidenceIds = evidenceIds
  | .failed run => ∃ c, Left orchestrator states event run .failed (.fail c)
  | .paused run _ => ∃ c, Left orchestrator states event run .paused (.pause c)
  | .ignored kind => kind = event.kind

section
variable {states : Set Documents} {known : Set Fact} {event : RunEvent}

private theorem final_stays {hashing : Hashing} (facts : ∀ s ∈ states, ∀ fact ∈ known, fact.Holds hashing s)
    (read : .version run ∈ known) (about : Concerns event run) (hf : run.status ∈ final) : Stays states event run := by
  intro s hs
  have reached : Reached s.runs run := facts s hs _ read
  rw [← about.1, ← about.2]
  exact reached.stays hf

private theorem issued_left (facts : ∀ s ∈ states, ∀ fact ∈ known, fact.Holds orchestrator.hashes.toHashing s)
    (inhabited : s ∈ states) (read : .version run ∈ known) (about : Concerns event run) {command : RunCommand}
    (issued : Issued orchestrator known event run command) {status : RunStatus}
    (leads : ∀ step, Leads step command → step.afterStatus = status) :
    Left orchestrator states event run status command := by
  obtain ⟨actor, addressed, step, stepped, revision⟩ := issued
  have recorded {t : Documents} (ht : t ∈ states) :
      t.runs.steps (event.organisationId, event.runId, command.id) = some step ∧
        Causes orchestrator.hashes.toHashing command (event.organisationId, event.runId, command.id) step := by
    obtain ⟨key, found, causes⟩ : ∃ key, t.runs.steps key = some step ∧
      Causes orchestrator.hashes.toHashing command key step := facts t ht _ stepped
    have hk := causes.key
    rw [addressed.1, addressed.2] at hk
    subst hk
    exact ⟨found, causes⟩
  have causes := (recorded inhabited).2
  exact ⟨fun t ht => facts t ht _ read, about, actor, step, fun t ht => (recorded ht).1, causes,
    leads step causes.leads, revision⟩

/-- What a program has learnt when it reports is so. -/
theorem told_reported (facts : ∀ s ∈ states, ∀ fact ∈ known, fact.Holds orchestrator.hashes.toHashing s)
    (inhabited : s ∈ states) {report : Report} (told : Told orchestrator known event report) :
    Reported orchestrator states event report := by
  cases report with
  | completed runId revision =>
    obtain ⟨run, read, about, status, rest⟩ := told
    exact ⟨run, final_stays facts read about (by simp [final, status]), status, rest⟩
  | compensated runId failedStage mode evidenceIds =>
    obtain ⟨run, read, about, status, rest⟩ := told
    exact ⟨run, final_stays facts read about (by simp [final, status]), status, rest⟩
  | failed run =>
    obtain ⟨read, about, c, issued⟩ := told
    exact ⟨c, issued_left facts inhabited read about issued fun _ leads => leads⟩
  | paused run reason =>
    obtain ⟨read, about, c, issued⟩ := told
    exact ⟨c, issued_left facts inhabited read about issued fun _ leads => leads⟩
  | ignored kind => exact told

end

section
variable {ι : Type} [DecidableEq ι] (tasks : ι → Task) {events : RotationEvents ι} {pool : RotationPool ι}

/-- Whatever is executed side by side, and wherever it stops: a step under the workflow's identity concludes a stage
only with a stored result of the coordinator for it, and a failure under that identity is a sweep's, or the coordinator
decided it, or a call failed. -/
theorem stages_decided (injective : Function.Injective orchestrator.hashes.sha256) (begun : Start orchestrator s)
    (run : Runs orchestrator [] ⟨s, fun i => (tasks i).program orchestrator⟩ events pool)
    {organisationId runId stepId : Identifier} {step : RunStep}
    (found : pool.state.runs.steps (organisationId, runId, stepId) = some step)
    (actor : step.actorId = orchestrator.actorId) :
    (conclusion step.operation ≠ none →
      ∃ result, Concludes orchestrator.hashes pool.state organisationId runId step result) ∧
    ∀ command, Causes orchestrator.hashes.toHashing command (organisationId, runId, stepId) step →
      ∀ failure ∈ blame command,
        Swept command ∨ FailedBy orchestrator.hashes (stored pool.state) command.base failure := by
  obtain ⟨known, informed, -⟩ := runs_informed injective (start_informed injective begun tasks) run
  have consistent := informed.consistent
  exact ⟨consistent.concludes found actor, fun command causes failure blamed => consistent.blames found actor causes blamed⟩

/-- The documents as they are now, and as they may be at any later moment. -/
def Onwards (orchestrator : Orchestrator) (events : RotationEvents ι) (pool : RotationPool ι) : Set Documents :=
  {t | ∃ further later, Runs orchestrator events pool further later ∧ later.state = t}

/-- What an execution of the workflow reports is so from the moment it ends, whatever else is executed. -/
theorem reports_hold (injective : Function.Injective orchestrator.hashes.sha256) (begun : Start orchestrator s)
    (run : Runs orchestrator [] ⟨s, fun i => (tasks i).program orchestrator⟩ events pool) {i : ι} {limit : Nat}
    {event : RunEvent} (task : tasks i = .rotation limit event) {report : Report}
    (ended : pool.programs i = .finish (.ok (some report))) :
    Reported orchestrator (Onwards orchestrator events pool) event report := by
  obtain ⟨known, informed, -⟩ := runs_informed injective (start_informed injective begun tasks) run
  have facts : ∀ t ∈ Onwards orchestrator events pool, ∀ fact ∈ known i,
      fact.Holds orchestrator.hashes.toHashing t := by
    rintro t ⟨further, later, rest, rfl⟩ fact known
    obtain ⟨-, -, extended⟩ := runs_informed injective informed rest
    exact (informed.facts i fact known).extend extended
  have ends := informed.follows i
  rw [ended, task] at ends
  exact told_reported facts ⟨events, pool, .nil, rfl⟩ (ends _ rfl)

end

def sampleNaming (text : String) : Checksum :=
  match text.toList.getLast? with
  | some '1' => ⟨"1111111111111111111111111111111111111111", by decide⟩
  | some '2' => ⟨"2222222222222222222222222222222222222222", by decide⟩
  | some 't' => ⟨"3333333333333333333333333333333333333333", by decide⟩
  | _ => sampleChecksum

def sampleOrchestrator : Orchestrator where
  hashes := { Hashing.sample with
    checksum := sampleNaming
    lower := id
    isalnum := fun _ => true }
  subject := "workflow"
  actorId := workerOne

def sampleCreation : RunEvent := (createEvent RotationRun.sample sampleCommand).event

def samplePending : Documents := ⟨sampleCreated, Collection.empty⟩

def sampleTake : RunCommand := .start {
  id := sampleOrchestrator.commandId organisationOne "command-1-start"
  organisationId := organisationOne
  runId := runOne
  actorId := workerOne
  expectedRevision := 0
  ownerId := workerOne
  expiresAt := secondsAfter ⟨1, 0⟩ 1800 }

def sampleTaken : RotationRun where
  toRunFields :=
    { RotationRun.sample.toRunFields with
      status := .running
      lease := some (RotationMachine.nextLease RotationRun.sample workerOne (secondsAfter ⟨1, 0⟩ 1800))
      fencingToken := 1
      updatedAt := ⟨1, 0⟩
      revision := 1 }
  accepted := by decide

def sampleTook : MutationResult where
  run := sampleTaken
  step := mutateStep Hashing.sample RotationRun.sample sampleTaken sampleTake none
  applied := true

def sampleWorking : Documents := ⟨sampleMutated sampleCreated RotationRun.sample sampleTaken sampleTake, Collection.empty⟩

def sampleWaiting : StageExecutionResult where
  toExecutionFields := {
    id := stageId sampleOrchestrator.hashes runOne .trigger 1
    organisationId := organisationOne
    runId := runOne
    stage := .trigger
    status := .paused
    reason := some "waiting for an approval"
    startedAt := ⟨2, 0⟩
    completedAt := ⟨3, 0⟩ }
  accepted := by decide +kernel

def sampleDecided : Documents :=
  { sampleWorking with results := Collection.empty.set (organisationOne, sampleWaiting.id) sampleWaiting }

def samplePause : RunCommand := .pause {
  id := sampleOrchestrator.commandId organisationOne (sampleWaiting.id.text ++ "-pause")
  organisationId := organisationOne
  runId := runOne
  actorId := workerOne
  expectedRevision := 1
  fencingToken := 1 }

def samplePaused : RotationRun where
  toRunFields := { sampleTaken.toRunFields with status := .paused, updatedAt := ⟨4, 0⟩, revision := 2 }
  accepted := by decide

def sampleStop : MutationResult where
  run := samplePaused
  step := mutateStep Hashing.sample sampleTaken samplePaused samplePause none
  applied := true

def sampleStopped : Documents :=
  { sampleDecided with runs := sampleMutated sampleWorking.runs sampleTaken samplePaused samplePause }

private theorem sample_commands :
    (sampleCreated.steps (organisationOne, runOne, sampleTake.id) = none ∧
      sampleCreated.outbox (organisationOne, sampleTake.id) = none) ∧
    sampleDecided.runs.steps (organisationOne, runOne, samplePause.id) = none ∧
      sampleDecided.runs.outbox (organisationOne, samplePause.id) = none := by
  refine ⟨⟨?_, ?_⟩, ?_, ?_⟩ <;> decide +kernel

private theorem sample_texts :
    strip "waiting for an approval" = "waiting for an approval" ∧
    ¬ ((sampleCreation.id.text ++ "-start").length < 8 ∨ 256 < (sampleCreation.id.text ++ "-start").length) ∧
    ¬ ((sampleWaiting.id.text ++ "-pause").length < 8 ∨ 256 < (sampleWaiting.id.text ++ "-pause").length) ∧
    ∀ m ∈ [0, 1, 2], ∀ n ∈ [0, 1, 2],
      stageId sampleOrchestrator.hashes runOne .trigger m = stageId sampleOrchestrator.hashes runOne .trigger n → m = n := by
  refine ⟨?_, ?_, ?_, ?_⟩ <;> decide +kernel

private theorem sample_takes : Mutates Hashing.sample sampleCreated {} ⟨1, 0⟩ sampleTake RotationRun.sample sampleTaken sampleTook
    sampleWorking.runs where
  new := sample_commands.1.1
  unused := sample_commands.1.2
  found := rfl
  organisationId := rfl
  revision := rfl
  lock := .inl ⟨_, rfl, rfl⟩
  gate := nofun
  transition_ok := RotationMachine.start_ok.mpr ⟨rfl, rfl, by decide, rfl⟩
  same_organisation := rfl
  same_run := rfl
  bumped := rfl
  result_eq := rfl
  store_eq := rfl

private theorem sample_pauses : Mutates Hashing.sample sampleDecided.runs {} ⟨4, 0⟩ samplePause sampleTaken samplePaused sampleStop
    sampleStopped.runs where
  new := sample_commands.2.1
  unused := sample_commands.2.2
  found := rfl
  organisationId := rfl
  revision := rfl
  lock := .inl ⟨_, rfl, rfl⟩
  gate := nofun
  transition_ok := RotationMachine.pause_ok.mpr ⟨⟨rfl, _, rfl, rfl, by decide⟩, by decide, rfl⟩
  same_organisation := rfl
  same_run := rfl
  bumped := rfl
  result_eq := rfl
  store_eq := rfl

private theorem sample_starts : Start sampleOrchestrator samplePending := by
  refine ⟨sampleStore.controls, .single ?_⟩
  have created : (repository Hashing.sample).perform sampleStore
      (.create sampleCommand RotationRun.sample.id RotationRun.sample.createdAt) = .ok (_, sampleCreated) :=
    create_ok.mpr (.inl sampleCreated_creates)
  have foreign : Foreign sampleOrchestrator
      (.create sampleCommand RotationRun.sample.id RotationRun.sample.createdAt) := trivial
  exact Passes.call (s := ⟨sampleStore, Collection.empty⟩) foreign created

private theorem sample_answered {s : Documents} {runs : Store} {now : AwareDatetime} {command : RunCommand}
    {before updated : RotationRun} {answer : MutationResult}
    (h : Mutates Hashing.sample s.runs {} now command before updated answer runs) :
    world sampleOrchestrator s (.mutate command) (.ok answer) { s with runs } :=
  ⟨s, .refl, {}, now, congrArg (onRuns s) (mutate_ok.mpr (.inl ⟨before, updated, h⟩))⟩

private theorem sample_requests {s t : Documents} {command : RotationM RunCommand} {asked : RunCommand}
    {answer : MutationResult} (asks : Steps (world sampleOrchestrator) s command s (.finish (.ok asked)))
    (answered : world sampleOrchestrator s (.mutate asked) (.ok answer) t) :
    Steps (world sampleOrchestrator) s (Orchestrator.post command) t (.finish (.ok answer)) := by
  have sent : Steps (world sampleOrchestrator) s (command >>= fun command => rotationCall (.mutate command)) t
      (.finish (.ok answer)) := .andThen asks (.call answered (.refl ..))
  exact .retry (.tryCatch sent _) _ _

private theorem sample_raises {α : Type} {s : Documents} {x : Except Error α} {a : α} (h : x = .ok a) :
    Steps (world sampleOrchestrator) s (raises x) s (.finish (.ok a)) := by
  subst h
  exact .refl ..

private theorem sample_reads : world sampleOrchestrator sampleWorking (.run organisationOne runOne) (.ok sampleTaken)
    sampleWorking := by
  have read : Storage.get sampleWorking.runs organisationOne runOne = .ok sampleTaken := by
    simp only [Storage.get, required_bind_ok, unit_bind_ok, pure_ok, tenant_ok]
    exact ⟨sampleTaken, rfl, rfl, rfl⟩
  refine ⟨sampleWorking, .refl, rfl, ?_⟩
  rintro run h
  cases h
  exact read

private theorem sample_misses : world sampleOrchestrator sampleWorking (.result organisationOne sampleWaiting.id)
    (.error (.raised { className := "ResourceNotFoundError", text := "" })) sampleWorking := by
  refine ⟨sampleWorking, .refl, rfl, fun _ found => ?_⟩
  cases found

private theorem sample_dispatches : world sampleOrchestrator sampleWorking (.dispatch sampleTaken)
    (.error (.pause "waiting for an approval" [])) sampleWorking :=
  ⟨sampleWorking, .refl, rfl⟩

private theorem sample_keeps : world sampleOrchestrator sampleWorking (.create sampleWaiting) (.ok ()) sampleDecided :=
  ⟨sampleWorking, .refl, rfl⟩

private theorem sample_controls : world sampleOrchestrator sampleWorking (.control sampleTaken) (.ok Uumi.Workflow.sampleControls)
    sampleWorking := by
  refine ⟨sampleWorking, .refl, rfl, fun controls read => ?_⟩
  cases read
  exact ⟨rfl, rfl, rfl, rfl, rfl⟩

private theorem sample_attempts : Steps (world sampleOrchestrator) sampleWorking
    (StageCoordinator.attempt sampleWaiting.id sampleTaken ⟨2, 0⟩) sampleWorking
    (.finish (.error (.pause "waiting for an approval" []))) := by
  unfold StageCoordinator.attempt StageCoordinator.work
  refine .callThen Uumi.Workflow.sampleControls sampleWorking sample_controls ?_
  rw [if_neg (by decide)]
  exact .call sample_dispatches (.refl ..)

private theorem sample_waits : Steps (world sampleOrchestrator) sampleWorking
    (StageCoordinator.paused sampleWaiting.id sampleTaken ⟨2, 0⟩ "waiting for an approval" []) sampleWorking
    (.finish (.ok sampleWaiting)) := by
  unfold StageCoordinator.paused
  rw [if_neg (by decide)]
  refine .callThen ⟨3, 0⟩ sampleWorking ⟨_, .refl, rfl⟩ ?_
  have stripped := sample_texts.1
  have built : StageExecutionResult.modelValidate sampleWaiting.toExecutionFields = .ok sampleWaiting :=
    StageExecutionResult.modelValidate_of (by simp only [sampleWaiting, Option.map_some, stripped])
  exact congrArg raises built ▸ .refl ..

def sampleRequest : StageExecutionRequest where
  organisationId := organisationOne
  runId := runOne
  stage := .trigger
  expectedRevision := 1
  fencingToken := 1
  token_pos := Nat.one_pos

private theorem sample_executes : Steps (world sampleOrchestrator) sampleWorking
    (StageCoordinator.execute sampleOrchestrator.hashes sampleRequest) sampleDecided (.finish (.ok sampleWaiting)) := by
  unfold StageCoordinator.execute
  refine .callThen ⟨2, 0⟩ sampleWorking ⟨_, .refl, rfl⟩ ?_
  have read : world sampleOrchestrator sampleWorking (.run sampleRequest.organisationId sampleRequest.runId)
      (.ok sampleTaken) sampleWorking := sample_reads
  refine .callThen sampleTaken sampleWorking read ?_
  refine .callThen ⟨2, 0⟩ sampleWorking ⟨_, .refl, rfl⟩ ?_
  have valid : StageCoordinator.validateRequest sampleRequest sampleTaken ⟨2, 0⟩ = .ok () := by decide
  refine .andThen (sample_raises valid) ?_
  have missing : Steps (world sampleOrchestrator) sampleWorking
      (StageCoordinator.current organisationOne sampleWaiting.id) sampleWorking (.finish (.ok none)) :=
    .call sample_misses (.refl ..)
  refine .andThen missing ?_
  refine .andThen ((sample_attempts.tryCatch _).trans sample_waits) ?_
  refine .callThen () sampleWorking ⟨_, .refl, rfl⟩ ?_
  exact .callThen () sampleDecided sample_keeps (.refl ..)

private theorem sample_calls : Steps (world sampleOrchestrator) sampleWorking
    (sampleOrchestrator.callCoordinator sampleTaken) sampleDecided (.finish (.ok sampleWaiting)) := by
  have sent : Steps (world sampleOrchestrator) sampleWorking (do
      let request ← raises (Orchestrator.stageRequest sampleTaken)
      StageCoordinator.execute sampleOrchestrator.hashes request) sampleDecided (.finish (.ok sampleWaiting)) :=
    .andThen (a := sampleRequest) (.refl ..) sample_executes
  exact .retry (.tryCatch sent _) _ _

private theorem sample_starts_run : Steps (world sampleOrchestrator) samplePending
    (sampleOrchestrator.startRun sampleCreation RotationRun.sample) sampleWorking
    (.finish (.ok sampleTook)) := by
  have answered : world sampleOrchestrator samplePending (.mutate sampleTake) (.ok sampleTook) sampleWorking :=
    sample_answered (s := samplePending) sample_takes
  refine sample_requests ?_ answered
  refine .callThen ⟨1, 0⟩ samplePending ⟨_, .refl, rfl⟩ ?_
  have built : sampleOrchestrator.base sampleCreation.organisationId sampleCreation.runId
      (sampleCreation.id.text ++ "-start") RotationRun.sample.revision = .ok sampleTake.base := by
    simp only [Orchestrator.base, unit_bind_ok, raiseIf_ok, pure_ok]
    exact ⟨sample_texts.2.1, rfl⟩
  exact .andThen (sample_raises built) (.refl ..)

private theorem sample_stops : Steps (world sampleOrchestrator) sampleDecided
    (sampleOrchestrator.pauseRun sampleTaken sampleWaiting) sampleStopped
    (.finish (.ok (.paused samplePaused (some "waiting for an approval")))) := by
  have built : sampleOrchestrator.base sampleTaken.organisationId sampleTaken.id (sampleWaiting.id.text ++ "-pause")
      sampleTaken.revision = .ok samplePause.base := by
    simp only [Orchestrator.base, unit_bind_ok, raiseIf_ok, pure_ok]
    exact ⟨sample_texts.2.2.1, rfl⟩
  have paused : Steps (world sampleOrchestrator) sampleDecided (Orchestrator.post do
      let base ← raises (sampleOrchestrator.base sampleTaken.organisationId sampleTaken.id
        (sampleWaiting.id.text ++ "-pause") sampleTaken.revision)
      return .pause { base with fencingToken := sampleTaken.fencingToken }) sampleStopped
      (.finish (.ok sampleStop)) := by
    have answered : world sampleOrchestrator sampleDecided (.mutate samplePause) (.ok sampleStop) sampleStopped :=
      sample_answered (s := sampleDecided) sample_pauses
    exact sample_requests (.andThen (sample_raises built) (.refl ..)) answered
  exact .andThen paused (.refl ..)

private theorem sample_pending : world sampleOrchestrator samplePending
    (.run sampleCreation.organisationId sampleCreation.runId) (.ok RotationRun.sample) samplePending := by
  have read : Storage.get samplePending.runs sampleCreation.organisationId sampleCreation.runId = .ok RotationRun.sample := by
    simp only [Storage.get, required_bind_ok, unit_bind_ok, pure_ok, tenant_ok]
    exact ⟨RotationRun.sample, rfl, rfl, rfl⟩
  refine ⟨samplePending, .refl, rfl, ?_⟩
  rintro run h
  cases h
  exact read

private theorem sample_stage : Steps (world sampleOrchestrator) sampleWorking
    (sampleOrchestrator.executeStages sampleCreation 1 sampleTaken) sampleStopped
    (.finish (.ok (.paused samplePaused (some "waiting for an approval")))) := by
  have attempted : Steps (world sampleOrchestrator) sampleWorking (sampleOrchestrator.callCoordinator sampleTaken).attempted
      sampleDecided (.finish (.ok (.ok sampleWaiting))) := .tryCatch (.andThen sample_calls (.refl ..)) _
  exact .andThen attempted sample_stops

private theorem sample_rotates : Steps (world sampleOrchestrator) samplePending
    ((Task.rotation 1 sampleCreation).program sampleOrchestrator) sampleStopped
    (.finish (.ok (some (.paused samplePaused (some "waiting for an approval"))))) := by
  have read : Steps (world sampleOrchestrator) samplePending
      (retrying (remote (rotationCall (.run sampleCreation.organisationId sampleCreation.runId)))) samplePending
      (.finish (.ok RotationRun.sample)) :=
    .retry (.tryCatch (.call sample_pending (.refl ..)) _) _ _
  have rotated : Steps (world sampleOrchestrator) samplePending (sampleOrchestrator.rotate 1 sampleCreation) sampleStopped
      (.finish (.ok (.paused samplePaused (some "waiting for an approval")))) := by
    unfold Orchestrator.rotate
    rw [if_pos (by decide)]
    exact .andThen read (.andThen sample_starts_run sample_stage)
  exact .andThen rotated (.refl ..)

private theorem sample_versions {a : RotationRun} (h : Reached sampleStopped.runs a) :
    a.id = runOne ∧ a.stage = .trigger ∧ a.revision ∈ [0, 1, 2] := by
  obtain ⟨c, t, found, revision, stage, -⟩ := h.left
  have paused := sample_pauses.steps
  have taken : sampleDecided.runs.steps = _ := sample_takes.steps
  rw [paused, Collection.set_eq_some, taken, Collection.set_eq_some, sampleCreated_creates.steps,
    Collection.set_eq_some] at found
  rcases found with ⟨key, rfl⟩ | ⟨-, ⟨key, rfl⟩ | ⟨-, ⟨key, rfl⟩ | ⟨-, none⟩⟩⟩
  · exact ⟨congrArg (·.2.1) key, stage.symm, by rw [← revision]; decide⟩
  · exact ⟨congrArg (·.2.1) key, stage.symm, by rw [← revision]; decide⟩
  · exact ⟨congrArg (·.2.1) key, stage.symm, by rw [← revision]; decide⟩
  · cases none

private theorem sample_distinct : Distinct sampleOrchestrator.hashes sampleStopped := by
  intro a b ha hb _ same
  obtain ⟨aId, aStage, aRevision⟩ := sample_versions ha
  obtain ⟨bId, bStage, bRevision⟩ := sample_versions hb
  refine ⟨aId.trans bId.symm, aStage.trans bStage.symm, ?_⟩
  rw [aId, bId, aStage, bStage] at same
  exact sample_texts.2.2.2 _ aRevision _ bRevision same

private theorem sample_runs : ∃ events, Runs sampleOrchestrator []
    ⟨samplePending, fun _ => (Task.rotation 1 sampleCreation).program sampleOrchestrator⟩ events
    ⟨sampleStopped, Function.update (fun _ => (Task.rotation 1 sampleCreation).program sampleOrchestrator) ()
      (.finish (.ok (some (.paused samplePaused (some "waiting for an approval")))))⟩ :=
  Pool.Run.ofSteps sample_rotates () _ rfl []

/-- The pause concludes the first stage with the result of the coordinator, which it made for the running run. -/
theorem samplePause_concludes : ∃ result version, Concludes sampleOrchestrator.hashes sampleStopped organisationOne runOne
    sampleStop.step result ∧ Made sampleOrchestrator.hashes sampleStopped version result ∧ version.revision = 1 := by
  obtain ⟨events, run⟩ := sample_runs
  have found : sampleStopped.runs.steps (organisationOne, runOne, samplePause.id) = some sampleStop.step := by
    rw [sample_pauses.steps]
    exact Collection.set_same ..
  obtain ⟨result, concludes⟩ := (stages_decided (fun _ => .rotation 1 sampleCreation) Function.injective_id
    sample_starts run found rfl).1 (by decide)
  obtain ⟨version, made, -, -, -, -, revision⟩ := concludes.made sample_distinct
  exact ⟨result, version, concludes, made, Nat.succ.inj revision.symm⟩

/-- Its report is so from then on. -/
theorem samplePaused_reported : ∃ events, ∃ pool : RotationPool Unit, pool.state = sampleStopped ∧
    Reported sampleOrchestrator (Onwards sampleOrchestrator events pool) sampleCreation
      (.paused samplePaused (some "waiting for an approval")) := by
  obtain ⟨events, run⟩ := sample_runs
  exact ⟨events, _, rfl,
    reports_hold (fun _ => .rotation 1 sampleCreation) Function.injective_id sample_starts run (i := ()) rfl rfl⟩

end Uumi.Orchestration
