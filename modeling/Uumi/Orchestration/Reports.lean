import Uumi.Contracts.Audit
import Uumi.Orchestration.Warrants

/-! The workflow has a warrant for everything that it writes, and reports what it has learnt. -/
namespace Uumi.Orchestration
open Uumi.Contracts Uumi.Coordinator Uumi.Core Uumi.Foundations Uumi.Policy Uumi.Storage
open Uumi.Foundations.Program
open Orchestrator (Report StageFailure)

variable {orchestrator : Orchestrator} {known : Set Fact} {event : RunEvent} {current : RotationRun}

/-- A version of the run of an event. -/
def Concerns (event : RunEvent) (run : RotationRun) : Prop :=
  run.organisationId = event.organisationId ∧ run.id = event.runId

def Addresses (event : RunEvent) (command : RunCommand) : Prop :=
  command.organisationId = event.organisationId ∧ command.runId = event.runId

/-- A command of the workflow on the run of an event took effect, in a step that led to this version of the run or to
one before it. -/
structure Issued (orchestrator : Orchestrator) (known : Set Fact) (event : RunEvent) (run : RotationRun)
    (command : RunCommand) : Prop where
  actorId : command.actorId = orchestrator.actorId
  addresses : Addresses event command
  stepped : ∃ step, .stepped command step ∈ known ∧ step.revision ≤ run.revision

def Told (orchestrator : Orchestrator) (known : Set Fact) (event : RunEvent) : Report → Prop
  | .completed runId revision => ∃ run, .version run ∈ known ∧ Concerns event run ∧ run.status = .completed ∧
    run.id = runId ∧ run.revision = revision
  | .compensated runId failedStage mode evidenceIds => ∃ run, .version run ∈ known ∧ Concerns event run ∧
    run.status = .compensated ∧ run.id = runId ∧ run.recoveryStage = failedStage ∧ run.recoveryMode = mode ∧
    run.recoveryEvidenceIds = evidenceIds
  | .failed run => .version run ∈ known ∧ Concerns event run ∧ ∃ c, Issued orchestrator known event run (.fail c)
  | .paused run _ => .version run ∈ known ∧ Concerns event run ∧ ∃ c, Issued orchestrator known event run (.pause c)
  | .ignored kind => kind = event.kind

private theorem base_ok {organisationId runId : Identifier} {key : String} {revision : Nat} {base : CommandBase}
    (h : orchestrator.base organisationId runId key revision = .ok base) :
    base.organisationId = organisationId ∧ base.runId = runId ∧ base.actorId = orchestrator.actorId ∧
      base.expectedRevision = revision := by
  simp only [Orchestrator.base, unit_bind_ok, pure_ok] at h
  obtain ⟨-, rfl⟩ := h
  exact ⟨rfl, rfl, rfl, rfl⟩

private theorem base_addresses (about : Concerns event current) {key : String} {revision : Nat} {base : CommandBase}
    (h : orchestrator.base current.organisationId current.id key revision = .ok base) :
    base.actorId = orchestrator.actorId ∧ base.organisationId = event.organisationId ∧ base.runId = event.runId := by
  obtain ⟨organisationId, runId, actorId, -⟩ := base_ok h
  exact ⟨actorId, organisationId.trans about.1, runId.trans about.2⟩

/-- A request, from the command that it makes. -/
theorem post_warrants (event : RunEvent) {command : RotationM RunCommand} {Q : RunCommand → Prop}
    (h : ∀ after, known ⊆ after → Warrants orchestrator command after fun c last =>
      Justified orchestrator last (.mutate c) ∧ Addresses event c ∧ Q c) :
    Warrants orchestrator (Orchestrator.post command) known fun result after =>
      .version result.run ∈ after ∧ Concerns event result.run ∧
        ∃ c, Q c ∧ Issued orchestrator after event result.run c := by
  refine Warrants.retrying fun after grown => Warrants.remote ?_
  refine (h after grown).bind fun c justified _ ⟨warranted, addressed, asked⟩ => ?_
  refine Learns.lastCall warranted fun (result : MutationResult) last learnt => ?_
  obtain ⟨rfl, organisationId, runId, revision⟩ := learnt
  exact ⟨Set.mem_insert .., ⟨organisationId.trans addressed.1, runId.trans addressed.2⟩, c, asked,
    warranted.1, addressed, result.step, Set.mem_insert_of_mem _ (Set.mem_insert ..), revision⟩

private theorem post_reads (event : RunEvent) {command : RotationM RunCommand}
    (h : ∀ after, known ⊆ after → Warrants orchestrator command after fun c last =>
      Justified orchestrator last (.mutate c) ∧ Addresses event c) :
    Warrants orchestrator (Orchestrator.post command) known fun result after =>
      .version result.run ∈ after ∧ Concerns event result.run := by
  refine Learns.weaken (post_warrants event (Q := fun _ => True) fun after grown => ?_) fun _ _ _ told => ⟨told.1, told.2.1⟩
  exact (h after grown).weaken fun _ _ _ ⟨justified, addressed⟩ => ⟨justified, addressed, trivial⟩

private theorem startRun_warrants (current : RotationRun) :
    Warrants orchestrator (orchestrator.startRun event current) known fun result after =>
      .version result.run ∈ after ∧ Concerns event result.run := by
  refine post_reads event fun after _ => ?_
  refine Learns.call trivial fun (now : AwareDatetime) _ _ _ => Warrants.lifted fun base built => Learns.pure ?_
  obtain ⟨organisationId, runId, actorId, -⟩ := base_ok built
  exact ⟨⟨actorId, trivial⟩, organisationId, runId⟩

private theorem renewLease_warrants (about : Concerns event current) (key : String) (seconds : Int) :
    Warrants orchestrator (orchestrator.renewLease current key seconds) known fun result after =>
      .version result.run ∈ after ∧ Concerns event result.run := by
  refine post_reads event fun after _ => ?_
  refine Learns.call trivial fun (now : AwareDatetime) _ _ _ => Warrants.lifted fun base built => Learns.pure ?_
  obtain ⟨actorId, addressed⟩ := base_addresses about built
  exact ⟨⟨actorId, trivial⟩, addressed⟩

section
variable {again : RotationRun → RotationM Report} {result : StageExecutionResult}

/-- The rest of the workflow reports what it has learnt, wherever it takes up. -/
def Goes (orchestrator : Orchestrator) (event : RunEvent) (again : RotationRun → RotationM Report) : Prop :=
  ∀ known current, .version current ∈ known → Concerns event current →
    Warrants orchestrator (again current) known fun report after => Told orchestrator after event report

private theorem terminalCheck_warrants (goes : Goes orchestrator event again) (known : Set Fact)
    (read : .version current ∈ known) (about : Concerns event current) :
    Warrants orchestrator (orchestrator.terminalCheck again event current) known fun report after =>
      Told orchestrator after event report := by
  have renewed (key : String) : Warrants orchestrator (do
      let renewed : MutationResult ← orchestrator.renewLease current key 1800
      again renewed.run) known fun report after => Told orchestrator after event report :=
    (renewLease_warrants about key 1800).bind fun result after _ ⟨read, about⟩ => goes after result.run read about
  unfold Orchestrator.terminalCheck
  split
  · rename_i status
    exact Learns.pure ⟨current, read, about, status, rfl, rfl⟩
  · rename_i status
    exact Learns.pure ⟨current, read, about, status, rfl, rfl, rfl, rfl⟩
  · exact renewed _
  · exact renewed _
  · exact Learns.pure rfl

private theorem observe_warrants (goes : Goes orchestrator event again) (known : Set Fact)
    (about : Concerns event current) :
    Warrants orchestrator (orchestrator.observe again current result) known fun report after =>
      Told orchestrator after event report := by
  refine Warrants.lifted fun seconds _ => ?_
  refine (renewLease_warrants about _ _).bind fun renewed after _ ⟨read, about⟩ => ?_
  exact Learns.call trivial fun _ waited grown _ => goes waited renewed.run (grown read) about

/-- The coordinator answered for the stage of the run at its revision. -/
structure Answered (orchestrator : Orchestrator) (known : Set Fact) (current : RotationRun)
    (result : StageExecutionResult) : Prop where
  read : .version current ∈ known
  decided : .decided result ∈ known
  organisationId : result.organisationId = current.organisationId
  id : result.id = stageId orchestrator.hashes current.id current.stage current.revision

private theorem Answered.decides (h : Answered orchestrator known current result) {status : StageExecutionStatus}
    (decided : result.status = status) {key : String} {base : CommandBase}
    (built : orchestrator.base current.organisationId current.id key current.revision = .ok base) :
    Decided orchestrator.hashes (knowledge known) base current status result := by
  obtain ⟨organisationId, runId, -, revision⟩ := base_ok built
  exact ⟨h.read, ⟨organisationId.symm, runId.symm⟩, revision.symm, h.decided, h.organisationId.trans organisationId.symm,
    h.id, decided⟩

private theorem Answered.mono {after : Set Fact} (h : Answered orchestrator known current result) (grown : known ⊆ after) :
    Answered orchestrator after current result :=
  { h with read := grown h.read, decided := grown h.decided }

private theorem completeStage_warrants (goes : Goes orchestrator event again) (about : Concerns event current)
    (answered : Answered orchestrator known current result) (status : result.status = .succeeded) :
    Warrants orchestrator (orchestrator.completeStage again event current result) known fun report after =>
      Told orchestrator after event report := by
  refine (post_reads event fun after grown => ?_).bind fun advanced after _ ⟨read, about⟩ => ?_
  · refine Warrants.lifted fun base built => Warrants.lifted fun proof proven => Learns.pure ?_
    obtain ⟨actorId, addressed⟩ := base_addresses about built
    refine ⟨⟨actorId, ?_⟩, addressed⟩
    unfold Orchestrator.proof at proven
    split at proven
    · cases proven
      exact ⟨current, result, (answered.mono grown).decides status built, rfl, rfl, rfl, rfl, rfl⟩
    · cases proven
  · exact Learns.choice (fun _ => observe_warrants goes after about) fun _ =>
      terminalCheck_warrants goes after read about

private theorem completeRecovery_warrants (goes : Goes orchestrator event again) (about : Concerns event current)
    (answered : Answered orchestrator known current result) (status : result.status = .recovered) :
    Warrants orchestrator (orchestrator.completeRecovery again event current result) known fun report after =>
      Told orchestrator after event report := by
  refine (post_reads event fun after grown => ?_).bind fun recovered after _ ⟨read, about⟩ =>
    terminalCheck_warrants goes after read about
  refine Warrants.lifted fun base built => Warrants.lifted fun _ _ => Warrants.lifted fun recoveryId _ =>
    Warrants.lifted fun mode hmode => Warrants.lifted fun _ _ => Learns.pure ?_
  obtain ⟨actorId, addressed⟩ := base_addresses about built
  rw [required_ok] at hmode
  exact ⟨⟨actorId, current, result, (answered.mono grown).decides status built, hmode, rfl⟩, addressed⟩

private theorem pauseRun_warrants (about : Concerns event current) (answered : Answered orchestrator known current result)
    (status : result.status = .paused) :
    Warrants orchestrator (orchestrator.pauseRun current result) known fun report after =>
      Told orchestrator after event report := by
  refine (post_warrants event (Q := fun c => ∃ pause, c = .pause pause) fun after grown => ?_).bind fun paused after _ told => ?_
  · refine Warrants.lifted fun base built => Learns.pure ?_
    obtain ⟨actorId, addressed⟩ := base_addresses about built
    exact ⟨⟨actorId, current, result, (answered.mono grown).decides status built⟩, addressed, _, rfl⟩
  · obtain ⟨read, about, _, ⟨c, rfl⟩, issued⟩ := told
    exact Learns.pure ⟨read, about, c, issued⟩

/-- Where the failure of a stage comes from: the coordinator decided it, or a call failed. -/
def Blamed (orchestrator : Orchestrator) (known : Set Fact) (current : RotationRun) (failed : StageFailure) : Prop :=
  (∃ result, Answered orchestrator known current result ∧ result.status = .failed ∧ failed = .ofResult result) ∨
    failed.retryable = true ∧ failed.evidenceIds = []

private theorem failure_ok {message : String} {retryable : Bool} {evidenceIds : List Identifier} {failure : Failure}
    (h : Orchestrator.failure message retryable evidenceIds = .ok failure) :
    failure.retryable = retryable ∧ failure.evidenceIds = evidenceIds ∧ failure.message.value = strip message := by
  unfold Orchestrator.failure at h
  obtain ⟨text, built, h⟩ := (bind_ok _ _ _).mp h
  obtain rfl := (pure_ok _ _).mp h
  exact ⟨rfl, rfl, Text.build_ok.mp built⟩

private theorem Blamed.failedBy {failed : StageFailure} (h : Blamed orchestrator known current failed) {key : String}
    {base : CommandBase} {failure : Failure}
    (built : orchestrator.base current.organisationId current.id key current.revision = .ok base)
    (told : Orchestrator.failure failed.reason failed.retryable failed.evidenceIds = .ok failure) :
    FailedBy orchestrator.hashes (knowledge known) base failure := by
  obtain ⟨retryable, evidence, message⟩ := failure_ok told
  rcases h with ⟨result, answered, status, rfl⟩ | ⟨made, bare⟩
  · refine .inl ⟨current, result, answered.decides status built, retryable, evidence, ?_⟩
    obtain ⟨reason, hreason, -⟩ := result.valid.explained (by simp [status, ExecutionFields.completed])
    refine ⟨reason, hreason, message.trans ?_⟩
    rw [StageFailure.ofResult, hreason, Option.getD_some]
  · exact .inr ⟨retryable.trans made, evidence.trans bare⟩

-- failures are not to be computed while programs are unfolded
attribute [local irreducible] Orchestrator.failure

private theorem recoveryCheck_warrants (goes : Goes orchestrator event again) (about : Concerns event current)
    {failed : StageFailure} (blamed : Blamed orchestrator known current failed) :
    Warrants orchestrator (orchestrator.recoveryCheck again current failed) known fun report after =>
      Told orchestrator after event report := by
  have blamed' (after : Set Fact) (grown : known ⊆ after) : Blamed orchestrator after current failed := by
    rcases blamed with ⟨result, answered, rest⟩ | made
    · exact .inl ⟨result, answered.mono grown, rest⟩
    · exact .inr made
  unfold Orchestrator.recoveryCheck
  refine Learns.choice (fun _ => ?_) fun _ => ?_
  · refine (post_reads event fun after grown => ?_).bind fun cleaned after _ _ => ?_
    · refine Warrants.lifted fun base built => Warrants.lifted fun failure told => Learns.pure ?_
      obtain ⟨actorId, addressed⟩ := base_addresses about built
      exact ⟨⟨actorId, (blamed' after grown).failedBy built told⟩, addressed⟩
    refine (post_reads event fun after grown => ?_).bind fun recovering after _ ⟨read, about⟩ =>
      goes after recovering.run read about
    refine Learns.call trivial fun (now : AwareDatetime) _ _ _ => Warrants.lifted fun base built => Learns.pure ?_
    obtain ⟨actorId, addressed⟩ := base_addresses about built
    exact ⟨⟨actorId, trivial⟩, addressed⟩
  · refine (post_warrants event (Q := fun c => ∃ fail, c = .fail fail) fun after grown => ?_).bind fun stopped after _ told => ?_
    · refine Warrants.lifted fun base built => Warrants.lifted fun failure told => Learns.pure ?_
      obtain ⟨actorId, addressed⟩ := base_addresses about built
      exact ⟨⟨actorId, (blamed' after grown).failedBy built told⟩, addressed, _, rfl⟩
    · obtain ⟨read, about, _, ⟨c, rfl⟩, issued⟩ := told
      exact Learns.pure ⟨read, about, c, issued⟩

private theorem callCoordinator_warrants (read : .version current ∈ known) :
    Warrants orchestrator (orchestrator.callCoordinator current) known fun result after =>
      Answered orchestrator after current result := by
  refine Warrants.retrying fun after grown => Warrants.remote (Warrants.lifted fun request built => ?_)
  unfold Orchestrator.stageRequest at built
  split at built
  · cases built
    exact (execute_warrants _).weaken fun result _ later ⟨decided, organisationId, id⟩ =>
      ⟨later (grown read), decided, organisationId, id⟩
  · cases built

/-- However many stages there are, and whatever the answers. -/
theorem executeStages_warrants (limit : Nat) : Goes orchestrator event (orchestrator.executeStages event limit) := by
  induction limit with
  | zero => exact fun _ _ _ _ => Learns.raised
  | succ limit goes =>
    intro known current read about
    have answered : Warrants orchestrator (orchestrator.callCoordinator current) known fun result after =>
      Answered orchestrator after current result := callCoordinator_warrants read
    refine Warrants.attempted answered |>.bind fun outcome after grown told => ?_
    cases outcome with
    | error fault => exact recoveryCheck_warrants goes about (.inr ⟨rfl, rfl⟩)
    | ok result =>
      have answered := told result rfl
      dsimp only
      cases status : result.status with
      | paused => exact pauseRun_warrants about answered status
      | succeeded => exact completeStage_warrants goes about answered status
      | recovered => exact completeRecovery_warrants goes about answered status
      | failed => exact recoveryCheck_warrants goes about (.inl ⟨result, answered, status, rfl⟩)

/-- An execution of the workflow has a warrant for everything that it writes, and reports what it has learnt. -/
theorem rotate_warrants (limit : Nat) :
    Warrants orchestrator (orchestrator.rotate limit event) known fun report after => Told orchestrator after event report := by
  refine Learns.choice (fun _ => ?_) fun _ => Learns.pure rfl
  have reading : Warrants orchestrator (retrying (remote (rotationCall (.run event.organisationId event.runId)))) known
      fun (run : RotationRun) after => .version run ∈ after ∧ Concerns event run := by
    refine Warrants.retrying fun after _ => Warrants.remote (Learns.lastCall trivial fun (run : RotationRun) last learnt => ?_)
    exact ⟨learnt.1 ▸ Set.mem_insert .., learnt.2⟩
  refine reading.bind fun (current : RotationRun) after _ ⟨read, about⟩ => ?_
  split
  · exact (startRun_warrants current).bind fun started after _ ⟨read, about⟩ =>
      executeStages_warrants limit after started.run read about
  · exact executeStages_warrants limit after current read about
  · exact executeStages_warrants limit after current read about
  · rename_i status
    exact Learns.pure ⟨current, read, about, status, rfl, rfl⟩
  · exact Learns.pure rfl

end

end Uumi.Orchestration
