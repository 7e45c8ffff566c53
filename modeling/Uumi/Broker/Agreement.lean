import Uumi.Broker.Authorization

/-! Executors of one request, side by side. Each runs the broker's program; the attempt is the one document that they
share. -/
namespace Uumi.Broker
open Uumi.Contracts Uumi.Core Uumi.Foundations Uumi.Policy Uumi.Storage Uumi.Coordinator
open Uumi.Foundations.Program (Calls Steps Spec lift)

/-- The repository does what its transactions do, or raises and does nothing; every other call may raise or answer
anything. -/
def storing : Program.World Call Call.Answer Error Attempts := fun attempts op answer after =>
  match op, answer with
  | .attempt request requestHash, .ok previous =>
    attempts.attempt request requestHash = .ok previous ∧ after = attempts
  | .begin request requestHash reconciliation now leaseExpiresAt, .ok _ =>
    attempts.begin request requestHash reconciliation now leaseExpiresAt = .ok after
  | .reclaim request requestHash expectedExpiry now leaseExpiresAt, .ok _ =>
    attempts.reclaim request requestHash expectedExpiry now leaseExpiresAt = .ok after
  | .checkpoint request requestHash result, .ok _ => attempts.checkpoint request requestHash result = .ok after
  | .finish request requestHash result now, .ok _ => attempts.finish request requestHash result now = .ok after
  | _, _ => after = attempts

/-- The attempt ended with the result, or is bound to by its checkpoint. -/
def Settled (attempt : Option ToolAttempt) (result : ToolResult) : Prop :=
  ∃ found, attempt = some found ∧
    ((found.status = .running ∧ ∃ earlier ∈ found.checkpoint, earlier.Same result) ∨
      (found.status ≠ .running ∧ ∃ earlier ∈ found.result, earlier.Same result))

/-- A settled attempt is settled on every result with the same content. -/
theorem Settled.of_same {attempt : Option ToolAttempt} {a b : ToolResult} (h : Settled attempt a) (same : a.Same b) :
    Settled attempt b := by
  obtain ⟨found, hf, ⟨hs, e, he, hr⟩ | ⟨hs, e, he, hr⟩⟩ := h
  · exact ⟨found, hf, .inl ⟨hs, e, he, hr.trans same⟩⟩
  · exact ⟨found, hf, .inr ⟨hs, e, he, hr.trans same⟩⟩

/-- Two results that the attempt is bound to are the same. -/
theorem Settled.same {attempt : Option ToolAttempt} {a b : ToolResult} (h : Settled attempt a)
    (h' : Settled attempt b) : a.Same b := by
  obtain ⟨found, rfl, hf⟩ := h
  obtain ⟨_, heq, hf'⟩ := h'
  cases heq
  rcases hf with ⟨hs, e, he, hr⟩ | ⟨hs, e, he, hr⟩ <;> rcases hf' with ⟨hs', e', he', hr'⟩ | ⟨hs', e', he', hr'⟩
  · cases he.symm.trans he'
    exact hr.symm.trans hr'
  · exact absurd hs hs'
  · exact absurd hs' hs
  · cases he.symm.trans he'
    exact hr.symm.trans hr'

section
variable {attempts after : Attempts} {op : Call} {answer : Except Error op.Answer} {key : Identifier × Identifier}

variable (key) in
/-- A call that writes to another attempt, or raises, or is no call of the repository leaves an attempt alone. Else it
is one of four. -/
theorem storing_cases (h : storing attempts op answer after) :
    after key = attempts key ∨
    (∃ request hash reconciliation now lease, op = .begin request hash reconciliation now lease ∧ request.key = key ∧
      attempts key = none ∧ after key = some (Attempts.started request hash reconciliation now lease)) ∨
    (∃ request hash expected now lease attempt, op = .reclaim request hash expected now lease ∧ request.key = key ∧
      attempts key = some attempt ∧ attempt.status = .running ∧ attempt.checkpoint = none ∧
      after key = some { attempt with leaseExpiresAt := lease }) ∨
    (∃ request hash result attempt running, op = .checkpoint request hash result ∧ request.key = key ∧
      attempts key = some attempt ∧ (∀ earlier ∈ attempt.checkpoint, earlier.Same result) ∧
      after key = some (Attempts.checkpointed attempt result running)) ∨
    (∃ request hash result now attempt, op = .finish request hash result now ∧ request.key = key ∧
      attempts key = some attempt ∧ attempt.status = .running ∧
      after key = some (Attempts.terminated attempt result now)) := by
  have elsewhere {request : ToolRequest} {document : ToolAttempt} (hk : request.key ≠ key)
      (ha : after = attempts.set request.key document) : after key = attempts key := by
    rw [ha, Collection.set_of_ne (Ne.symm hk)]
  have here {request : ToolRequest} {document : ToolAttempt} (hk : request.key = key)
      (ha : after = attempts.set request.key document) : after key = some document := by
    rw [ha, ← hk, Collection.set_same]
  cases answer with
  | error e =>
    refine .inl ?_
    cases op <;> exact congrFun h key
  | ok a =>
    cases op with
    | begin request hash reconciliation now lease =>
      obtain ⟨hn, ha⟩ := Attempts.begin_ok h
      by_cases hk : request.key = key
      · exact .inr (.inl ⟨_, _, _, _, _, rfl, hk, hk ▸ hn, here hk ha⟩)
      · exact .inl (elsewhere hk ha)
    | reclaim request hash expected now lease =>
      obtain ⟨attempt, hn, hs, -, -, hc, ha⟩ := Attempts.reclaim_ok h
      by_cases hk : request.key = key
      · exact .inr (.inr (.inl ⟨_, _, _, _, _, attempt, rfl, hk, hk ▸ hn, hs, hc, here hk ha⟩))
      · exact .inl (elsewhere hk ha)
    | checkpoint request hash result =>
      obtain ⟨attempt, hn, ⟨running, hc, ha⟩ | ⟨-, -, rfl⟩⟩ := Attempts.checkpoint_ok h
      · by_cases hk : request.key = key
        · exact .inr (.inr (.inr (.inl ⟨_, _, _, attempt, running, rfl, hk, hk ▸ hn, hc, here hk ha⟩)))
        · exact .inl (elsewhere hk ha)
      · exact .inl rfl
    | finish request hash result now =>
      obtain ⟨attempt, hn, ⟨running, ha⟩ | ⟨-, -, rfl⟩⟩ := Attempts.finish_ok h
      · by_cases hk : request.key = key
        · exact .inr (.inr (.inr (.inr ⟨_, _, _, _, attempt, rfl, hk, hk ▸ hn, running, here hk ha⟩)))
        · exact .inl (elsewhere hk ha)
      · exact .inl rfl
    | attempt request hash => exact .inl (congrFun h.2 key)
    | _ => exact .inl (congrFun h key)

/-- A terminal attempt is not written again. -/
theorem terminal_kept (h : storing attempts op answer after) {attempt : ToolAttempt}
    (found : attempts key = some attempt) (terminal : attempt.status ≠ .running) : after key = some attempt := by
  rcases storing_cases key h with ha | ⟨_, _, _, _, _, -, -, hn, -⟩ | ⟨_, _, _, _, _, a, -, -, hf, hs, -⟩ |
    ⟨_, _, _, a, hs, -, -, hf, -⟩ | ⟨_, _, _, _, a, -, -, hf, hs, -⟩
  · rw [ha, found]
  · rw [found] at hn
    cases hn
  all_goals
    rw [found] at hf
    cases hf
    exact absurd hs terminal

/-- An attempt stays bound to a result, unless it is finished with another one. -/
theorem settled_kept (h : storing attempts op answer after) {result : ToolResult} (settled : Settled (attempts key) result)
    (finishes : ∀ request hash other now attempt, op = .finish request hash other now → attempts key = some attempt →
      attempt.status = .running → other.Same result) : Settled (after key) result := by
  rcases storing_cases key h with ha | ⟨_, _, _, _, _, -, -, hn, -⟩ | ⟨_, _, _, _, _, a, -, -, hf, hs, hc, -⟩ |
    ⟨_, _, other, a, hs, -, -, hf, hc, ha⟩ | ⟨request, hash, other, now, a, rfl, -, hf, hs, ha⟩
  · rwa [ha]
  · rw [hn] at settled
    obtain ⟨_, hx, -⟩ := settled
    cases hx
  · rw [hf] at settled
    obtain ⟨_, hx, ⟨-, e, he, -⟩ | ⟨hn, -⟩⟩ := settled
    · cases hx
      rw [hc] at he
      cases he
    · cases hx
      exact absurd hs hn
  · rw [hf] at settled
    obtain ⟨_, hx, ⟨-, e, he, hr⟩ | ⟨hn, -⟩⟩ := settled
    · cases hx
      exact ⟨_, ha, .inl ⟨hs, other, rfl, (hc e he).symm.trans hr⟩⟩
    · cases hx
      exact absurd hs hn
  · refine ⟨_, ha, .inr ⟨?_, other, rfl, finishes request hash other now a rfl hf hs⟩⟩
    rw [(Attempts.terminated a other now).terminal]
    exact ⟨rfl, rfl⟩

end

/-- What an executor has done: nothing, read the attempt, taken its lease, or stored a checkpoint. -/
inductive Phase where
  | fresh
  | read (previous : Option ToolAttempt)
  | working
  | recorded (result : ToolResult)

/-- The result that an executor knows to be the one of the attempt. -/
def Phase.Knows : Phase → ToolResult → Prop
  | .read (some previous), result => previous.checkpoint = some result
  | .recorded stored, result => stored = result
  | _, _ => False

/-- The phase after a call. -/
def Phase.next (phase : Phase) (op : Call) (answer : Except Error op.Answer) : Phase :=
  match op, answer with
  | .attempt .., .ok previous => .read previous
  | .begin .., .ok _ | .reclaim .., .ok _ => .working
  | .checkpoint _ _ result, .ok _ => .recorded result
  | _, _ => phase

def phases : Program.World Call Call.Answer Error Phase := fun phase op answer after => after = phase.next op answer

/-- The writes of an executor to the attempt of its request, by its phase. -/
def InPhase (request : ToolRequest) (phase : Phase) : Call → Prop
  | .attempt r _ => r = request ∧ phase = .fresh
  | .begin r .. => r = request ∧ ∃ previous, phase = .read previous
  | .reclaim r .. => r = request ∧ ∃ previous, phase = .read previous
  | .checkpoint r .. => r = request ∧ phase = .working
  | .finish r _ result _ => r = request ∧ (phase = .working ∨ phase.Knows result)
  | _ => True

private theorem inPhase_of_outside {request : ToolRequest} {phase : Phase} (op : Call)
    (h : Outside request True op) : InPhase request phase op := by
  cases op <;> trivial

private theorem phase_of_outside {request : ToolRequest} {phase : Phase} (op : Call) (answer : Except Error op.Answer)
    (after : Phase) (h : Outside request True op) (ha : phases phase op answer after) : after = phase := by
  cases answer <;> cases op <;> first | exact ha | exact h.elim

private theorem outside_spec {α : Type} {request : ToolRequest} {p : BrokerM α} (h : p.Calls (Outside request True))
    (phase : Phase) : Spec phases (InPhase request) p phase fun _ after => after = phase :=
  h.keeps inPhase_of_outside phase_of_outside

section
variable (broker : BrokerService) (request : ToolRequest)

private def PastReading {α : Type} (_ : Except Error α) (phase : Phase) : Prop := ∀ previous, phase ≠ .read previous

private theorem past_working {α : Type} (outcome : Except Error α) : PastReading outcome .working :=
  fun _ h => Phase.noConfusion h

private theorem past_recorded {α : Type} (outcome : Except Error α) (result : ToolResult) :
    PastReading outcome (.recorded result) :=
  fun _ h => Phase.noConfusion h

private theorem settle_phases (admission : Admission) (response : ConnectorResponse) :
    Spec phases (InPhase request) (settle broker request admission response) .working fun outcome phase =>
      (∃ result, outcome = .ok result ∧ phase = .recorded result) ∨ (∃ e, outcome = .error e) ∧ phase = .working := by
  unfold settle
  refine Spec.andThen (outside_spec (storeProviderSecret_calls broker request trivial _ _ _) _) ?_ ?_
  · rintro response _ rfl
    refine Spec.andThen (outside_spec (writeEvidence_calls request _ _) _) ?_ ?_
    · rintro evidenceIds _ rfl
      refine Spec.callThen ⟨rfl, rfl⟩ ?_ ?_
      · rintro _ _ rfl
        exact .inl ⟨_, rfl, rfl⟩
      · rintro e _ rfl
        exact .inr ⟨⟨e, rfl⟩, rfl⟩
    · rintro e _ rfl
      exact .inr ⟨⟨e, rfl⟩, rfl⟩
  · rintro e _ rfl
    exact .inr ⟨⟨e, rfl⟩, rfl⟩

private theorem finish_phases (result : ToolResult) (phase : Phase) (h : phase = .working ∨ phase.Knows result) :
    Spec phases (InPhase request) (finish broker request result) phase fun _ after => after = phase := by
  unfold finish
  refine Spec.callThen trivial ?_ ?_
  · rintro now _ rfl
    refine ⟨⟨rfl, h⟩, fun answer after ha => ?_⟩
    cases answer <;> exact ha
  · rintro e _ rfl
    rfl

private theorem mutate_phases (connector : Connector) (admission : Admission) :
    Spec phases (InPhase request) (mutate broker connector request admission) .working fun outcome phase =>
      (∃ result, outcome = .ok result ∧ phase = .recorded result) ∨ (∃ e, outcome = .error e) ∧ phase = .working := by
  unfold mutate
  refine Spec.callThen trivial ?_ ?_
  · rintro response _ rfl
    exact settle_phases broker request admission response
  · rintro e _ rfl
    exact .inr ⟨⟨e, rfl⟩, rfl⟩

private theorem failed_phases (e : Error) :
    Spec phases (InPhase request) (failed broker request e) .working fun _ phase => phase = .working := by
  unfold failed
  split
  · rfl
  · rfl
  · refine Spec.andThen (finish_phases broker request _ .working (.inl rfl)) ?_ ?_
    · rintro _ _ rfl
      rfl
    · rintro _ _ rfl
      rfl

private theorem executeTool_phases (connector : Connector) (admission : Admission) :
    Spec phases (InPhase request) (executeTool broker connector request admission) .working PastReading := by
  unfold executeTool
  have caught : Spec phases (InPhase request)
      ((mutate broker connector request admission).tryCatch (failed broker request)) .working fun outcome phase =>
      PastReading outcome phase ∧ ∀ result, outcome = .ok result → phase = .working ∨ phase.Knows result := by
    refine Spec.orElse (mutate_phases broker request connector admission) ?_ ?_
    · rintro result phase (⟨_, hr, rfl⟩ | ⟨⟨e, he⟩, -⟩)
      · cases hr
        exact ⟨past_recorded _ _, fun _ h => .inr (Except.ok.inj h)⟩
      · cases he
    · rintro e phase (⟨_, hr, -⟩ | ⟨-, rfl⟩)
      · cases hr
      · refine (failed_phases broker request e).mono ?_
        rintro outcome _ rfl
        exact ⟨past_working _, fun _ _ => .inl rfl⟩
  refine Spec.andThen caught ?_ fun e _ h => h.1
  rintro result phase ⟨past, known⟩
  refine Spec.andThen (finish_phases broker request result phase (known result rfl)) ?_ ?_
  · rintro _ _ rfl
    refine Spec.callThen trivial ?_ ?_
    · rintro _ _ rfl
      exact past
    · rintro _ _ rfl
      exact past
  · rintro _ _ rfl
    exact past

private theorem proceed_phases (admission : Admission) :
    Spec phases (InPhase request) (proceed broker request admission) (.read admission.previous) fun _ _ => True := by
  unfold proceed
  split
  · refine Spec.liftThen (fun connector _ => ?_) fun _ _ => trivial
    unfold startAttempt
    refine Spec.andThen (outside_spec (prepare_calls broker request connector _ _) _) ?_ fun _ _ _ => trivial
    rintro reconciliation _ rfl
    refine Spec.callThen ⟨rfl, _, rfl⟩ ?_ fun _ _ _ => trivial
    rintro _ _ rfl
    exact (executeTool_phases broker request connector admission).mono fun _ _ _ => trivial
  · rename_i previous hp
    split
    · exact Program.spec_lift .. |>.mpr trivial
    · refine Spec.liftThen (fun connector _ => ?_) fun _ _ => trivial
      split
      · rename_i checkpoint hc
        refine Spec.andThen (finish_phases broker request checkpoint _ (.inr ?_)) (fun _ _ _ => trivial) fun _ _ _ => trivial
        rw [hp]
        exact hc
      · unfold resumeAttempt
        refine Spec.liftThen (fun _ _ => ?_) fun _ _ => trivial
        refine Spec.callThen ⟨rfl, _, rfl⟩ ?_ fun _ _ _ => trivial
        rintro _ _ rfl
        refine Spec.andThen (outside_spec (reconcile_calls broker request connector _ _ _) _) ?_ fun _ _ _ => trivial
        rintro reconciled _ rfl
        cases reconciled with
        | none => exact (executeTool_phases broker request connector admission).mono fun _ _ _ => trivial
        | some response =>
          refine Spec.andThen (settle_phases broker request admission response) ?_ fun _ _ _ => trivial
          rintro result phase (⟨_, hr, rfl⟩ | ⟨⟨e, he⟩, -⟩)
          · cases hr
            exact Spec.andThen (finish_phases broker request result _ (.inr rfl)) (fun _ _ _ => trivial) fun _ _ _ => trivial
          · cases he

private theorem execute_phases (token : Option String) :
    Spec phases (InPhase request) (execute broker request token) .fresh fun _ _ => True := by
  unfold execute
  have read : Spec phases (InPhase request) (admission broker request token) .fresh fun outcome phase =>
      ∀ admission, outcome = .ok admission → phase = .read admission.previous := by
    unfold admission
    refine Spec.callThen ⟨rfl, rfl⟩ ?_ fun _ _ _ _ => nofun
    rintro previous _ rfl
    have calls : (admitted broker request token previous).Calls (Outside request True) :=
      (admitted_calls broker request previous token).mono outside_of_reads
    refine ((admitted_previous broker request previous token).spec (outside_spec calls _)).mono ?_
    rintro outcome _ ⟨rfl, hprevious⟩ admission h
    rw [hprevious admission h]
    rfl
  refine Spec.andThen read (fun admission phase h => ?_) fun _ _ _ => trivial
  rw [h admission rfl]
  exact proceed_phases broker request admission

end

section
variable {ι : Type}

abbrev ToolEvent (ι : Type) := Pool.Event ι Call Call.Answer Error

/-- The event begins or reclaims the attempt. -/
def takesLease (event : ToolEvent ι) : Bool :=
  match event.op, event.answer with
  | .begin .., .ok _ | .reclaim .., .ok _ => true
  | _, _ => false

/-- Who took the lease last. -/
def holder (events : List (ToolEvent ι)) : Option ι := ((events.filter takesLease).getLast?).map (·.who)

/-- The executor took the lease at some time. -/
def Took (events : List (ToolEvent ι)) (who : ι) : Prop := ∃ event ∈ events, takesLease event = true ∧ event.who = who

/-- An executor that took the lease writes no checkpoint and no result after another one took it. -/
def HolderWrites (events : List (ToolEvent ι)) (who : ι) (op : Call) : Prop :=
  match op with
  | .checkpoint .. | .finish .. => Took events who → holder events = some who
  | _ => True

private theorem holder_append (events : List (ToolEvent ι)) (event : ToolEvent ι) :
    holder (events ++ [event]) = if takesLease event then some event.who else holder events := by
  unfold holder
  rw [List.filter_append, List.filter_singleton]
  cases takesLease event <;> simp

private theorem Took.append {events : List (ToolEvent ι)} {who : ι} (h : Took events who) (event : ToolEvent ι) :
    Took (events ++ [event]) who := by
  obtain ⟨e, he, h⟩ := h
  exact ⟨e, List.mem_append_left _ he, h⟩

/-- Who works has taken the lease; what the holder works on has no checkpoint; what an executor knows, the attempt is
bound to. -/
structure Coherent (key : Identifier × Identifier) (events : List (ToolEvent ι)) (attempts : Attempts)
    (phase : ι → Phase) : Prop where
  took : ∀ i, (phase i = .working ∨ ∃ result, phase i = .recorded result) → Took events i
  alone : ∀ i, holder events = some i → phase i = .working →
    ∀ attempt, attempts key = some attempt → attempt.checkpoint = none
  known : ∀ i result, (phase i).Knows result → Settled (attempts key) result

variable {requests : ι → ToolRequest} {key : Identifier × Identifier}
  {events : List (ToolEvent ι)} {attempts after : Attempts} {phase : ι → Phase} {who : ι} {op : Call}
  {answer : Except Error op.Answer}

private theorem Coherent.finishes (h : Coherent key events attempts phase) (inPhase : InPhase (requests who) (phase who) op)
    (admitted : HolderWrites events who op) {result : ToolResult} (settled : Settled (attempts key) result) :
    ∀ request hash other now attempt, op = .finish request hash other now → attempts key = some attempt →
      attempt.status = .running → other.Same result := by
  rintro request hash other now attempt rfl found running
  obtain ⟨-, hworking | hknows⟩ := inPhase
  · have hnone := h.alone who (admitted (h.took who (.inl hworking))) hworking attempt found
    rw [found] at settled
    obtain ⟨_, hx, ⟨-, e, he, -⟩ | ⟨hn, -⟩⟩ := settled
    · cases hx
      rw [hnone] at he
      cases he
    · cases hx
      exact absurd running hn
  · exact (h.known who other hknows).same settled

private theorem storing_raised {e : Error} (h : storing attempts op (.error e) after) : after = attempts := by
  cases op <;> exact h

private theorem next_raised {phase : Phase} {e : Error} : phase.next op (.error e) = phase := by
  cases op <;> rfl

private theorem lease_alone (answered : storing attempts op answer after)
    (taken : takesLease (⟨who, op, answer⟩ : ToolEvent ι) = true) (inPhase : InPhase (requests who) (phase who) op)
    (same : ∀ i, (requests i).key = key) {attempt : ToolAttempt} (found : after key = some attempt) :
    attempt.checkpoint = none := by
  cases answer with
  | error e => cases op <;> cases taken
  | ok a =>
    cases op with
    | begin request hash reconciliation now lease =>
      obtain ⟨rfl, -⟩ := inPhase
      rw [(Attempts.begin_ok answered).2, same who, Collection.set_same] at found
      cases found
      rfl
    | reclaim request hash expected now lease =>
      obtain ⟨rfl, -⟩ := inPhase
      obtain ⟨previous, -, -, -, -, hc, ha⟩ := Attempts.reclaim_ok answered
      rw [ha, same who, Collection.set_same] at found
      cases found
      exact hc
    | _ => cases taken

private theorem learns (answered : storing attempts op answer after) (inPhase : InPhase (requests who) (phase who) op)
    (same : ∀ i, (requests i).key = key) {result : ToolResult} (knows : ((phase who).next op answer).Knows result) :
    (phase who).Knows result ∨ Settled (after key) result := by
  cases answer with
  | error e =>
    rw [next_raised] at knows
    exact .inl knows
  | ok a =>
    cases op with
    | attempt request hash =>
      obtain ⟨rfl, -⟩ := inPhase
      obtain ⟨hread, rfl⟩ := answered
      have hread := Attempts.attempt_ok hread
      rw [same who] at hread
      cases a with
      | none => exact knows.elim
      | some previous =>
        exact .inr ⟨previous, hread, .inl ⟨previous.running_of_checkpoint knows, result, knows, .refl _⟩⟩
    | begin => exact knows.elim
    | reclaim => exact knows.elim
    | checkpoint request hash recorded =>
      obtain ⟨rfl, -⟩ := inPhase
      obtain rfl : recorded = result := knows
      obtain ⟨attempt, hread, ⟨running, -, ha⟩ | ⟨hs, hsame, rfl⟩⟩ := Attempts.checkpoint_ok answered
      · rw [same who] at ha
        exact .inr ⟨Attempts.checkpointed attempt recorded running, by rw [ha, Collection.set_same],
          .inl ⟨running, recorded, rfl, .refl _⟩⟩
      · rw [same who] at hread
        exact .inr ⟨attempt, hread, .inr ⟨hs, hsame⟩⟩
    | _ => exact .inl knows

private theorem Coherent.step [DecidableEq ι] (h : Coherent key events attempts phase) (same : ∀ i, (requests i).key = key)
    (inPhase : InPhase (requests who) (phase who) op) (admitted : HolderWrites events who op)
    (answered : storing attempts op answer after) :
    Coherent key (events ++ [⟨who, op, answer⟩]) after (Function.update phase who ((phase who).next op answer)) where
  took i hi := by
    by_cases he : i = who
    · subst he
      rw [Function.update_self] at hi
      cases answer with
      | error e =>
        rw [next_raised] at hi
        exact (h.took i hi).append _
      | ok a =>
        cases op with
        | attempt => rcases hi with hi | ⟨_, hi⟩ <;> cases hi
        | begin => exact ⟨_, List.mem_append_right _ List.mem_cons_self, rfl, rfl⟩
        | reclaim => exact ⟨_, List.mem_append_right _ List.mem_cons_self, rfl, rfl⟩
        | checkpoint => exact (h.took i (.inl inPhase.2)).append _
        | _ => exact (h.took i hi).append _
    · rw [Function.update_of_ne he] at hi
      exact (h.took i hi).append _
  alone i hi hw attempt found := by
    rw [holder_append] at hi
    split at hi
    · rename_i taken
      exact lease_alone answered taken inPhase same found
    · rename_i taken
      have hphase : phase i = .working ∧
          ∀ request hash result, op = .checkpoint request hash result → i ≠ who ∨ after = attempts := by
        by_cases he : i = who
        · subst he
          rw [Function.update_self] at hw
          cases answer with
          | error e =>
            rw [next_raised] at hw
            exact ⟨hw, fun _ _ _ _ => .inr (storing_raised answered)⟩
          | ok a => cases op <;> first | exact ⟨hw, nofun⟩ | exact absurd rfl taken | cases hw
        · rw [Function.update_of_ne he] at hw
          exact ⟨hw, fun _ _ _ _ => .inl he⟩
      rcases storing_cases key answered with ha | ⟨_, _, _, _, _, -, -, -, ha⟩ |
        ⟨_, _, _, _, _, a, -, -, -, -, hc, ha⟩ | ⟨request, hash, result, a, hs, rfl, -, hf, -, ha⟩ |
        ⟨_, _, _, _, a, -, -, -, -, ha⟩
      · exact h.alone i hi hphase.1 attempt (ha ▸ found)
      · rw [ha] at found
        cases found
        rfl
      · rw [ha] at found
        cases found
        exact hc
      · -- Nobody but the holder stores a checkpoint, and the holder does not work on.
        rcases hphase.2 request hash result rfl with hne | rfl
        · have hholds := admitted (h.took who (.inl inPhase.2))
          rw [hi] at hholds
          exact absurd (Option.some.inj hholds) hne
        · exact h.alone i hi hphase.1 attempt found
      · rw [ha] at found
        cases found
        rfl
  known i result hi := by
    have kept (hk : (phase i).Knows result) : Settled (after key) result :=
      settled_kept answered (h.known i result hk) (h.finishes inPhase admitted (h.known i result hk))
    by_cases he : i = who
    · subst he
      rw [Function.update_self] at hi
      rcases learns answered inPhase same hi with hk | hs
      · exact kept hk
      · exact hs
    · rw [Function.update_of_ne he] at hi
      exact kept hi

end

def executors {ι : Type} (broker : BrokerService) (requests : ι → ToolRequest) (tokens : ι → Option String)
    (attempts : Attempts) : Pool ι Call Call.Answer Error ToolResult Attempts where
  state := attempts
  programs i := execute broker (requests i) (tokens i)

/-- What holds of the attempt under a key between an earlier and a later moment of a run. -/
structure Agreement {ι : Type} [DecidableEq ι] (broker : BrokerService) (requests : ι → ToolRequest)
    (tokens : ι → Option String) (key : Identifier × Identifier) (before : List (ToolEvent ι))
    (earlier : Pool ι Call Call.Answer Error ToolResult Attempts) (events : List (ToolEvent ι))
    (later : Pool ι Call Call.Answer Error ToolResult Attempts) : Prop where
  /-- A terminal attempt never changes. -/
  one_result : ∀ attempt, earlier.state key = some attempt → attempt.status ≠ .running → later.state key = some attempt
  /-- The lease is taken over only after it expired, and without a checkpoint. -/
  reclaims : ∀ request hash expected now lease after, request.key = key →
    storing later.state (.reclaim request hash expected now lease) (.ok ()) after →
    ∃ attempt, later.state key = some attempt ∧ attempt.status = .running ∧ attempt.leaseExpiresAt ≤ now ∧
      attempt.checkpoint = none
  /-- The attempt ends with its checkpoint only. -/
  checkpoint_final : ∀ attempt result, earlier.state key = some attempt → attempt.checkpoint = some result →
    Settled (later.state key) result
  /-- Who starts after the end calls no connector, and returns the result of the attempt if it is admitted. -/
  replays : ∀ attempt result, earlier.state key = some attempt → attempt.status ≠ .running →
    attempt.result = some result → ∀ who, Pool.own who before = [] →
      (∀ call ∈ Pool.own who events, ¬ call.1.IsConnector) ∧
      ∀ outcome, later.programs who = .finish outcome → outcome = .ok result ∨ ∃ e, outcome = .error e ∧
        Steps Pool.recording [] (admission broker (requests who) (tokens who)) (Pool.own who events) (.finish (.error e))

section
variable {ι : Type} [DecidableEq ι] {broker : BrokerService} {requests : ι → ToolRequest}
  {tokens : ι → Option String} {key : Identifier × Identifier} {attempts : Attempts}
  {before events : List (ToolEvent ι)} {earlier later : Pool ι Call Call.Answer Error ToolResult Attempts}
  {admits : List (ToolEvent ι) → ι → Call → Prop}

private theorem run_terminal (rest : Pool.Run storing admits before earlier events later) {attempt : ToolAttempt}
    (found : earlier.state key = some attempt) (terminal : attempt.status ≠ .running) :
    later.state key = some attempt := by
  refine Pool.Run.keeps (fun s => s key = some attempt) found (fun s op answer t hs answered => ?_) rest
  exact terminal_kept answered hs terminal

private theorem run_coherent (same : ∀ i, (requests i).key = key)
    (run : Pool.Run storing HolderWrites [] (executors broker requests tokens attempts) events later) :
    ∃ phase, Coherent key events later.state phase ∧
      ∀ i, (later.programs i).Spec phases (InPhase (requests i)) (phase i) fun _ _ => True := by
  refine run.invariant (Coherent key) (fun _ => .fresh) ?_ ?_ ?_
  · refine ⟨fun i h => ?_, fun i h => ?_, fun i result h => h.elim⟩
    · rcases h with h | ⟨_, h⟩ <;> cases h
    · cases h
  · exact fun i => execute_phases broker (requests i) (tokens i)
  · intro events s g who op answer t h inPhase admitted answered
    exact ⟨_, rfl, h.step same inPhase admitted answered⟩

private theorem run_settled (same : ∀ i, (requests i).key = key)
    (run : Pool.Run storing HolderWrites [] (executors broker requests tokens attempts) before earlier)
    (rest : Pool.Run storing HolderWrites before earlier events later) {result : ToolResult}
    (settled : Settled (earlier.state key) result) : Settled (later.state key) result := by
  obtain ⟨phase, hcoherent, hspecs⟩ := run_coherent same run
  have hrun := rest.invariant (fun events s phase => Coherent key events s phase ∧ Settled (s key) result) phase
    ⟨hcoherent, settled⟩ hspecs fun events s g who op answer t h inPhase admitted answered =>
      ⟨_, rfl, h.1.step same inPhase admitted answered,
        settled_kept answered h.2 (h.1.finishes inPhase admitted h.2)⟩
  obtain ⟨_, ⟨-, h⟩, -⟩ := hrun
  exact h

private theorem first_read (rest : Pool.Run storing admits before earlier events later) {attempt : ToolAttempt}
    (found : earlier.state key = some attempt) (terminal : attempt.status ≠ .running) {who : ι}
    (unstarted : Pool.own who before = []) {request : ToolRequest} {hash : Digest} {previous : Option ToolAttempt}
    {calls : List ((op : Call) × Except Error op.Answer)} (hkey : request.key = key)
    (read : Pool.own who events = ⟨.attempt request hash, .ok previous⟩ :: calls) : previous = some attempt := by
  induction rest generalizing calls with
  | nil =>
    rw [unstarted] at read
    cases read
  | @step events pool i op next answer t run turn admitted answered ih =>
    by_cases hi : i = who
    · subst hi
      have hown : Pool.own i (events ++ [⟨i, op, answer⟩]) = Pool.own i events ++ [⟨op, answer⟩] := by
        simp [Pool.own]
      rw [hown] at read
      cases hb : Pool.own i events with
      | nil =>
        rw [hb] at read
        cases read
        have hread := Attempts.attempt_ok answered.1
        rw [hkey, run_terminal run found terminal] at hread
        exact hread.symm
      | cons first others =>
        rw [hb] at read
        obtain ⟨rfl, -⟩ := List.cons.inj read
        exact ih hb
    · have hown : Pool.own who (events ++ [⟨i, op, answer⟩]) = Pool.own who events := by
        simp [Pool.own, hi]
      rw [hown] at read
      exact ih read

private theorem reads_no_connector {op : Call} (h : Reads op) : ¬ op.IsConnector := by
  cases op <;> first | exact h.elim | exact id

private theorem replayed {request : ToolRequest} {token : Option String}
    {calls : List ((op : Call) × Except Error op.Answer)} {left : BrokerM ToolResult} {result : ToolResult}
    (steps : Steps Pool.recording [] (execute broker request token) calls left)
    (known : ∀ hash previous rest, calls = ⟨.attempt request hash, .ok previous⟩ :: rest →
      ∃ attempt, previous = some attempt ∧ attempt.status ≠ .running ∧ attempt.result = some result) :
    (∀ call ∈ calls, ¬ call.1.IsConnector) ∧
      ∀ outcome, left = .finish outcome → outcome = .ok result ∨ ∃ e, outcome = .error e ∧
        Steps Pool.recording [] (admission broker request token) calls (.finish (.error e)) := by
  cases steps with
  | refl =>
    refine ⟨fun call hc => (List.not_mem_nil hc).elim, fun outcome ho => ?_⟩
    have hcall : execute broker request token = .call (.attempt request (broker.requestHash request)) fun answer =>
        (Program.finish answer >>= admitted broker request token) >>= proceed broker request := rfl
    rw [hcall] at ho
    cases ho
  | @call _ first _ _ answer _ _ answered rest =>
    have hfirst : first = [⟨.attempt request (broker.requestHash request), answer⟩] := answered
    subst hfirst
    cases answer with
    | error e =>
      cases rest
      refine ⟨fun call hc => ?_, fun outcome ho => .inr ⟨e, ?_, .call rfl (.refl ..)⟩⟩
      · rw [List.mem_singleton.mp hc]
        exact id
      · cases ho
        rfl
    | ok previous =>
      obtain ⟨others, hothers⟩ := Pool.recorded_prefix rest
      obtain ⟨attempt, rfl, hterminal, hresult⟩ := known _ previous others hothers.symm
      -- Only reads follow, up to the end of the admission.
      have reading {p : BrokerM Admission} {after : List ((op : Call) × Except Error op.Answer)}
          (h : Steps Pool.recording [⟨.attempt request (broker.requestHash request), .ok (some attempt)⟩]
            (admitted broker request token (some attempt)) after p) : ∀ call ∈ after, ¬ call.1.IsConnector := by
        intro call hc
        rcases Pool.recorded_calls (admitted_calls broker request (some attempt) token) h call hc with hc | hc
        · rw [List.mem_singleton.mp hc]
          exact id
        · exact reads_no_connector hc
      have ending {admission : Admission} (h : admission.previous = some attempt) :
          proceed broker request admission = .finish (.ok result) := by
        unfold proceed
        rw [h]
        simp only [hresult, required]
        exact if_pos hterminal
      rcases Steps.of_bind rest with ⟨r, hr, rfl⟩ | ⟨u, admission, hu, hrest⟩
      · refine ⟨reading hr, fun outcome ho => ?_⟩
        cases r with
        | call op next => cases ho
        | finish reached =>
          cases reached with
          | error e =>
            cases ho
            exact .inr ⟨e, rfl, .call rfl hr⟩
          | ok admission =>
            have hprevious := (admitted_previous broker request (some attempt) token).ends hr
            rw [Program.ok_then, ending hprevious] at ho
            cases ho
            exact .inl rfl
      · have hprevious := (admitted_previous broker request (some attempt) token).ends hu
        rw [ending hprevious] at hrest
        cases hrest
        refine ⟨reading hu, fun outcome ho => ?_⟩
        cases ho
        exact .inl rfl

/-- In every run in which no executor writes to an attempt that another one has taken, the executors of a request
agree. -/
theorem attempts_agree (broker : BrokerService) (requests : ι → ToolRequest) (tokens : ι → Option String)
    (key : Identifier × Identifier) (attempts : Attempts) (same : ∀ i, (requests i).key = key)
    (run : Pool.Run storing HolderWrites [] (executors broker requests tokens attempts) before earlier)
    (rest : Pool.Run storing HolderWrites before earlier events later) :
    Agreement broker requests tokens key before earlier events later where
  one_result _ found terminal := run_terminal rest found terminal
  reclaims request hash expected now lease after hkey answered := by
    obtain ⟨attempt, found, running, -, expired, unbound, -⟩ := Attempts.reclaim_ok answered
    exact ⟨attempt, hkey ▸ found, running, expired, unbound⟩
  checkpoint_final attempt result found stored := by
    refine run_settled same run rest ⟨attempt, found, .inl ⟨?_, result, stored, .refl _⟩⟩
    exact attempt.running_of_checkpoint stored
  replays attempt result found terminal hresult who unstarted := by
    refine replayed ((run.trans rest).own_steps who) fun hash previous others hcalls => ?_
    exact ⟨attempt, first_read rest found terminal unstarted (same who) hcalls, terminal, hresult⟩

end

def sampleHeld : RotationRun where
  toRunFields :=
    { (sampleDeployed .revoke 9).toRunFields with
      lease := some { ownerId := workerOne, fencingToken := 1, expiresAt := ⟨600000000, 0⟩, token_pos := Nat.one_pos } }
  accepted := rfl

def sampleAdmitted (previous : Option ToolAttempt) (now : AwareDatetime) : Admission where
  previous := previous
  run := sampleHeld
  connection := sampleProviderTools
  credential := sampleCredential
  now := now

def sampleTimes (late : Bool) : AwareDatetime := if late then ⟨130000000, 0⟩ else ⟨10, 0⟩

def sampleBegun : ToolAttempt :=
  Attempts.started sampleRevocation (sampleBroker.requestHash sampleRevocation) [] (sampleTimes false)
    (sampleBroker.leaseEnd (sampleTimes false))

def sampleResult : ToolResult where
  requestId := sampleRevocation.id
  succeeded := true
  result := [("status", .str "revoked")]

def sampleAttempts (attempt : ToolAttempt) : Attempts := Collection.empty.set sampleRevocation.key attempt

def sampleReclaimed : ToolAttempt := { sampleBegun with leaseExpiresAt := sampleBroker.leaseEnd (sampleTimes true) }

private theorem sampleHeld_valid (late : Bool) : validateRequest Hashes.sample.lower sampleRevocation sampleHeld
    sampleProviderTools sampleCredential [] sampleToolControls (sampleTimes late) = .ok () := by
  cases late <;> rfl

private theorem sampleHeld_admitted {attempts : Attempts} {previous : Option ToolAttempt}
    (read : attempts.attempt sampleRevocation (sampleBroker.requestHash sampleRevocation) = .ok previous) (late : Bool) :
    Steps storing attempts (admission sampleBroker sampleRevocation (some "token")) attempts
      (.finish (.ok (sampleAdmitted previous (sampleTimes late)))) := by
  unfold admission
  refine Steps.callThen previous attempts ⟨read, rfl⟩ ?_
  unfold admitted
  refine Steps.callThen sampleHeld attempts rfl ?_
  refine Steps.callThen sampleProviderTools attempts rfl ?_
  refine Steps.callThen sampleCredential attempts rfl ?_
  refine Steps.callThen [] attempts rfl ?_
  refine Steps.callThen sampleToolControls attempts rfl ?_
  refine Steps.callThen (sampleTimes late) attempts rfl ?_
  refine Steps.liftThen (sampleHeld_valid late) ?_
  rw [if_pos (by decide)]
  refine Steps.andThen (a := ()) ?_ (.refl ..)
  unfold authorizeMutation
  refine Steps.liftThen (rfl : _ = Except.ok "token") ?_
  refine Steps.callThen (sampleTimes late) attempts rfl ?_
  refine Steps.liftThen (a := sampleClaims) ?_ ?_
  · cases late <;> rfl
  · refine Steps.liftThen (rfl : _ = Except.ok ()) ?_
    exact .refl ..

def sampleCheckpointed : ToolAttempt := Attempts.checkpointed sampleReclaimed sampleResult rfl

private def sampleAudited (result : ToolResult) (_ : Unit) : BrokerM ToolResult := do
  call (.audit sampleRevocation (sampleBroker.requestHash sampleRevocation) result)
  return result

def sampleFailure : ToolResult := failure sampleRevocation "provider-rejected" false

def sampleFailed : ToolAttempt := Attempts.terminated sampleCheckpointed sampleFailure (sampleTimes true)

private theorem sampleAttempts_set (attempt other : ToolAttempt) :
    (sampleAttempts attempt).set sampleRevocation.key other = sampleAttempts other :=
  Collection.set_set ..

private theorem sampleAttempts_stored (attempt : ToolAttempt) :
    sampleAttempts attempt sampleRevocation.key = some attempt :=
  Collection.set_same ..

private theorem sampleAttempts_read (attempt : ToolAttempt) (same : sameAttempt attempt sampleRevocation
      (sampleBroker.requestHash sampleRevocation) = .ok ()) :
    (sampleAttempts attempt).attempt sampleRevocation (sampleBroker.requestHash sampleRevocation) = .ok (some attempt) := by
  unfold Attempts.attempt sampleAttempts
  rw [Collection.set_same]
  simp only [same]
  rfl

private theorem first_begins : Steps storing Collection.empty
    (execute sampleBroker sampleRevocation (some "token")) (sampleAttempts sampleBegun)
      (executeTool sampleBroker httpProviderConnector sampleRevocation (sampleAdmitted none (sampleTimes false))) := by
  unfold execute
  refine Steps.andThen (sampleHeld_admitted rfl false) ?_
  unfold proceed
  refine Steps.liftThen (rfl : _ = Except.ok httpProviderConnector) ?_
  refine Steps.andThen (a := []) (t := Collection.empty) ?_ ?_
  · exact Steps.callThen [] _ rfl (.refl ..)
  · refine Steps.callThen () (sampleAttempts sampleBegun) rfl ?_
    exact .refl ..

private theorem second_records : Steps storing (sampleAttempts sampleBegun)
    (execute sampleBroker sampleRevocation (some "token")) (sampleAttempts sampleCheckpointed)
      (finish sampleBroker sampleRevocation sampleResult >>= sampleAudited sampleResult) := by
  unfold execute
  refine Steps.andThen (sampleHeld_admitted (sampleAttempts_read sampleBegun rfl) true) ?_
  unfold proceed
  refine Steps.liftThen (rfl : _ = Except.ok httpProviderConnector) ?_
  unfold resumeAttempt
  refine Steps.liftThen (rfl : _ = Except.ok ()) ?_
  refine Steps.callThen () (sampleAttempts sampleReclaimed) ?_ ?_
  · rw [← sampleAttempts_set sampleBegun sampleReclaimed]
    rfl
  · refine Steps.andThen (a := none) (t := sampleAttempts sampleReclaimed) ?_ ?_
    · unfold reconcile
      refine Steps.liftThen (rfl : _ = Except.ok ()) ?_
      exact Steps.callThen none _ rfl (.refl ..)
    · show Steps storing _ (executeTool sampleBroker httpProviderConnector sampleRevocation _) _ _
      unfold executeTool
      refine Steps.andThen (a := sampleResult) (t := sampleAttempts sampleCheckpointed) ?_ (.refl ..)
      refine Steps.tryCatch (q := .finish (.ok sampleResult)) ?_ _
      unfold mutate
      refine Steps.callThen { result := sampleResult.result } _ rfl ?_
      unfold settle
      refine Steps.andThen (a := { result := sampleResult.result }) (.refl ..) ?_
      refine Steps.andThen (a := []) (.refl ..) ?_
      refine Steps.callThen () (sampleAttempts sampleCheckpointed) ?_ (.refl ..)
      rw [← sampleAttempts_set sampleReclaimed sampleCheckpointed]
      rfl

private theorem first_fails : Steps storing (sampleAttempts sampleCheckpointed)
    (executeTool sampleBroker httpProviderConnector sampleRevocation (sampleAdmitted none (sampleTimes false)))
    (sampleAttempts sampleFailed) (sampleAudited sampleFailure ()) := by
  unfold executeTool
  refine Steps.andThen (a := sampleFailure) (t := sampleAttempts sampleCheckpointed) ?_ ?_
  · have raised : storing (sampleAttempts sampleCheckpointed) (.execute httpProviderConnector sampleRevocation.tool.value
        sampleRevocation.payload ((sampleAdmitted none (sampleTimes false)).context sampleRevocation))
        (.error (.connector "provider-rejected" "credential is unknown" false)) (sampleAttempts sampleCheckpointed) := rfl
    exact .call raised (.refl ..)
  · refine Steps.andThen (a := ()) (t := sampleAttempts sampleFailed) ?_ (.refl ..)
    unfold finish
    refine Steps.callThen (sampleTimes true) _ rfl ?_
    have ended : storing (sampleAttempts sampleCheckpointed) (.finish sampleRevocation
        (sampleBroker.requestHash sampleRevocation) sampleFailure (sampleTimes true)) (.ok ()) (sampleAttempts sampleFailed) := by
      rw [← sampleAttempts_set sampleCheckpointed sampleFailed]
      rfl
    exact .call ended (.refl ..)

private theorem first_ends : ∃ (before events : List (ToolEvent Bool))
    (earlier later : Pool Bool Call Call.Answer Error ToolResult Attempts),
    Pool.Run storing (fun _ _ _ => True) []
      (executors sampleBroker (fun _ => sampleRevocation) (fun _ => some "token") Collection.empty) before earlier ∧
    Pool.Run storing (fun _ _ _ => True) before earlier events later ∧
    earlier.state = sampleAttempts sampleCheckpointed ∧ later.state = sampleAttempts sampleFailed := by
  obtain ⟨begun, run⟩ := Pool.Run.ofSteps first_begins false
    (fun _ => execute sampleBroker sampleRevocation (some "token")) rfl []
  obtain ⟨before, run'⟩ := Pool.Run.ofSteps second_records true
    (Function.update (fun _ => execute sampleBroker sampleRevocation (some "token")) false _) rfl begun
  obtain ⟨events, rest⟩ := Pool.Run.ofSteps first_fails false
    (Function.update (Function.update (fun _ => execute sampleBroker sampleRevocation (some "token")) false _) true _)
    rfl before
  exact ⟨before, events, _, _, run.trans run', rest, rfl, rfl⟩

/-- Where a slower executor may still write, a checkpoint is not final. -/
theorem attempts_disagree : ¬ ∀ (broker : BrokerService) (requests : Bool → ToolRequest) (tokens : Bool → Option String)
    (key : Identifier × Identifier) (attempts : Attempts) (before events : List (ToolEvent Bool))
    (earlier later : Pool Bool Call Call.Answer Error ToolResult Attempts), (∀ i, (requests i).key = key) →
    Pool.Run storing (fun _ _ _ => True) [] (executors broker requests tokens attempts) before earlier →
    Pool.Run storing (fun _ _ _ => True) before earlier events later →
    Agreement broker requests tokens key before earlier events later := by
  intro h
  obtain ⟨before, events, earlier, later, run, rest, hearlier, hlater⟩ := first_ends
  have agreement := h _ _ _ sampleRevocation.key _ _ _ _ _ (fun _ => rfl) run rest
  have settled := agreement.checkpoint_final sampleCheckpointed sampleResult
    (by rw [hearlier, sampleAttempts_stored]) rfl
  rw [hlater, sampleAttempts_stored] at settled
  obtain ⟨found, hfound, ⟨running, -⟩ | ⟨-, result, hresult, same⟩⟩ := settled
  · cases hfound
    cases running
  · cases hfound
    cases hresult
    exact absurd same.succeeded nofun

def sampleSucceeded : ToolAttempt := Attempts.terminated sampleCheckpointed sampleResult (sampleTimes true)

private theorem second_ends : Steps storing (sampleAttempts sampleCheckpointed)
    (finish sampleBroker sampleRevocation sampleResult >>= sampleAudited sampleResult) (sampleAttempts sampleSucceeded)
      (.finish (.ok sampleResult)) := by
  refine Steps.andThen (a := ()) (t := sampleAttempts sampleSucceeded) ?_ ?_
  · unfold finish
    refine Steps.callThen (sampleTimes true) _ rfl ?_
    have ended : storing (sampleAttempts sampleCheckpointed) (.finish sampleRevocation
        (sampleBroker.requestHash sampleRevocation) sampleResult (sampleTimes true)) (.ok ())
        (sampleAttempts sampleSucceeded) := by
      rw [← sampleAttempts_set sampleCheckpointed sampleSucceeded]
      rfl
    exact .call ended (.refl ..)
  · exact Steps.callThen () _ rfl (.refl ..)

private theorem third_replays : Steps storing (sampleAttempts sampleSucceeded)
    (execute sampleBroker sampleRevocation (some "token")) (sampleAttempts sampleSucceeded)
      (.finish (.ok sampleResult)) := by
  unfold execute
  refine Steps.andThen (sampleHeld_admitted (sampleAttempts_read sampleSucceeded rfl) true) ?_
  unfold proceed
  exact .refl ..

/-- The executor has not taken the lease, or nobody has taken it since; and only these executors have called. -/
private def Holding (who : Fin 3) (callers : Finset (Fin 3)) (events : List (ToolEvent (Fin 3))) : Prop :=
  (Took events who → holder events = some who) ∧ ∀ event ∈ events, event.who ∈ callers

private theorem Holding.append {who : Fin 3} {callers : Finset (Fin 3)} {events : List (ToolEvent (Fin 3))}
    (h : Holding who callers events) (hwho : who ∈ callers) (op : Call) (answer : Except Error op.Answer) :
    Holding who callers (events ++ [⟨who, op, answer⟩]) := by
  constructor
  · rintro ⟨event, hmem, taken, hcaller⟩
    rw [holder_append]
    split
    · rfl
    · rename_i untaken
      rcases List.mem_append.mp hmem with hmem | hmem
      · exact h.1 ⟨event, hmem, taken, hcaller⟩
      · rw [List.mem_singleton.mp hmem] at taken
        exact absurd taken untaken
  · intro event hmem
    rcases List.mem_append.mp hmem with hmem | hmem
    · exact h.2 event hmem
    · rw [List.mem_singleton.mp hmem]
      exact hwho

private theorem Holding.admits {who : Fin 3} {callers : Finset (Fin 3)} {events : List (ToolEvent (Fin 3))}
    (h : Holding who callers events) (op : Call) : HolderWrites events who op := by
  cases op <;> first | exact h.1 | trivial

private theorem Holding.run {who : Fin 3} {callers : Finset (Fin 3)} {before : List (ToolEvent (Fin 3))}
    {attempts after : Attempts} {p q : BrokerM ToolResult} (h : Steps storing attempts p after q)
    (programs : Fin 3 → BrokerM ToolResult) (turn : programs who = p) (hwho : who ∈ callers)
    (holds : Holding who callers before) : ∃ events, Holding who callers events ∧
      Pool.Run storing HolderWrites before ⟨attempts, programs⟩ events ⟨after, Function.update programs who q⟩ :=
  Pool.Run.alone h who (Holding who callers) (fun _ _ _ holds => holds.append hwho _ _) (fun _ _ holds => holds.admits _)
    programs turn before holds

private theorem Holding.next {who other : Fin 3} {callers : Finset (Fin 3)} {events : List (ToolEvent (Fin 3))}
    (h : Holding who callers events) (hother : other ∉ callers) : Holding other (insert other callers) events := by
  refine ⟨?_, fun event hmem => Finset.mem_insert_of_mem (h.2 event hmem)⟩
  rintro ⟨event, hmem, -, rfl⟩
  exact absurd (h.2 event hmem) hother

/-- One executor begins the attempt and hangs, the next one takes it over when the lease has expired, stores its
checkpoint and ends the attempt, and the last one replays it. -/
theorem sampleRevocation_agrees : ∃ (begun recorded ended events : List (ToolEvent (Fin 3)))
    (started reclaimed finished replayed : Pool (Fin 3) Call Call.Answer Error ToolResult Attempts),
    Pool.Run storing HolderWrites [] (executors sampleBroker (fun _ => sampleRevocation) (fun _ => some "token")
      Collection.empty) begun started ∧
    Pool.Run storing HolderWrites begun started recorded reclaimed ∧
    Pool.Run storing HolderWrites recorded reclaimed ended finished ∧
    Pool.Run storing HolderWrites ended finished events replayed ∧
    started.state sampleRevocation.key = some sampleBegun ∧
    reclaimed.state sampleRevocation.key = some sampleCheckpointed ∧
    finished.state sampleRevocation.key = some sampleSucceeded ∧
    finished.programs 1 = .finish (.ok sampleResult) ∧ Pool.own 2 ended = [] ∧
    replayed.programs 2 = .finish (.ok sampleResult) ∧
    Agreement sampleBroker (fun _ => sampleRevocation) (fun _ => some "token") sampleRevocation.key begun started
      recorded reclaimed ∧
    Agreement sampleBroker (fun _ => sampleRevocation) (fun _ => some "token") sampleRevocation.key recorded reclaimed
      events replayed ∧
    Agreement sampleBroker (fun _ => sampleRevocation) (fun _ => some "token") sampleRevocation.key ended finished
      events replayed := by
  have nobody : Holding 0 {0} [] :=
    ⟨fun ⟨_, hmem, _⟩ => absurd hmem List.not_mem_nil, fun _ hmem => absurd hmem List.not_mem_nil⟩
  have unstarted {who : Fin 3} (hwho : who ≠ 0) (p : BrokerM ToolResult) : Function.update (fun _ =>
      execute sampleBroker sampleRevocation (some "token")) (0 : Fin 3) p who =
      execute sampleBroker sampleRevocation (some "token") := Function.update_of_ne hwho ..
  obtain ⟨begun, holds, run₁⟩ := Holding.run first_begins
    (fun _ => execute sampleBroker sampleRevocation (some "token")) rfl (by decide) nobody
  obtain ⟨recorded, holds, run₂⟩ := Holding.run second_records _ (unstarted (by decide : (1 : Fin 3) ≠ 0) _)
    (by decide) (holds.next (by decide))
  obtain ⟨ended, holds, run₃⟩ := Holding.run second_ends _ (Function.update_self ..) (by decide) holds
  have silent : Pool.own 2 ended = [] := by
    rw [Pool.own, List.map_eq_nil_iff, List.filter_eq_nil_iff]
    intro event hmem hwho
    exact absurd (of_decide_eq_true hwho ▸ holds.2 event hmem) (by decide)
  have waiting (p q r : BrokerM ToolResult) : Function.update (Function.update (Function.update
      (fun _ => execute sampleBroker sampleRevocation (some "token")) (0 : Fin 3) p) 1 q) 1 r 2 =
      execute sampleBroker sampleRevocation (some "token") := by
    rw [Function.update_of_ne (by decide), Function.update_of_ne (by decide), unstarted (by decide)]
  obtain ⟨events, -, run₄⟩ := Holding.run third_replays _ (waiting ..) (by decide) (holds.next (by decide))
  refine ⟨begun, recorded, ended, events, _, _, _, _, run₁, run₂, run₃, run₄, sampleAttempts_stored sampleBegun,
    sampleAttempts_stored sampleCheckpointed, sampleAttempts_stored sampleSucceeded, ?_, silent, ?_,
    attempts_agree sampleBroker _ _ sampleRevocation.key Collection.empty (fun _ => rfl) run₁ run₂,
    attempts_agree sampleBroker _ _ sampleRevocation.key Collection.empty (fun _ => rfl) (run₁.trans run₂)
      (run₃.trans run₄),
    attempts_agree sampleBroker _ _ sampleRevocation.key Collection.empty (fun _ => rfl)
      ((run₁.trans run₂).trans run₃) run₄⟩
  all_goals
    dsimp only
    exact Function.update_self ..

end Uumi.Broker
