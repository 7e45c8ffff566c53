import Uumi.Workflow.CommandLog

/-! Presenting a command again: once a command took effect, its step stands for good and every
later presentation is recognised by it. -/
namespace Uumi.Workflow
open Uumi.Contracts Uumi.Core Uumi.Foundations Uumi.Policy Uumi.State Uumi.Storage

variable {hashing : Hashing} {s s' : Store} {call : Call} {step : RunStep}

/-- Documents of the log stay as they are and runs stay stored. -/
structure Persists (s s' : Store) : Prop where
  steps : ∀ k t, s.steps k = some t → s'.steps k = some t
  dedupe : ∀ k d, s.dedupe k = some d → s'.dedupe k = some d
  runs : ∀ k r, s.runs k = some r → ∃ r', s'.runs k = some r'

private theorem set_keeps {κ δ : Type} [DecidableEq κ] {c : Collection κ δ} {key k : κ} {new old : δ}
    (free : c key = none) (h : c k = some old) : c.set key new k = some old := by
  rw [Collection.set_of_ne, h]
  rintro rfl
  rw [free] at h
  cases h

private theorem set_stored {κ δ : Type} [DecidableEq κ] {c : Collection κ δ} {key k : κ} {new old : δ}
    (h : c k = some old) : ∃ d, c.set key new k = some d := by
  by_cases hk : k = key
  · exact ⟨new, by rw [hk, Collection.set_same]⟩
  · exact ⟨old, by rw [Collection.set_of_ne hk, h]⟩

/-- Every call keeps the log. -/
theorem perform_persists {result : MutationResult} (hl : Logged s)
    (h : (repository hashing).perform s call = .ok (result, s')) : Persists s s' := by
  cases perform_effect h with
  | created command newId now _ effect =>
    refine ⟨fun k t ht => ?_, fun k d hd => ?_, fun k r hr => ?_⟩
    · rw [effect.steps]
      exact set_keeps (hl.unannounced effect.unused _) ht
    · rw [effect.dedupe]
      exact set_keeps effect.unseen hd
    · rw [effect.runs]
      exact set_stored hr
  | mutated machine now command run updated _ effect =>
    refine ⟨fun k t ht => ?_, fun k d hd => ?_, fun k r hr => ?_⟩
    · rw [effect.steps]
      exact set_keeps effect.new ht
    · rw [effect.dedupe]
      exact hd
    · rw [effect.runs]
      exact set_stored hr
  | replayed _ unchanged =>
    subst unchanged
    exact ⟨fun _ _ h => h, fun _ _ h => h, fun _ r h => ⟨r, h⟩⟩

/-- Nothing that a later sequence of calls does touches the log of a reachable state. -/
theorem run_persists (h : (repository hashing).Reachable Initial s) (calls : List Call) :
    Persists s ((repository hashing).run s calls) := by
  refine (repository hashing).run_relates (I := fun s => Placed s ∧ Logged s) ?_ ?_ ?_ ?_ calls s
    (reachable_logged h)
  · intro s call result s' hi hp
    cases perform_effect hp with
    | created _ _ _ _ effect => exact ⟨hi.1.create effect, hi.2.create hi.1 effect⟩
    | mutated _ _ _ _ _ _ effect => exact ⟨hi.1.mutate effect, hi.2.mutate effect⟩
    | replayed _ unchanged => exact unchanged ▸ hi
  · exact fun _ => ⟨fun _ _ h => h, fun _ _ h => h, fun _ r h => ⟨r, h⟩⟩
  · intro s t u h1 h2
    refine ⟨fun k x hx => h2.steps k x (h1.steps k x hx), fun k x hx => h2.dedupe k x (h1.dedupe k x hx),
      fun k r hr => ?_⟩
    obtain ⟨r', hr'⟩ := h1.runs k r hr
    exact h2.runs k r' hr'
  · exact fun s call result s' hi hp => perform_persists hi.2 hp

def Call.hash (hashing : Hashing) : Call → Digest
  | .create command _ _ => creationHash hashing command
  | .mutate _ _ command => mutationHash hashing command

/-- The source event of a create command is bound to a run and a step. -/
def Call.Sourced (hashing : Hashing) (s : Store) (runId : Identifier) : Call → Prop
  | .create command newId now => ∃ d, s.dedupe (sourceKey hashing (createdRun command newId now)) = some d ∧
      d.runId = runId ∧ d.stepId = command.id ∧ d.requestHash = creationHash hashing command
  | .mutate _ _ command => runId = command.runId

/-- The command of a call is recorded by a step. -/
structure Recorded (hashing : Hashing) (s : Store) (call : Call) (step : RunStep) : Prop where
  exists_run : ∃ i r, s.runs (call.key.1, i) = some r ∧
    s.steps (call.key.1, i, call.key.2) = some step ∧ call.Sourced hashing s i
  hash : step.commandHash = call.hash hashing

/-- What is recorded stays so. -/
theorem Recorded.persist (h : Recorded hashing s call step) (hp : Persists s s') :
    Recorded hashing s' call step := by
  obtain ⟨⟨i, r, hr, ht, hs⟩, hh⟩ := h
  obtain ⟨r', hr'⟩ := hp.runs _ _ hr
  refine ⟨⟨i, r', hr', hp.steps _ _ ht, ?_⟩, hh⟩
  cases call with
  | create command newId now =>
    obtain ⟨d, hd, h1, h2, h3⟩ := hs
    exact ⟨d, hp.dedupe _ _ hd, h1, h2, h3⟩
  | mutate machine now command => exact hs

/-- A call that is applied records its command. -/
theorem applied_recorded {result : MutationResult}
    (h : (repository hashing).perform s call = .ok (result, s')) (applied : result.applied = true) :
    Recorded hashing s' call result.step := by
  cases perform_effect h with
  | created command newId now is_call effect =>
    subst is_call
    have hstep : result.step = createStep hashing (createdRun command newId now) command := by
      rw [effect.result_eq]
    refine ⟨⟨command.runId.getD newId, createdRun command newId now, ?_, ?_, ?_⟩, by rw [hstep]; rfl⟩
    · rw [effect.runs]
      exact Collection.set_same ..
    · rw [effect.steps, hstep]
      exact Collection.set_same ..
    · exact ⟨_, by rw [effect.dedupe, Collection.set_same], rfl, rfl, rfl⟩
  | mutated machine now command run updated is_call effect =>
    subst is_call
    have hstep : result.step = mutateStep hashing run updated command (stageProof command) := by
      rw [effect.result_eq]
    refine ⟨⟨command.runId, updated, ?_, ?_, rfl⟩, by rw [hstep]; rfl⟩
    · rw [effect.runs]
      exact Collection.set_same ..
    · rw [effect.steps, hstep]
      exact Collection.set_same ..
  | replayed unapplied _ =>
    rw [unapplied] at applied
    cases applied

private theorem Recorded.event (h : Recorded hashing s call step) (hl : Logged s) :
    ∃ e, s.outbox call.key = some e := by
  obtain ⟨⟨i, _, _, ht, _⟩, _⟩ := h
  obtain ⟨e, he, _⟩ := hl.announces ht
  exact ⟨e, he⟩

private theorem step_unique (hp : Placed s) (hl : Logged s) {o i j c : Identifier} {t u : RunStep}
    (ht : s.steps (o, i, c) = some t) (hu : s.steps (o, j, c) = some u) : t = u := by
  obtain ⟨e, he, ha⟩ := hl.announces ht
  obtain ⟨e', he', ha'⟩ := hl.announces hu
  rw [he, Option.some.injEq] at he'
  subst he'
  have hij : i = j := by
    rw [← (hp.step ht).2.1, ← (hp.step hu).2.1, ← ha.runId, ← ha'.runId]
  subst hij
  rw [ht, Option.some.injEq] at hu
  exact hu

section
variable {call' : Call} {result' : MutationResult} {after : Store}

/-- A recorded command does not take effect again, under whatever content. -/
theorem Recorded.unapplied (h : Recorded hashing s call step) (hl : Logged s) (hk : call'.key = call.key)
    (hc : (repository hashing).perform s call' = .ok (result', after)) :
    result'.applied = false ∧ after = s := by
  obtain ⟨e, he⟩ := h.event hl
  rw [← hk] at he
  cases perform_effect hc with
  | created command newId now is_call effect =>
    subst is_call
    exact absurd (he.symm.trans effect.unused) nofun
  | mutated machine now command run updated is_call effect =>
    subst is_call
    exact absurd (he.symm.trans effect.unused) nofun
  | replayed unapplied unchanged => exact ⟨unapplied, unchanged⟩

/-- A recorded command presented again returns its step and changes nothing. -/
theorem Recorded.again (h : Recorded hashing s call step) (hp : Placed s)
    (hc : call'.command = call.command) : ∃ result', (repository hashing).perform s call' = .ok (result', s) ∧
      result'.applied = false ∧ result'.step = step := by
  obtain ⟨⟨i, r, hr, ht, hs⟩, hh⟩ := h
  have horg := (hp.run hr).1
  refine ⟨{ run := r, step := step, applied := false }, ?_, rfl, rfl⟩
  cases call with
  | create command newId now =>
    obtain ⟨d, hd, rfl, hstep, hhash⟩ := hs
    cases call' with
    | mutate => cases hc
    | create command' newId' now' =>
      cases hc
      refine create_ok.mpr (.inr ⟨⟨rfl, rfl, rfl, rfl, ?_⟩, ⟨d, hd, hhash, hr, ?_⟩, horg, rfl, rfl⟩)
      · rintro id hid
        exact congrArg (·.getD newId') hid
      · rw [hstep]
        exact ht
  | mutate machine now command =>
    cases call' with
    | create => cases hc
    | mutate machine' now' command' =>
      cases hc
      cases hs
      exact mutate_ok.mpr (.inr ⟨ht, hh, hr, horg, rfl, rfl⟩)

/-- Other content under the id of a recorded command is rejected, unless it is a create command
whose source event was accepted, with the same content, under another id. -/
theorem Recorded.other (h : Recorded hashing s call step) (hp : Placed s) (hl : Logged s)
    (injective : Function.Injective hashing.sha256) (hk : call'.key = call.key)
    (hne : call'.command ≠ call.command) :
    (∃ e, (repository hashing).perform s call' = .error e) ∨
    ∃ command newId now result', call' = .create command newId now ∧
      (repository hashing).perform s call' = .ok (result', s) ∧ result'.applied = false ∧
      result'.step.commandHash = creationHash hashing command ∧ result'.step.id ≠ command.id := by
  cases hc : (repository hashing).perform s call' with
  | error e => exact .inl ⟨e, rfl⟩
  | ok out =>
    obtain ⟨result', after⟩ := out
    obtain ⟨hu, rfl⟩ := h.unapplied hl hk hc
    obtain ⟨⟨i, r, hr, ht, hs⟩, hh⟩ := h
    cases call' with
    | mutate machine now command =>
      exfalso
      rcases mutate_ok.mp hc with ⟨run, updated, hm⟩ | hrep
      · rw [hm.result_eq] at hu
        cases hu
      · rw [← hk] at ht
        have heq := step_unique hp hl ht hrep.recorded
        rw [heq, hrep.same] at hh
        cases call with
        | create => exact mutationHash_ne_creationHash injective _ _ hh
        | mutate => exact hne (congrArg Sum.inr (mutationHash_injective injective hh))
    | create command newId now =>
      refine .inr ⟨command, newId, now, result', rfl, rfl, hu, ?_⟩
      rcases create_ok.mp hc with hcr | hd
      · rw [hcr.result_eq] at hu
        cases hu
      · obtain ⟨d, hdoc, hhash, _, hstep⟩ := hd.recorded
        obtain ⟨t, htd, hth⟩ := hl.deduplicated (o := command.organisationId) hdoc
        obtain rfl : t = result'.step := Option.some.inj (htd.symm.trans hstep)
        have hrec := hth.trans hhash
        refine ⟨hrec, fun hid => ?_⟩
        rw [← hk] at ht
        have hid' : d.stepId = command.id := (hp.step htd).2.2.symm.trans hid
        rw [hid'] at htd
        have heq := step_unique hp hl ht htd
        rw [heq, hrec] at hh
        cases call with
        | mutate => exact mutationHash_ne_creationHash injective _ _ hh.symm
        | create command₀ =>
          have hcontent := creationHash_eq injective hh
          have hids : command.id = command₀.id := congrArg Prod.snd hk
          refine hne (congrArg Sum.inl ?_)
          rw [← hcontent, hids]

end

/-- The events of a stored run: one for each revision, each announcing the step recorded at it. -/
structure EventStream (s : Store) (o i : Identifier) (run : RotationRun) : Prop where
  one_each : ∀ n ≤ run.revision, ∃! c, ∃ e, s.outbox (o, c) = some e ∧ e.event.runId = i ∧ e.event.revision = n
  announces : ∀ c e, s.outbox (o, c) = some e → e.event.runId = i → e.event.revision ≤ run.revision ∧
    ∃ t, s.steps (o, i, c) = some t ∧ t.revision = e.event.revision ∧ Announces e.event t

/-- The events of a run are those of its revisions, one for each. -/
theorem eventStream (hp : Placed s) (hl : Logged s) {o i : Identifier} {run : RotationRun}
    (hr : s.runs (o, i) = some run) : EventStream s o i run := by
  have hd := hl.dense hr
  -- the events of the run are those of the commands that its steps record
  have event_iff : ∀ c n, (∃ e, s.outbox (o, c) = some e ∧ e.event.runId = i ∧ e.event.revision = n) ↔
      recorded s (o, i) c = some n := by
    intro c n
    rw [recorded, Option.map_eq_some_iff]
    constructor
    · rintro ⟨e, he, hi, rfl⟩
      obtain ⟨j, t, ht, ha⟩ := hl.announced he
      obtain rfl : j = i := by rw [← (hp.step ht).2.1, ← ha.runId, hi]
      exact ⟨t, ht, ha.revision.symm⟩
    · rintro ⟨t, ht, rfl⟩
      obtain ⟨e, he, ha⟩ := hl.announces ht
      exact ⟨e, he, ha.runId.trans (hp.step ht).2.1, ha.revision⟩
  refine ⟨fun n hn => ?_, fun c e he hi => ?_⟩
  · obtain ⟨c, hc, hu⟩ := hd.existsUnique hn
    exact ⟨c, (event_iff c n).mpr hc, fun c' hc' => hu c' ((event_iff c' n).mp hc')⟩
  · have hc := (event_iff c _).mp ⟨e, he, hi, rfl⟩
    refine ⟨hd.bounded c _ hc, ?_⟩
    obtain ⟨t, ht, hrev⟩ := Option.map_eq_some_iff.mp hc
    obtain ⟨e', he', ha⟩ := hl.announces ht
    obtain rfl : e = e' := Option.some.inj (he.symm.trans he')
    exact ⟨t, ht, hrev, ha⟩

/-- What the repository promises about commands, calls that raise, and events. -/
structure IdempotentLog (hashing : Hashing) : Prop where
  /-- A command takes effect at most once. -/
  once : ∀ {s call result s'}, (repository hashing).Reachable Initial s →
    (repository hashing).perform s call = .ok (result, s') → result.applied = true →
    ∀ calls call' result' after, call'.key = call.key →
      (repository hashing).perform ((repository hashing).run s' calls) call' = .ok (result', after) →
      result'.applied = false ∧ after = (repository hashing).run s' calls
  /-- Presented again with equal content, it returns the recorded step and changes nothing. -/
  again : ∀ {s call result s'}, (repository hashing).Reachable Initial s →
    (repository hashing).perform s call = .ok (result, s') → result.applied = true →
    ∀ calls call', call'.command = call.command →
      ∃ result', (repository hashing).perform ((repository hashing).run s' calls) call' =
          .ok (result', (repository hashing).run s' calls) ∧
        result'.applied = false ∧ result'.step = result.step
  /-- Presented with other content, it is rejected. A create command whose source event was
  accepted with the same content under another id returns the step of that event instead, and
  changes nothing. -/
  other : ∀ {s call result s'}, (repository hashing).Reachable Initial s →
    (repository hashing).perform s call = .ok (result, s') → result.applied = true →
    ∀ calls call', call'.key = call.key → call'.command ≠ call.command →
      (∃ e, (repository hashing).perform ((repository hashing).run s' calls) call' = .error e) ∨
      ∃ command newId now result', call' = .create command newId now ∧
        (repository hashing).perform ((repository hashing).run s' calls) call' =
          .ok (result', (repository hashing).run s' calls) ∧ result'.applied = false ∧
        result'.step.commandHash = creationHash hashing command ∧ result'.step.id ≠ command.id
  /-- A call that raises changes nothing. -/
  atomic : ∀ {s call e}, (repository hashing).perform s call = .error e →
    (repository hashing).exec s call = s
  /-- The events of every stored run count its revisions. -/
  events : ∀ {s o i run}, (repository hashing).Reachable Initial s → s.runs (o, i) = some run →
    EventStream s o i run

/-- The command log of every sequence of calls, under a collision-free hash. -/
theorem idempotent_log (injective : Function.Injective hashing.sha256) : IdempotentLog hashing := by
  have later : ∀ {s call result s'}, (repository hashing).Reachable Initial s →
      (repository hashing).perform s call = .ok (result, s') → result.applied = true → ∀ calls,
      (Placed ((repository hashing).run s' calls) ∧ Logged ((repository hashing).run s' calls)) ∧
        Recorded hashing ((repository hashing).run s' calls) call result.step := by
    intro s call result s' hreach hp happ calls
    have hnext : (repository hashing).Reachable Initial s' := by
      rw [← (repository hashing).exec_of_ok hp]
      exact hreach.exec call
    exact ⟨reachable_logged (hnext.run calls), (applied_recorded hp happ).persist (run_persists hnext calls)⟩
  constructor
  · intro s call result s' hreach hp happ calls call' result' after hk hc
    obtain ⟨⟨_, hl⟩, hrec⟩ := later hreach hp happ calls
    exact hrec.unapplied hl hk hc
  · intro s call result s' hreach hp happ calls call' hcmd
    obtain ⟨⟨hplaced, _⟩, hrec⟩ := later hreach hp happ calls
    exact hrec.again hplaced hcmd
  · intro s call result s' hreach hp happ calls call' hk hne
    obtain ⟨⟨hplaced, hl⟩, hrec⟩ := later hreach hp happ calls
    exact hrec.other hplaced hl injective hk hne
  · intro s call e he
    exact (repository hashing).exec_of_error he
  · intro s o i run hreach hr
    obtain ⟨hplaced, hl⟩ := reachable_logged hreach
    exact eventStream hplaced hl hr

/-- The sample hash has no collision. -/
theorem idempotent_log_sample : IdempotentLog Hashing.sample := idempotent_log Function.injective_id

def sampleReused : CreateRunCommand := { sampleCommand with id := sampleStart.id }

private def sampleReplay : MutationResult where
  run := sampleRunning
  step := createStep Hashing.sample RotationRun.sample sampleCommand
  applied := false

private theorem sampleReused_deduplicated : Deduplicated Hashing.sample sampleStarted
    (createdRun sampleReused RotationRun.sample.id ⟨1, 0⟩) sampleReused sampleReplay sampleStarted where
  agrees := ⟨rfl, rfl, rfl, rfl, nofun⟩
  recorded := by
    have hdoc : sampleStarted.dedupe (sourceKey Hashing.sample
          (createdRun sampleReused RotationRun.sample.id ⟨1, 0⟩)) =
        some { organisationId := sampleCommand.organisationId, runId := RotationRun.sample.id,
               stepId := sampleCommand.id, requestHash := creationHash Hashing.sample sampleCommand,
               createdAt := RotationRun.sample.createdAt } := by
      rw [sampleStarted_mutates.dedupe, sampleCreated_creates.dedupe]
      exact Collection.set_same ..
    have hstep : sampleStarted.steps (sampleCommand.organisationId, RotationRun.sample.id, sampleCommand.id) =
        some (createStep Hashing.sample RotationRun.sample sampleCommand) := by
      rw [sampleStarted_mutates.steps, sampleCreated_creates.steps, Collection.set_of_ne (by decide)]
      exact Collection.set_same ..
    -- the two payloads agree, as the id is not part of them
    have hsame : creationHash Hashing.sample sampleCommand = creationHash Hashing.sample sampleReused :=
      congrArg Hashing.sample.digest rfl
    exact ⟨_, hdoc, hsame, rfl, hstep⟩
  organisationId := rfl
  unapplied := rfl
  store_eq := rfl

private theorem sampleReused_create : create Hashing.sample sampleStarted
    (createdRun sampleReused RotationRun.sample.id ⟨1, 0⟩) sampleReused = .ok (sampleReplay, sampleStarted) :=
  create_ok.mpr (.inr sampleReused_deduplicated)

/-- A create command that reuses the id of a start command is not rejected when its source event
was accepted before: it returns the step of that event. -/
theorem reused_id_accepted : ¬ ∀ hashing s call result s' call', Function.Injective hashing.sha256 →
    (repository hashing).Reachable Initial s → (repository hashing).perform s call = .ok (result, s') →
    result.applied = true → call'.key = call.key → call'.command ≠ call.command →
    ∃ e, (repository hashing).perform s' call' = .error e := by
  intro h
  have hp : (repository Hashing.sample).perform sampleCreated (.mutate {} ⟨1, 0⟩ sampleStart) =
      .ok (_, sampleStarted) :=
    mutate_ok.mpr (.inl ⟨RotationRun.sample, sampleRunning, sampleStarted_mutates⟩)
  have hok : (repository Hashing.sample).perform sampleStarted
      (.create sampleReused RotationRun.sample.id ⟨1, 0⟩) = .ok (sampleReplay, sampleStarted) :=
    sampleReused_create
  obtain ⟨e, he⟩ := h _ _ _ _ _ (.create sampleReused RotationRun.sample.id ⟨1, 0⟩)
    Function.injective_id sampleCreated_reachable hp rfl rfl nofun
  rw [hok] at he
  cases he

end Uumi.Workflow
