import Mathlib
import Uumi.Contracts.Command
import Uumi.Contracts.Control
import Uumi.Foundations.Json

/-! Canonical JSON of the contracts that are hashed. Keys are in alphabetical order, sets are
sorted by the text of their items, absent values are left out. -/
namespace Uumi.Policy
open Uumi.Contracts Uumi.Foundations

/-- The hash function, and the text of a timestamp, which keeps instant and offset. -/
structure Hashing where
  sha256 : String → Digest
  isoformat : AwareDatetime → String
  isoformat_injective : Function.Injective isoformat

def Hashing.sample : Hashing where
  sha256 := id
  isoformat t := (Json.arr [.int t.instant, .int t.offset]).text
  isoformat_injective := by
    rintro ⟨a, b⟩ ⟨c, d⟩ h
    have hj := Json.text_injective h
    simp only [Json.arr.injEq, List.cons.injEq, Json.int.injEq, and_true] at hj
    rw [hj.1, hj.2]

def TextOrder (a b : String) : Prop := (Json.str a).text ≤ (Json.str b).text

instance : DecidableRel TextOrder := fun a b =>
  inferInstanceAs (Decidable ((Json.str a).text ≤ (Json.str b).text))

instance : IsTrans String TextOrder := ⟨fun _ _ _ => le_trans⟩

instance : Std.Antisymm TextOrder := ⟨fun a b hab hba => by
  have h := Json.text_injective (le_antisymm hab hba)
  injection h⟩

instance : Std.Total TextOrder := ⟨fun _ _ => le_total _ _⟩

def textSet (s : Finset String) : Json := .arr ((s.sort TextOrder).map .str)

def texts (items : List Identifier) : Json := .arr (items.map fun i : Identifier => .str i.text)

def optional (key : String) (value : Option Json) : List (String × Json) :=
  match value with
  | none => []
  | some v => [(key, v)]

/-- Different texts are different JSON. -/
theorem str_map_injective : Function.Injective (List.map Json.str) :=
  List.map_injective_iff.mpr fun _ _ h => by injection h

private theorem textSet_injective : Function.Injective textSet := by
  intro s t h
  simp only [textSet, Json.arr.injEq] at h
  have hs := congrArg List.toFinset (str_map_injective h)
  rwa [Finset.sort_toFinset, Finset.sort_toFinset] at hs

private theorem texts_injective : Function.Injective texts := by
  intro s t h
  simp only [texts, Json.arr.injEq] at h
  refine List.map_injective_iff.mpr ?_ h
  intro a b hab
  exact Identifier.text_injective (Json.str.inj hab)

def Avoids (key : String) (entries : List (String × Json)) : Prop := ∀ e ∈ entries, e.1 ≠ key

private theorem avoids_nil (key : String) : Avoids key [] := by simp [Avoids]

private theorem avoids_cons {key k : String} {v : Json} {r : List (String × Json)} (h : k ≠ key)
    (hr : Avoids key r) : Avoids key ((k, v) :: r) := by
  intro e he
  rcases List.mem_cons.mp he with rfl | he
  · exact h
  · exact hr e he

private theorem avoids_optional {key k : String} {v : Option Json} {r : List (String × Json)} (h : k ≠ key)
    (hr : Avoids key r) : Avoids key (optional k v ++ r) := by
  cases v with
  | none => exact hr
  | some v => exact avoids_cons h hr

/-- An optional entry before entries with other keys is determined by the whole list. -/
theorem optional_append {key : String} {a b : Option Json} {r s : List (String × Json)}
    (hr : Avoids key r) (hs : Avoids key s)
    (h : optional key a ++ r = optional key b ++ s) : a = b ∧ r = s := by
  cases a with
  | none =>
    cases b with
    | none => exact ⟨rfl, h⟩
    | some w =>
      simp only [optional, List.nil_append, List.singleton_append] at h
      exact absurd rfl (hr (key, w) (by simp [h]))
  | some v =>
    cases b with
    | none =>
      simp only [optional, List.nil_append, List.singleton_append] at h
      exact absurd rfl (hs (key, v) (by simp [← h]))
    | some w =>
      simp only [optional, List.singleton_append, List.cons.injEq, Prod.mk.injEq, true_and] at h
      exact ⟨by rw [h.1], h.2⟩

private theorem optional_text_injective {a b : Option Identifier}
    (h : a.map (fun i => Json.str i.text) = b.map (fun i => Json.str i.text)) : a = b := by
  refine Option.map_injective ?_ h
  intro i j hij
  exact Identifier.text_injective (Json.str.inj hij)

section
variable (hashing : Hashing)

def Hashing.digest (payload : Json) : Digest := hashing.sha256 payload.text

def instant (t : AwareDatetime) : Json := .str (hashing.isoformat t)

def failurePayload (f : Failure) : Json := .obj [
  ("code", .str f.code.value), ("evidence_ids", texts f.evidenceIds),
  ("message", .str f.message.value), ("retryable", .bool f.retryable)]

def proofPayload (p : StageProof) : Json := .obj [
  ("actor_id", .str p.actorId.text), ("checks", textSet p.checks),
  ("evidence_ids", texts p.evidenceIds), ("organisation_id", .str p.organisationId.text),
  ("recorded_at", instant hashing p.recordedAt), ("run_id", .str p.runId.text),
  ("stage", .str p.stage.value)]

def deploymentPayload (d : RuntimeDeployment) : Json := .obj [
  ("binding_id", .str d.bindingId.text), ("candidate_revision", .str d.candidateRevision.value),
  ("connection_id", .str d.connectionId.text), ("rollback_revision", .str d.rollbackRevision.value),
  ("service", .str d.service.value)]

def bindingsPayload (b : StageBindings) : Json := .obj (
  optional "browser_playbook_version" (b.browserPlaybookVersion.map (.str ·.text)) ++
  (optional "current_generation_id" (b.currentGenerationId.map (.str ·.text)) ++
  (("deployments", .arr (b.deployments.map deploymentPayload)) ::
  (optional "plan_hash" (b.planHash.map .str) ++
  (optional "plan_id" (b.planId.map (.str ·.text)) ++
  (optional "target_generation_id" (b.targetGenerationId.map (.str ·.text)) ++ []))))))

def triggerPayload (t : Trigger) : Json := .obj [
  ("actor_id", .str t.actorId.text), ("event_id", .str t.eventId.value), ("kind", .str t.kind.value),
  ("reason", .str t.reason.value), ("received_at", instant hashing t.receivedAt),
  ("source", .str t.source.value), ("urgency", .str t.urgency.value)]

def commandPayload (command : RunCommand) : Json :=
  let actor := ("actor_id", Json.str command.actorId.text)
  let revision := ("expected_revision", Json.int command.expectedRevision)
  let id := ("id", Json.str command.id.text)
  let operation := ("operation", Json.str command.operation)
  let organisation := ("organisation_id", Json.str command.organisationId.text)
  let run := ("run_id", Json.str command.runId.text)
  let owner (o : Identifier) := ("owner_id", Json.str o.text)
  let expiry (t : AwareDatetime) := ("expires_at", instant hashing t)
  let token (n : Nat) := ("fencing_token", Json.int n)
  match command with
  | .start c => .obj [actor, revision, expiry c.expiresAt, id, operation, organisation, owner c.ownerId, run]
  | .renew c => .obj [actor, revision, expiry c.expiresAt, token c.fencingToken, id, operation,
      organisation, owner c.ownerId, run]
  | .complete c => .obj [actor, ("bindings", bindingsPayload c.bindings), revision, token c.fencingToken,
      id, operation, organisation, ("proof", proofPayload hashing c.proof), run]
  | .pause c => .obj [actor, revision, token c.fencingToken, id, operation, organisation, run]
  | .resume c => .obj [actor, revision, expiry c.expiresAt, id, operation, organisation, owner c.ownerId, run]
  | .fail c => .obj [actor, revision, ("failure", failurePayload c.failure), token c.fencingToken, id,
      operation, organisation, run]
  | .cancel _ => .obj [actor, revision, id, operation, organisation, run]
  | .cleanup c => .obj [actor, revision, ("failure", failurePayload c.failure), token c.fencingToken, id,
      operation, organisation, run]
  | .recover c => .obj [actor, revision, expiry c.expiresAt, id, operation, organisation, owner c.ownerId, run]
  | .completeRecovery c => .obj [actor, ("evidence_ids", texts c.evidenceIds), revision,
      token c.fencingToken, id, ("mode", .str c.mode.value), operation, organisation,
      ("recovery_id", .str c.recoveryId.text), run]

def creationPayload (command : CreateRunCommand) : Json := .obj [
  ("control_version", .str command.controlVersion.text),
  ("credential_id", .str command.credentialId.text),
  ("operation", .str command.operation),
  ("organisation_id", .str command.organisationId.text),
  ("run_id", command.runId.elim .null (.str ·.text)),
  ("trigger", triggerPayload hashing command.trigger)]

def ParameterValue.payload : ParameterValue → Json
  | .text v => .str v
  | .number n => .int n
  | .flag b => .bool b
  | .texts vs => .arr (vs.map .str)

def parametersPayload (parameters : Parameters) : Json :=
  .obj ((parameters.mergeSort fun a b => a.1 ≤ b.1).map fun e => (e.1, ParameterValue.payload e.2))

def actionPayload (a : RecoveryAction) : Json := .obj [
  ("operation", .str a.operation.value), ("parameters", parametersPayload a.parameters),
  ("protected", .bool a.isProtected), ("tool", .str a.tool.value)]

def branchPayload (b : RecoveryBranch) : Json := .obj [
  ("actions", .arr (b.actions.map actionPayload)), ("mode", .str b.mode.value),
  ("preserves_old_generation", .bool b.preservesOldGeneration)]

def sourcePayload (s : ExposureSource) : Json := .obj [
  ("connection_id", .str s.connectionId.text), ("resource", .str s.resource.value)]

def stagesByName : List Stage :=
  [.approval, .complete, .create, .deploy, .observe, .plan, .preflight, .revoke, .rollout, .store,
    .trigger, .verify]

def stageMap (value : Stage → Option Json) : Json :=
  .obj (stagesByName.flatMap fun s => optional s.value (value s))

def definitionPayload (d : ControlFields) : Json := .obj [
  ("allowed_recovery_modes", textSet (d.allowedRecoveryModes.image RecoveryMode.value)),
  ("allowed_tools", textSet d.allowedTools),
  ("automatic_triggers", textSet d.automaticTriggers),
  ("emergency_triggers", textSet d.emergencyTriggers),
  ("exposure_sources", .arr (d.exposureSources.map sourcePayload)),
  ("maximum_metadata_age_seconds", .int d.maximumMetadataAgeSeconds),
  ("maximum_observation_seconds", .int d.maximumObservationSeconds),
  ("minimum_automatic_confidence", .str d.minimumAutomaticConfidence.value),
  ("preserve_old_generation", .bool d.preserveOldGeneration),
  ("probe_versions", stageMap fun s => (d.probeVersions s).map texts),
  ("protected_tools", textSet d.protectedTools),
  ("recovery", stageMap fun s => (d.recovery s).map branchPayload),
  ("require_generation_telemetry", .bool d.requireGenerationTelemetry),
  ("require_revoke_approval", .bool d.requireRevokeApproval),
  ("require_runtime_alignment", .bool d.requireRuntimeAlignment),
  ("required_checks", stageMap fun s => some (textSet (d.requiredChecks s))),
  ("rotate_before_expiry_seconds", .int d.rotateBeforeExpirySeconds)]

variable {hashing}

private theorem instant_injective : Function.Injective (instant hashing) := fun _ _ h =>
  hashing.isoformat_injective (Json.str.inj h)

private theorem failurePayload_injective : Function.Injective failurePayload := by
  rintro ⟨c, m, r, e⟩ ⟨c', m', r', e'⟩ h
  simp only [failurePayload, Json.obj.injEq, List.cons.injEq, Prod.mk.injEq, Json.str.injEq,
    Json.bool.injEq, true_and, and_true] at h
  obtain ⟨hc, he, hm, rfl⟩ := h
  obtain rfl := Text.value_injective hc
  obtain rfl := texts_injective he
  obtain rfl := Text.value_injective hm
  rfl

private theorem proofPayload_injective : Function.Injective (proofPayload hashing) := by
  rintro ⟨r, o, s, c, e, a, t, _, _⟩ ⟨r', o', s', c', e', a', t', _, _⟩ h
  simp only [proofPayload, Json.obj.injEq, List.cons.injEq, Prod.mk.injEq, Json.str.injEq,
    true_and, and_true] at h
  obtain ⟨ha, hc, he, ho, ht, hr, hs⟩ := h
  obtain rfl := Identifier.text_injective ha
  obtain rfl := textSet_injective hc
  obtain rfl := texts_injective he
  obtain rfl := Identifier.text_injective ho
  obtain rfl := instant_injective ht
  obtain rfl := Identifier.text_injective hr
  obtain rfl := Stage.value_injective hs
  rfl

private theorem deploymentPayload_injective : Function.Injective deploymentPayload := by
  rintro ⟨b, c, s, n, r⟩ ⟨b', c', s', n', r'⟩ h
  simp only [deploymentPayload, Json.obj.injEq, List.cons.injEq, Prod.mk.injEq, Json.str.injEq,
    true_and, and_true] at h
  obtain ⟨hb, hn, hc, hr, hs⟩ := h
  obtain rfl := Identifier.text_injective hb
  obtain rfl := Text.value_injective hn
  obtain rfl := Identifier.text_injective hc
  obtain rfl := Text.value_injective hr
  obtain rfl := Text.value_injective hs
  rfl

private theorem bindingsPayload_injective : Function.Injective bindingsPayload := by
  rintro ⟨v, p, q, c, t, d⟩ ⟨v', p', q', c', t', d'⟩ h
  simp only [bindingsPayload, Json.obj.injEq] at h
  have avoids (k : String) (h1 : "plan_hash" ≠ k) (h2 : "plan_id" ≠ k) (h3 : "target_generation_id" ≠ k)
      (x y z : Option Json) :
      Avoids k (optional "plan_hash" x ++ (optional "plan_id" y ++ (optional "target_generation_id" z ++ []))) :=
    avoids_optional h1 (avoids_optional h2 (avoids_optional h3 (avoids_nil k)))
  obtain ⟨hv, h⟩ := optional_append
    (avoids_optional (by decide) (avoids_cons (by decide) (avoids _ (by decide) (by decide) (by decide) _ _ _)))
    (avoids_optional (by decide) (avoids_cons (by decide) (avoids _ (by decide) (by decide) (by decide) _ _ _))) h
  obtain ⟨hc, h⟩ := optional_append
    (avoids_cons (by decide) (avoids _ (by decide) (by decide) (by decide) _ _ _))
    (avoids_cons (by decide) (avoids _ (by decide) (by decide) (by decide) _ _ _)) h
  simp only [List.cons.injEq, Prod.mk.injEq, Json.arr.injEq, true_and] at h
  obtain ⟨hd, h⟩ := h
  obtain ⟨hq, h⟩ := optional_append
    (avoids_optional (by decide) (avoids_optional (by decide) (avoids_nil _)))
    (avoids_optional (by decide) (avoids_optional (by decide) (avoids_nil _))) h
  obtain ⟨hp, h⟩ := optional_append (avoids_optional (by decide) (avoids_nil _))
    (avoids_optional (by decide) (avoids_nil _)) h
  obtain ⟨ht, -⟩ := optional_append (avoids_nil _) (avoids_nil _) h
  obtain rfl := optional_text_injective hv
  obtain rfl := optional_text_injective hc
  obtain rfl := List.map_injective_iff.mpr deploymentPayload_injective hd
  obtain rfl := Option.map_injective (fun _ _ hs => Json.str.inj hs) hq
  obtain rfl := optional_text_injective hp
  obtain rfl := optional_text_injective ht
  rfl

private theorem triggerPayload_injective : Function.Injective (triggerPayload hashing) := by
  rintro ⟨s, k, e, a, r, u, t⟩ ⟨s', k', e', a', r', u', t'⟩ h
  simp only [triggerPayload, Json.obj.injEq, List.cons.injEq, Prod.mk.injEq, Json.str.injEq,
    true_and, and_true] at h
  obtain ⟨ha, he, hk, hr, ht, hs, hu⟩ := h
  obtain rfl := Identifier.text_injective ha
  obtain rfl := Text.value_injective he
  obtain rfl := Text.value_injective hk
  obtain rfl := Text.value_injective hr
  obtain rfl := instant_injective ht
  obtain rfl := Text.value_injective hs
  obtain rfl := Text.value_injective hu
  rfl

private theorem commandPayload_base (hashing : Hashing) (c : RunCommand) :
    (commandPayload hashing c).field? "operation" = some (.str c.operation) ∧
    (commandPayload hashing c).field? "actor_id" = some (.str c.base.actorId.text) ∧
    (commandPayload hashing c).field? "expected_revision" = some (.int c.base.expectedRevision) ∧
    (commandPayload hashing c).field? "id" = some (.str c.base.id.text) ∧
    (commandPayload hashing c).field? "organisation_id" = some (.str c.base.organisationId.text) ∧
    (commandPayload hashing c).field? "run_id" = some (.str c.base.runId.text) := by
  cases c <;> exact ⟨rfl, rfl, rfl, rfl, rfl, rfl⟩

private theorem base_of_commandPayload {c d : RunCommand}
    (h : commandPayload hashing c = commandPayload hashing d) :
    c.operation = d.operation ∧ c.base = d.base := by
  obtain ⟨ho, ha, hr, hi, hg, hn⟩ := commandPayload_base hashing c
  rw [h] at ho ha hr hi hg hn
  obtain ⟨ho', ha', hr', hi', hg', hn'⟩ := commandPayload_base hashing d
  rw [ho'] at ho
  rw [ha'] at ha
  rw [hr'] at hr
  rw [hi'] at hi
  rw [hg'] at hg
  rw [hn'] at hn
  simp only [Option.some.injEq, Json.str.injEq, Json.int.injEq, Int.natCast_inj] at ho ha hr hi hg hn
  have hid := Identifier.text_injective hi
  have horg := Identifier.text_injective hg
  have hrun := Identifier.text_injective hn
  have hactor := Identifier.text_injective ha
  exact ⟨ho.symm, (CommandBase.ext hid horg hrun hactor hr).symm⟩

/-- The payload of a command determines the command. -/
theorem commandPayload_injective : Function.Injective (commandPayload hashing) := by
  intro c d h
  obtain ⟨ho, hb⟩ := base_of_commandPayload h
  cases c <;> cases d <;> simp only [RunCommand.operation, String.reduceEq] at ho
  all_goals
    rename_i a b
    obtain ⟨base⟩ := a
    obtain ⟨base'⟩ := b
    obtain rfl : base = base' := hb
    simp only [commandPayload, Json.obj.injEq, List.cons.injEq, Prod.mk.injEq, Json.str.injEq,
      Json.int.injEq, Int.natCast_inj, true_and, and_true] at h
  case start.start | resume.resume | recover.recover =>
    obtain ⟨-, -, ht, -, -, -, ho, -⟩ := h
    rw [instant_injective ht, Identifier.text_injective ho]
  case renew.renew =>
    obtain ⟨-, -, ht, hn, -, -, -, ho, -⟩ := h
    rw [instant_injective ht, hn, Identifier.text_injective ho]
  case complete.complete =>
    obtain ⟨-, hb, -, hn, -, -, -, hp, -⟩ := h
    rw [bindingsPayload_injective hb, hn, proofPayload_injective hp]
  case pause.pause => rw [h.2.2.1]
  case fail.fail | cleanup.cleanup =>
    obtain ⟨-, -, hf, hn, -⟩ := h
    rw [failurePayload_injective hf, hn]
  case cancel.cancel => rfl
  case completeRecovery.completeRecovery =>
    obtain ⟨-, he, -, hn, -, hm, -, -, hr, -⟩ := h
    rw [texts_injective he, hn, RecoveryMode.value_injective hm, Identifier.text_injective hr]

/-- The creation payload of a command determines everything but its id. -/
theorem creationPayload_injective {c d : CreateRunCommand}
    (h : creationPayload hashing c = creationPayload hashing d) : { d with id := c.id } = c := by
  obtain ⟨i, o, cr, v, t, r⟩ := c
  obtain ⟨i', o', cr', v', t', r'⟩ := d
  simp only [creationPayload, Json.obj.injEq, List.cons.injEq, Prod.mk.injEq, Json.str.injEq,
    true_and, and_true] at h
  obtain ⟨hv, hc, -, ho, hr, ht⟩ := h
  obtain rfl := Identifier.text_injective hv
  obtain rfl := Identifier.text_injective hc
  obtain rfl := Identifier.text_injective ho
  obtain rfl := triggerPayload_injective ht
  obtain rfl : r = r' := by
    cases r <;> cases r' <;> simp only [Option.elim_none, Option.elim_some, reduceCtorEq, Json.str.injEq] at hr
    · rfl
    · rw [Identifier.text_injective hr]
  rfl

/-- A command on an existing run never has the payload of a create command. -/
theorem commandPayload_ne_creationPayload (c : RunCommand) (d : CreateRunCommand) :
    commandPayload hashing c ≠ creationPayload hashing d := by
  intro h
  obtain ⟨ho, -⟩ := commandPayload_base hashing c
  rw [h] at ho
  have hd : (creationPayload hashing d).field? "operation" = some (.str "create") := rfl
  rw [hd, Option.some.injEq, Json.str.injEq] at ho
  exact c.operation_ne_create ho.symm

end
end Uumi.Policy
