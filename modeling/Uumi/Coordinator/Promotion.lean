import Uumi.Coordinator.Rollout

/-! Whether a rollout can promote what was verified before it. -/
namespace Uumi.Coordinator
open Uumi.Contracts Uumi.Core Uumi.Foundations Uumi.Policy Uumi.Storage

variable {hashes : Hashes} {peers peers' : Peers} {run run' : RotationRun} {s s' s₁ s₂ s₃ : Catalog}

/-- A verify stage that ran to its end. -/
structure Stamped (hashes : Hashes) (peers : Peers) (run : RotationRun) (s s' : Catalog) (documents : List ConsumerBinding) :
    Prop where
  credential : ∃ credential : ManagedCredential,
    s.credentials (run.organisationId, run.credentialId) = some credential.toCredentialFields ∧
    documents = peers.queryBindings s.bindings run.organisationId credential.id
  nonempty : documents ≠ []
  credentials : s'.credentials = s.credentials
  bindings : ∃ read, List.Forall₂ (fun key document => s.bindings key = some document)
      (keysOf run.organisationId (documents.map ConsumerBinding.id)) read ∧
    s'.bindings = s.bindings.setAll ((keysOf run.organisationId (documents.map ConsumerBinding.id)).zip
      (read.map (Generations.verifiedBinding (reportIdOf hashes run run.stage.value))))

private theorem bindings_ok {credential : ManagedCredential} {documents : List ConsumerBinding} :
    bindings peers s run credential = .ok documents ↔
      documents = peers.queryBindings s.bindings run.organisationId credential.id ∧
        ∀ binding ∈ documents, binding.validate = .ok () := by
  simp only [bindings, unit_bind_ok, forEach_ok, pure_ok]
  constructor
  · rintro ⟨hv, rfl⟩
    exact ⟨rfl, hv⟩
  · rintro ⟨rfl, hv⟩
    exact ⟨hv, rfl⟩

/-- A verify stage that returns has stamped the bindings of the run. -/
theorem verify_ok {outcome : StageOutcome} (h : verify hashes peers s run = .ok (outcome, s')) :
    ∃ documents, Stamped hashes peers run s s' documents := by
  rw [verify, bind_ok] at h
  obtain ⟨⟨report, catalog⟩, hrep, h⟩ := h
  have hr := runVerification_ok hrep
  rw [unit_bind_ok, bind_ok] at h
  obtain ⟨_, credential, hc, h⟩ := h
  rw [bind_ok] at h
  obtain ⟨documents, hd, h⟩ := h
  rw [requiredId_bind_ok] at h
  obtain ⟨target, _, h⟩ := h
  rw [bind_ok] at h
  obtain ⟨⟨_, store⟩, hv, h⟩ := h
  rw [bind_ok] at h
  obtain ⟨checks, _, h⟩ := h
  rw [pure_ok, Prod.mk.injEq] at h
  obtain ⟨_, rfl⟩ := h
  rw [credential_ok, hr.catalog_eq] at hc
  rw [bindings_ok, hr.catalog_eq] at hd
  obtain ⟨hids, read, hread, rfl⟩ := Generation.verifyBindings_ok hv
  rw [hr.catalog_eq] at hread ⊢
  rw [hr.id]
  refine ⟨documents, ⟨credential, hc, hd.1⟩, ?_, rfl, read, hread, rfl⟩
  rintro rfl
  exact hids rfl

private theorem milestone_ok {percent : Int} {ids : List Identifier} {report : VerificationReport}
    (h : milestone hashes peers s run percent = .ok (ids, report, s')) :
    Reported hashes run (rolloutScope percent) run.targetGenerationId s report s' ∧
      ∀ deployment ∈ run.deployments, ∃ result, shiftTraffic hashes peers s run percent deployment = .ok result := by
  rw [milestone, bind_ok] at h
  obtain ⟨shifts, hs, h⟩ := h
  rw [bind_ok] at h
  obtain ⟨⟨report', catalog⟩, hrep, h⟩ := h
  rw [unit_bind_ok, bind_ok] at h
  obtain ⟨_, _, _, h⟩ := h
  simp only [pure_ok, Prod.mk.injEq] at h
  obtain ⟨_, rfl, rfl⟩ := h
  refine ⟨runVerification_ok hrep, fun deployment hd => ?_⟩
  exact collect_mem hs hd

private theorem milestones_ok {percents : List Int} {given found : Option VerificationReport}
    {evidence evidence' : List Identifier}
    (h : milestones hashes peers run percents s given evidence = .ok (found, evidence', s')) :
    (∃ reports, s' = s.withReports reports) ∧
      ∀ percent, percents.getLast? = some percent → ∃ report, found = some report ∧
        report.id = reportIdOf hashes run (rolloutScope percent) ∧
        s'.reports (run.organisationId, report.id) = some report := by
  induction percents generalizing s given evidence with
  | nil =>
    cases h
    exact ⟨⟨_, rfl⟩, nofun⟩
  | cons percent rest ih =>
    rw [milestones, bind_ok] at h
    obtain ⟨⟨ids, report, catalog⟩, hm, h⟩ := h
    have hr := (milestone_ok hm).1
    obtain ⟨⟨reports, heq⟩, hlast⟩ := ih h
    refine ⟨⟨reports, ?_⟩, fun last hl => ?_⟩
    · rw [heq, hr.catalog_eq]
      rfl
    · cases rest with
      | nil =>
        cases hl
        cases h
        exact ⟨report, rfl, hr.id, hr.stored⟩
      | cons next rest =>
        rw [List.getLast?_cons_cons] at hl
        exact hlast last hl

private theorem milestones_context {percents : List Int} {given found : Option VerificationReport}
    {evidence evidence' : List Identifier} (nonempty : percents ≠ []) (deployed : run.deployments ≠ [])
    (h : milestones hashes peers run percents s given evidence = .ok (found, evidence', s')) :
    ∃ context, stepContext hashes s run = .ok context := by
  obtain ⟨percent, rest, rfl⟩ := List.exists_cons_of_ne_nil nonempty
  rw [milestones, bind_ok] at h
  obtain ⟨⟨ids, report, catalog⟩, hm, _⟩ := h
  obtain ⟨deployment, hd⟩ := List.exists_mem_of_ne_nil _ deployed
  obtain ⟨result, hshift⟩ := (milestone_ok hm).2 deployment hd
  rw [shiftTraffic, bind_ok] at hshift
  obtain ⟨step, _, hop⟩ := hshift
  rw [executeOperation, bind_ok] at hop
  obtain ⟨version, _, hop⟩ := hop
  rw [unit_bind_ok, bind_ok] at hop
  obtain ⟨_, context, hcontext, _⟩ := hop
  exact ⟨context, hcontext⟩

/-- A rollout that only has to promote. -/
structure Prepared (hashes : Hashes) (peers : Peers) (s : Catalog) (run : RotationRun) (ready : RolledOut) : Prop where
  credential : s.credentials (run.organisationId, run.credentialId) = some ready.credential.toCredentialFields
  catalog : ∃ reports, ready.catalog = s.withReports reports
  bindings : ready.bindings = peers.queryBindings s.bindings run.organisationId ready.credential.id
  valid : ∀ binding ∈ ready.bindings, binding.validate = .ok ()
  target : run.targetGenerationId = some ready.target
  current : run.currentGenerationId = some ready.current
  report_id : ready.report.id = reportIdOf hashes run (rolloutScope 100)
  report_stored : ready.catalog.reports (run.organisationId, ready.report.id) = some ready.report
  context : ∃ context, stepContext hashes s run = .ok context

private theorem rolledOut_ok {ready : RolledOut} (h : rolledOut hashes peers s run = .ok ready) :
    Prepared hashes peers s run ready := by
  rw [rolledOut, bind_ok] at h
  obtain ⟨credential, hc, h⟩ := h
  rw [unit_bind_ok, raiseIf_ok, bind_ok] at h
  obtain ⟨hdep, plan, _, h⟩ := h
  rw [unit_bind_ok, bind_ok] at h
  obtain ⟨_, ⟨found, evidence, catalog⟩, hm, h⟩ := h
  rw [required_bind_ok] at h
  obtain ⟨report, rfl, h⟩ := h
  rw [bind_ok] at h
  obtain ⟨documents, hb, h⟩ := h
  simp only [requiredId_bind_ok] at h
  obtain ⟨target, ht, current, hcur, h⟩ := h
  rw [pure_ok] at h
  subst h
  obtain ⟨⟨reports, rfl⟩, hlast⟩ := milestones_ok hm
  obtain ⟨report', hreport, hid, hstored⟩ := hlast 100 plan.ends_at_hundred
  cases hreport
  rw [bindings_ok] at hb
  exact
    { credential := credential_ok.mp hc
      catalog := ⟨reports, rfl⟩
      bindings := hb.1
      valid := hb.2
      target := ht
      current := hcur
      report_id := hid
      report_stored := hstored
      context := milestones_context plan.rollout_nonempty hdep hm }

/-- Nobody else touched the credential of a run, its generations or its bindings. -/
structure Quiet (run : RotationRun) (s s' : Catalog) : Prop where
  credential : s'.credentials (run.organisationId, run.credentialId) =
    s.credentials (run.organisationId, run.credentialId)
  generations : ∀ g x, x.credentialId = run.credentialId →
    (s'.generations (run.organisationId, g) = some x ↔ s.generations (run.organisationId, g) = some x)
  bindings : ∀ b x, x.credentialId = run.credentialId →
    (s'.bindings (run.organisationId, b) = some x ↔ s.bindings (run.organisationId, b) = some x)

/-- A run that verified its target and later rolled it out up to the promotion. -/
structure RolloutAfterVerify (hashes : Hashes) (peers peers' : Peers) (run run' : RotationRun)
    (s₁ s₂ s₃ : Catalog) (ready : RolledOut) : Prop where
  placed : Generation.Placed s₁.toInventoryStore
  in_verify : run.stage = .verify
  verified : ∃ outcome, verify hashes peers s₁ run = .ok (outcome, s₂)
  same_run : run'.id = run.id ∧ run'.organisationId = run.organisationId ∧ run'.credentialId = run.credentialId
  in_rollout : run'.stage = .rollout
  quiet : Quiet run s₂ s₃
  rolled_out : rolledOut hashes peers' s₃ run' = .ok ready
  exact_verify : Exact (peers.queryBindings s₁.bindings run.organisationId run.credentialId) s₁.bindings
    run.organisationId (·.credentialId = run.credentialId)
  exact_rollout : Exact (peers'.queryBindings s₃.bindings run.organisationId run.credentialId) s₃.bindings
    run.organisationId (·.credentialId = run.credentialId)
  distinct : NoCollision hashes (reportText run Stage.verify.value) (reportText run' (rolloutScope 100))

/-- The target of the run is the active generation of its credential. -/
def ActiveTarget (store : InventoryStore) (run : RotationRun) : Prop :=
  ∃ target credential generation, run.targetGenerationId = some target ∧
    store.credentials (run.organisationId, run.credentialId) = some credential ∧
    credential.activeGenerationId = some target ∧
    store.generations (run.organisationId, target) = some generation ∧ generation.state = .active

private theorem reportText_ne (h : run.stage = .verify) (h' : run'.stage = .rollout) (hid : run'.id = run.id)
    (scope scope' : String) : reportText run scope ≠ reportText run' scope' := by
  intro he
  have ht := congrArg String.toList he
  simp [reportText, joined, hid, h, h', Stage.value] at ht

private theorem RolloutAfterVerify.stamped {ready : RolledOut}
    (h : RolloutAfterVerify hashes peers peers' run run' s₁ s₂ s₃ ready) :
    ready.credential.id = run.credentialId ∧ ready.bindings ≠ [] ∧
      ∀ binding ∈ ready.bindings, s₃.bindings (run.organisationId, binding.id) = some binding ∧
        binding.verificationReportId = some (reportIdOf hashes run Stage.verify.value) := by
  obtain ⟨outcome, hv⟩ := h.verified
  obtain ⟨documents, hs⟩ := verify_ok hv
  have hp := rolledOut_ok h.rolled_out
  obtain ⟨read, hread, hbind⟩ := hs.bindings
  obtain ⟨credential, hc, hdoc⟩ := hs.credential
  have hid : credential.id = run.credentialId := h.placed.credential hc
  have hcred : ready.credential.id = run.credentialId := by
    have hc' := hp.credential
    rw [h.same_run.2.1, h.same_run.2.2, h.quiet.credential, hs.credentials] at hc'
    exact h.placed.credential hc'
  have hquery : ready.bindings = peers'.queryBindings s₃.bindings run.organisationId run.credentialId := by
    rw [hp.bindings, h.same_run.2.1, hcred]
  rw [hid] at hdoc
  have key {binding} (hb : binding ∈ documents) :
      s₁.bindings (run.organisationId, binding.id) = some binding ∧ binding.credentialId = run.credentialId := by
    rw [hdoc, h.exact_verify] at hb
    obtain ⟨⟨b, hb⟩, hsel⟩ := hb
    exact ⟨h.placed.binding hb ▸ hb, hsel⟩
  have stamped {b binding} (hb : s₂.bindings (run.organisationId, b) = some binding)
      (hsel : binding.credentialId = run.credentialId) :
      binding.id = b ∧ binding.verificationReportId = some (reportIdOf hashes run Stage.verify.value) := by
    rw [hbind, h.in_verify] at hb
    rcases Collection.setAll_map_eq_some hread hb with ⟨old, _, _, hold, rfl⟩ | ⟨hout, hold⟩
    · exact ⟨(h.placed.binding hold :), rfl⟩
    · refine absurd ?_ hout
      have hmem : binding ∈ documents := by
        rw [hdoc, h.exact_verify]
        exact ⟨⟨b, hold⟩, hsel⟩
      rw [← h.placed.binding hold]
      exact List.mem_map_of_mem (List.mem_map_of_mem hmem)
  refine ⟨hcred, ?_, fun binding hb => ?_⟩
  · obtain ⟨binding, hmem⟩ := List.exists_mem_of_ne_nil _ hs.nonempty
    obtain ⟨hfound, hsel⟩ := key hmem
    have hafter : s₂.bindings (run.organisationId, binding.id) =
        some (Generations.verifiedBinding (reportIdOf hashes run run.stage.value) binding) := by
      rw [hbind, Collection.setAll_map _ hread, if_pos, hfound]
      · rfl
      · exact List.mem_map_of_mem (List.mem_map_of_mem hmem)
    have hkept := (h.quiet.bindings _ _ (show (Generations.verifiedBinding _ binding).credentialId = _ from hsel)).mpr
      hafter
    intro hnil
    have hin := (h.exact_rollout _).mpr ⟨⟨_, hkept⟩, hsel⟩
    rw [← hquery, hnil] at hin
    cases hin
  · rw [hquery, h.exact_rollout] at hb
    obtain ⟨⟨b, hb⟩, hsel⟩ := hb
    obtain ⟨rfl, hr⟩ := stamped ((h.quiet.bindings b binding hsel).mp hb) hsel
    exact ⟨hb, hr⟩

private theorem report_ids_ne {ready : RolledOut}
    (h : RolloutAfterVerify hashes peers peers' run run' s₁ s₂ s₃ ready) :
    ready.report.id ≠ reportIdOf hashes run Stage.verify.value := by
  intro he
  rw [(rolledOut_ok h.rolled_out).report_id] at he
  exact reportText_ne h.in_verify h.in_rollout h.same_run.1 _ _ (h.distinct (identify_eq he).symm)

/-- The promotion of a rollout succeeds only where it has nothing to do: the target is active already. -/
theorem rollout_promotes_iff {ready : RolledOut}
    (h : RolloutAfterVerify hashes peers peers' run run' s₁ s₂ s₃ ready) :
    (∃ generation store, ready.promote run' = .ok (generation, store) ∧ ActiveTarget store run') ↔
      ActiveTarget s₃.toInventoryStore run' := by
  have hp := rolledOut_ok h.rolled_out
  obtain ⟨hcred, hnonempty, hstamp⟩ := h.stamped
  obtain ⟨reports, hcatalog⟩ := hp.catalog
  have hread : List.Forall₂ (fun key document => ready.catalog.bindings key = some document)
      (keysOf run'.organisationId (ready.bindings.map ConsumerBinding.id)) ready.bindings := by
    simp only [keysOf, List.map_map, List.forall₂_map_left_iff, List.forall₂_same, Function.comp]
    intro binding hb
    rw [hcatalog, h.same_run.2.1]
    exact (hstamp binding hb).1
  constructor
  · rintro ⟨generation, store, hok, _⟩
    rcases Generation.promote_ok hok with ⟨credential, target, predecessor, report, read, effect⟩ |
      ⟨rfl, hgen, hstate, fields, hfields, hactive⟩
    · exfalso
      obtain ⟨binding, hb⟩ := List.exists_mem_of_ne_nil _ hnonempty
      have hmem : binding ∈ read := by
        refine Collection.mem_of_read effect.bindings_found (List.mem_map_of_mem (List.mem_map_of_mem hb)) ?_
        rw [hcatalog, h.same_run.2.1]
        exact (hstamp binding hb).1
      have hver := (effect.verified binding hmem).2.2.2
      rw [(hstamp binding hb).2] at hver
      have hrep : report.id = ready.report.id := by
        have hfound := effect.report_found
        rw [hp.report_stored] at hfound
        cases hfound
        rfl
      rw [hrep] at hver
      exact report_ids_ne h (Option.some.inj hver).symm
    · rw [hcatalog] at hgen hfields
      refine ⟨ready.target, fields, generation, hp.target, ?_, hactive, hgen, hstate⟩
      rw [h.same_run.2.2, ← hcred]
      exact hfields
  · rintro ⟨target, fields, generation, ht, hf, ha, hg, hstate⟩
    obtain ⟨context, hcontext⟩ := hp.context
    rw [hp.target] at ht
    cases ht
    have hfields : fields = ready.credential.toCredentialFields := Option.some.inj (hf.symm.trans hp.credential)
    subst hfields
    obtain ⟨predecessor, hpred⟩ : ∃ x, s₃.generations (run'.organisationId, ready.current) = some x := by
      rw [stepContext, bind_ok] at hcontext
      obtain ⟨_, _, hcontext⟩ := hcontext
      rw [bind_ok] at hcontext
      obtain ⟨old, hold, _⟩ := hcontext
      rw [hp.current, optionalGeneration, bind_ok] at hold
      obtain ⟨x, hx, _⟩ := hold
      exact ⟨x, found_ok.mp hx⟩
    have hpromote : ready.promote run' = .ok (generation, ready.catalog.toInventoryStore) := by
      simp only [RolledOut.promote, Generation.promote, Generations.promote, unit_bind_ok, required_bind_ok, raiseIf_ok,
        Collection.getAll_eq_some]
      refine ⟨by simpa using hnonempty, ready.credential.toCredentialFields, ?_, generation, ?_, predecessor, ?_,
        ready.report, hp.report_stored, ready.bindings, hread, ?_⟩
      · rw [hcatalog, hcred, ← h.same_run.2.2]
        exact hf
      · rw [hcatalog]
        exact hg
      · rw [hcatalog]
        exact hpred
      · rw [(ManagedCredential.modelValidate_ok _ ready.credential).mpr rfl]
        simp only [ok_bind, unit_bind_ok, forEach_ok]
        refine ⟨hp.valid, ?_⟩
        rw [if_pos ⟨ha, hstate⟩]
        rfl
    refine ⟨generation, _, hpromote, ready.target, _, generation, hp.target, ?_, ha, ?_, hstate⟩
    · rw [hcatalog]
      exact hf
    · rw [hcatalog]
      exact hg

def sampleAt (bindings : Collection (Identifier × Identifier) ConsumerBinding)
    (reports : Collection (Identifier × Identifier) VerificationReport) : Catalog :=
  { sampleCatalog with bindings, reports }

def sampleBound (definition : ProbeDefinition) : BoundProbe where
  definition := definition
  target := "target"
  secretReference := none
  expectedGenerationId := some sampleTarget.id

/-- Some probe of the sample has a result. -/
theorem sampleResults_nonempty : [sampleResult secretProbe, sampleResult runtimeProbe] ≠ [] :=
  List.cons_ne_nil _ _

def sampleReport (stage : Stage) (revision : Nat) (scope : String) : VerificationReport :=
  report (reportIdOf Hashes.sample (sampleDeployed stage revision) scope) sampleCredential.organisationId
    RotationRun.sample.id sampleTarget.id [sampleResult secretProbe, sampleResult runtimeProbe] ⟨10, 0⟩ ⟨10, 0⟩
    sampleResults_nonempty

def sampleVerifyChecks : Finset String :=
  {"provider-valid", "store-valid", "deployment-valid", "coverage-complete", "rollback-ready"}

section
variable (stage : Stage) (revision : Nat) (b : Collection (Identifier × Identifier) ConsumerBinding)
  (r : Collection (Identifier × Identifier) VerificationReport)

private theorem sampleControl : control Hashes.sample (sampleAt b r) (sampleDeployed stage revision) =
    .ok sampleRolloutControls :=
  control_ok.mpr ⟨rfl, rfl, rfl, rfl, rfl⟩

private theorem sampleProbe_resolves (definition : ProbeDefinition)
    (h : definition = secretProbe ∨ definition = runtimeProbe) :
    resolveProbe Hashes.sample (sampleAt b r) (sampleDeployed stage revision) false definition.id =
      .ok (sampleBound definition) := by
  simp only [resolveProbe, found_bind_ok, unit_bind_ok, raiseIf_ok]
  rcases h with rfl | rfl
  · refine ⟨sampleProbeVersion secretProbe, rfl, ?_, rfl⟩
    rintro (h | h)
    · exact h (by decide)
    · exact h rfl
  · refine ⟨sampleProbeVersion runtimeProbe, rfl, ?_, rfl⟩
    rintro (h | h)
    · exact h (by decide)
    · exact h rfl

private theorem sampleProbes :
    probes Hashes.sample (sampleAt b r) (sampleDeployed stage revision) false false .verify =
      .ok [sampleBound secretProbe, sampleBound runtimeProbe] := by
  have hcollect : collect (declared sampleRolloutControls .verify)
      (resolveProbe Hashes.sample (sampleAt b r) (sampleDeployed stage revision) false) =
        .ok [sampleBound secretProbe, sampleBound runtimeProbe] := by
    rw [collect_ok]
    exact .cons (sampleProbe_resolves stage revision b r _ (.inl rfl))
      (.cons (sampleProbe_resolves stage revision b r _ (.inr rfl)) .nil)
  rw [probes, sampleControl, ok_bind, hcollect]
  rfl

private theorem sampleRuns (probeStage : Option Stage) (suffix : Option String) (hstage : probeStage.getD stage = .verify)
    (hnew : r (sampleCredential.organisationId, (sampleReport stage revision (suffix.getD "verify")).id) = none) :
    runVerification Hashes.sample Peers.sample (sampleAt b r) (sampleDeployed stage revision) false false probeStage
        suffix =
      .ok (sampleReport stage revision (suffix.getD "verify"), sampleAt b
        (r.set (sampleCredential.organisationId, (sampleReport stage revision (suffix.getD "verify")).id)
          (sampleReport stage revision (suffix.getD "verify")))) := by
  have hcred : credential (sampleAt b r) (sampleDeployed stage revision) = .ok sampleCredential := credential_ok.mpr rfl
  have hsave : saveReport (sampleAt b r).toInventoryStore (sampleReport stage revision (suffix.getD "verify")) =
      .ok (sampleReport stage revision (suffix.getD "verify"), { (sampleAt b r).toInventoryStore with
        reports := r.set (sampleCredential.organisationId, (sampleReport stage revision (suffix.getD "verify")).id)
          (sampleReport stage revision (suffix.getD "verify")) }) := by
    have hfind : (sampleAt b r).reports ((sampleReport stage revision (suffix.getD "verify")).organisationId,
      (sampleReport stage revision (suffix.getD "verify")).id) = none := hnew
    rw [saveReport, hfind]
    rfl
  rw [runVerification, hcred, ok_bind, show probeStage.getD (sampleDeployed stage revision).stage = .verify from hstage]
  simp only [sampleProbes, ok_bind]
  change (saveReport (sampleAt b r).toInventoryStore (sampleReport stage revision (suffix.getD "verify")) >>= _) = _
  rw [hsave]
  rfl

private theorem sampleChecks (scope : String) :
    verificationChecks Hashes.sample (sampleAt b r) (sampleDeployed stage revision) (sampleReport stage revision scope)
      .verify = .ok sampleVerifyChecks := by
  rw [verificationChecks, sampleControl]
  rfl

end

def sampleStamped : Catalog :=
  sampleAt (sampleCatalog.bindings.set (sampleBinding.organisationId, sampleBinding.id)
      (Generations.verifiedBinding (sampleReport .verify 9 "verify").id sampleStaged))
    (sampleCatalog.reports.set (sampleCredential.organisationId, (sampleReport .verify 9 "verify").id)
      (sampleReport .verify 9 "verify"))

/-- The sample target is verified. -/
theorem sample_verified : ∃ outcome, verify Hashes.sample Peers.sample sampleCatalog (sampleDeployed .verify 9) =
    .ok (outcome, sampleStamped) := by
  have hrun := sampleRuns .verify 9 sampleCatalog.bindings sampleCatalog.reports none none rfl rfl
  have hchecks := sampleChecks .verify 9 sampleStamped.bindings sampleStamped.reports "verify"
  refine ⟨{ checks := sampleVerifyChecks, evidenceIds := (sampleReport .verify 9 "verify").evidenceIds }, ?_⟩
  rw [verify, show sampleCatalog = sampleAt sampleCatalog.bindings sampleCatalog.reports from rfl, hrun]
  simp only [ok_bind]
  change (verificationChecks Hashes.sample (sampleAt sampleStamped.bindings sampleStamped.reports) (sampleDeployed .verify 9)
    (sampleReport .verify 9 "verify") .verify >>= _) = _
  rw [hchecks]
  rfl

def sampleShift : OperationStep :=
  shiftOperation ⟨"rollout_binding-1_100", by decide⟩ sampleDeployment 100

private theorem sampleShift_builds : shiftStep sampleDeployment 100 = .ok sampleShift := by
  rfl

private theorem sampleShift_executes :
    executeOperation Hashes.sample Peers.sample sampleStamped (sampleDeployed .rollout 10) sampleShift =
      .ok ([], [evidenceTwo]) := by
  have hcontrol := sampleControl .rollout 10 sampleStamped.bindings sampleStamped.reports
  rw [executeOperation, show sampleStamped = sampleAt sampleStamped.bindings sampleStamped.reports from rfl, hcontrol]
  rfl

def sampleReady : RolledOut where
  catalog := sampleAt sampleStamped.bindings (sampleStamped.reports.set
    (sampleCredential.organisationId, (sampleReport .rollout 10 "rollout-100").id) (sampleReport .rollout 10 "rollout-100"))
  credential := sampleCredential
  bindings := [Generations.verifiedBinding (sampleReport .verify 9 "verify").id sampleStaged]
  target := sampleTarget.id
  current := generationOne
  report := sampleReport .rollout 10 "rollout-100"
  evidence := [evidenceTwo, evidenceOne, evidenceOne]

private theorem sample_reports_ne :
    (sampleCredential.organisationId, (sampleReport .rollout 10 "rollout-100").id) ≠
      (sampleCredential.organisationId, (sampleReport .verify 9 "verify").id) := by
  intro h
  have := identify_eq (Prod.mk.inj h).2
  exact absurd this (by decide)

private theorem sample_rolledOut :
    rolledOut Hashes.sample Peers.sample sampleStamped (sampleDeployed .rollout 10) = .ok sampleReady := by
  have hnew : sampleStamped.reports (sampleCredential.organisationId, (sampleReport .rollout 10 "rollout-100").id) =
      none := by
    rw [show sampleStamped.reports = sampleCatalog.reports.set (sampleCredential.organisationId,
      (sampleReport .verify 9 "verify").id) (sampleReport .verify 9 "verify") from rfl,
      Collection.set_of_ne sample_reports_ne]
    rfl
  have hrun := sampleRuns .rollout 10 sampleStamped.bindings sampleStamped.reports (some .verify) (some "rollout-100") rfl hnew
  have hchecks := sampleChecks .rollout 10 sampleReady.catalog.bindings sampleReady.catalog.reports "rollout-100"
  have hshift : shiftTraffic Hashes.sample Peers.sample sampleStamped (sampleDeployed .rollout 10) 100 sampleDeployment =
      .ok ([], [evidenceTwo]) := by
    rw [shiftTraffic, sampleShift_builds, ok_bind, sampleShift_executes]
  have hmilestone : milestone Hashes.sample Peers.sample sampleStamped (sampleDeployed .rollout 10) 100 =
      .ok ([evidenceTwo, evidenceOne, evidenceOne],
        sampleReport .rollout 10 "rollout-100", sampleReady.catalog) := by
    have hshifts : collect (sampleDeployed .rollout 10).deployments
        (shiftTraffic Hashes.sample Peers.sample sampleStamped (sampleDeployed .rollout 10) 100) =
          .ok [([], [evidenceTwo])] := collect_ok.mpr (.cons hshift .nil)
    have hrun' : runVerification Hashes.sample Peers.sample sampleStamped (sampleDeployed .rollout 10) false false
        (some .verify) (some (rolloutScope 100)) =
          .ok (sampleReport .rollout 10 "rollout-100", sampleReady.catalog) := hrun
    have hchecks' : verificationChecks Hashes.sample sampleReady.catalog (sampleDeployed .rollout 10)
        (sampleReport .rollout 10 "rollout-100") .verify = .ok sampleVerifyChecks := hchecks
    rw [milestone, hshifts, ok_bind, hrun']
    simp only [ok_bind, hchecks']
    rfl
  have hplan : getPlan sampleStamped (sampleDeployed .rollout 10) = .ok samplePlan := rfl
  have hsteps : milestones Hashes.sample Peers.sample (sampleDeployed .rollout 10) samplePlan.rollout sampleStamped none [] =
      .ok (some (sampleReport .rollout 10 "rollout-100"), sampleReady.evidence, sampleReady.catalog) := by
    rw [show samplePlan.rollout = [100] from rfl, milestones, hmilestone]
    rfl
  have hcred : credential sampleStamped (sampleDeployed .rollout 10) = .ok sampleCredential := credential_ok.mpr rfl
  rw [rolledOut, hcred]
  simp only [ok_bind, unit_bind_ok, raiseIf_ok]
  refine ⟨by decide, ?_⟩
  rw [hplan]
  simp only [ok_bind, unit_bind_ok, raiseIf_ok]
  refine ⟨fun h => h rfl, ?_⟩
  rw [hsteps]
  rfl

private theorem sample_exact (x : ConsumerBinding) (hx : x.credentialId = sampleCredential.id)
    (c : Collection (Identifier × Identifier) ConsumerBinding)
    (hc : c = Collection.empty.set (sampleBinding.organisationId, sampleBinding.id) x) :
    Exact (Peers.sample.queryBindings c sampleCredential.organisationId sampleCredential.id) c sampleCredential.organisationId
      (·.credentialId = sampleCredential.id) := by
  subst hc
  intro document
  have hquery : Peers.sample.queryBindings (Collection.empty.set (sampleBinding.organisationId, sampleBinding.id) x)
      sampleCredential.organisationId sampleCredential.id = [x] := by
    simp [Peers.sample, hx, show sampleCredential.organisationId = sampleBinding.organisationId from rfl]
  rw [hquery, List.mem_singleton]
  constructor
  · rintro rfl
    exact ⟨⟨sampleBinding.id, Collection.set_same ..⟩, hx⟩
  · rintro ⟨⟨key, hkey⟩, _⟩
    rcases Collection.set_eq_some.mp hkey with ⟨_, rfl⟩ | ⟨_, hnone⟩
    · rfl
    · cases hnone

private theorem samplePromotion_placed : Generation.Placed sampleCatalog.toInventoryStore := by
  refine ⟨fun {o g x} hx => ?_, fun {o c x} hx => ?_, fun {o b x} hx => ?_⟩
  · rcases Collection.set_eq_some.mp hx with ⟨hk, rfl⟩ | ⟨_, hx⟩
    · exact (Prod.mk.inj hk).2.symm
    · rcases Collection.set_eq_some.mp hx with ⟨hk, rfl⟩ | ⟨_, hx⟩
      · exact (Prod.mk.inj hk).2.symm
      · cases hx
  · rcases Collection.set_eq_some.mp hx with ⟨hk, rfl⟩ | ⟨_, hx⟩
    · exact (Prod.mk.inj hk).2.symm
    · cases hx
  · rcases Collection.set_eq_some.mp hx with ⟨hk, rfl⟩ | ⟨_, hx⟩
    · exact (Prod.mk.inj hk).2.symm
    · rcases Collection.set_eq_some.mp hx with ⟨hk, rfl⟩ | ⟨_, hx⟩
      · exact (Prod.mk.inj hk).2.symm
      · cases hx

private theorem sample_rollout : RolloutAfterVerify Hashes.sample Peers.sample Peers.sample (sampleDeployed .verify 9)
    (sampleDeployed .rollout 10) sampleCatalog sampleStamped sampleStamped sampleReady := by
  have hb₁ : sampleCatalog.bindings = Collection.empty.set (sampleBinding.organisationId, sampleBinding.id) sampleStaged :=
    Function.update_idem ..
  have hb₃ : sampleStamped.bindings = Collection.empty.set (sampleBinding.organisationId, sampleBinding.id)
      (Generations.verifiedBinding (sampleReport .verify 9 "verify").id sampleStaged) := by
    change sampleCatalog.bindings.set _ _ = _
    rw [hb₁]
    exact Function.update_idem ..
  exact
    { placed := samplePromotion_placed
      in_verify := rfl
      verified := sample_verified
      same_run := ⟨rfl, rfl, rfl⟩
      in_rollout := rfl
      quiet := ⟨rfl, fun _ _ _ => Iff.rfl, fun _ _ _ => Iff.rfl⟩
      rolled_out := sample_rolledOut
      exact_verify := sample_exact _ rfl _ hb₁
      exact_rollout := sample_exact _ rfl _ hb₃
      distinct := fun h => absurd h (by decide) }

/-- The sample rollout cannot promote. -/
theorem rollout_promotes_iff_sample : 
    (∃ generation store, sampleReady.promote (sampleDeployed .rollout 10) = .ok (generation, store) ∧
      ActiveTarget store (sampleDeployed .rollout 10)) ↔
      ActiveTarget sampleStamped.toInventoryStore (sampleDeployed .rollout 10) :=
  rollout_promotes_iff sample_rollout

/-- A run that verified its target and every step of its rollout is refused the promotion. -/
theorem rollout_not_promotes : ¬ ∀ hashes peers peers' run run' s₁ s₂ s₃ ready,
    RolloutAfterVerify hashes peers peers' run run' s₁ s₂ s₃ ready →
      ∃ generation store, ready.promote run' = .ok (generation, store) ∧ ActiveTarget store run' := by
  intro h
  obtain ⟨generation, store, hok, _⟩ := h _ _ _ _ _ _ _ _ _ sample_rollout
  have herror : sampleReady.promote (sampleDeployed .rollout 10) =
      .error (.resourceConflict "consumer binding has not verified the target") := rfl
  rw [herror] at hok
  cases hok

end Uumi.Coordinator
