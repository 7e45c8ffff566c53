import Uumi.Coordinator.BrowserSteps
import Uumi.Coordinator.Promotion

/-! When the revoke stage takes the steps in the browser for a proof of the revocation, and when the revocation was
performed there. -/
namespace Uumi.Coordinator
open Uumi.Contracts Uumi.Core Uumi.Foundations Uumi.Policy Uumi.Storage

section
variable (hashes : Hashes) (peers : Peers) (catalog : Catalog) (run : RotationRun) (context : RotationContext)
  (old : CredentialGeneration)

/-- `browser_revoked` of `_revoke`, which the stage requires of a browser playbook. -/
def BrowserAccepted : Prop :=
  ∃ outputs evidence, revokeAtProvider hashes peers catalog run context old = .ok (outputs, evidence) ∧
    ∃ output ∈ outputs, Output.text? output "outcome" = some "Step completed"

/-- The executor completes a step of the stage, after its approval and the decision of its operator. -/
def Performed (step : ProviderStep) : Prop :=
  ∃ result, executeProviderStep hashes peers catalog run context .revoke step = .ok result

/-- The stage comes to the step of the playbook that revokes the credential, and the executor completes it. -/
def RevocationPerformed : Prop :=
  requiresProviderRevocation context.browserPlaybook.isSome old.providerId = true ∧
    ∃ before step after, providerSteps hashes catalog run context .revoke = .ok (before ++ .playbook step :: after) ∧
      step.effect = .revokeCredential ∧ (∀ earlier ∈ before, Performed hashes peers catalog run context earlier) ∧
      Performed hashes peers catalog run context (.playbook step)

variable (workers : PlaybookStep → BrowserWorker)

/-- How the executor completes a step of the playbook, after its approval and the decision of its operator. -/
def Finishes (step : PlaybookStep) (finish : Finish) : Prop :=
  ∃ values resolved approval decision playbook sessionId, stepContext hashes catalog run = .ok values ∧
    resolvePlaybookStep values step = .ok resolved ∧
    browserApproval hashes (peers.driving workers) catalog run context .revoke resolved = .ok approval ∧
    operate hashes (peers.driving workers) run resolved = .ok decision ∧
    requiredPlaybook context.browserPlaybook = .ok playbook ∧
    finishStep (workers resolved) resolved approval = .ok (sessionId, finish)

/-- Every step of the stage completes, and one of them in a way that proves the revocation to the coordinator. -/
def StageProves : Prop :=
  ∃ steps, providerSteps hashes catalog run context .revoke = .ok steps ∧
    (∀ step ∈ steps, Performed hashes (peers.driving workers) catalog run context step) ∧
    ∃ step finish, ProviderStep.playbook step ∈ steps ∧ Finishes hashes peers catalog run context workers step finish ∧
      finish.Proves

end

section
variable {hashes : Hashes} {peers : Peers} {catalog : Catalog} {run : RotationRun} {context : RotationContext}
  {old : CredentialGeneration} {workers : PlaybookStep → BrowserWorker}

private theorem executeBrowserStep_driving {step : PlaybookStep} {output : Output} :
    executeBrowserStep hashes (peers.driving workers) catalog run context .revoke step = .ok output ↔
      ∃ values, stepContext hashes catalog run = .ok values ∧ ∃ resolved, resolvePlaybookStep values step = .ok resolved ∧
        ∃ approval, browserApproval hashes (peers.driving workers) catalog run context .revoke resolved = .ok approval ∧
        ∃ decision, operate hashes (peers.driving workers) run resolved = .ok decision ∧
        ∃ playbook, requiredPlaybook context.browserPlaybook = .ok playbook ∧
        ∃ sessionId finish, finishStep (workers resolved) resolved approval = .ok (sessionId, finish) ∧
          output = finish.output sessionId resolved ++
            (decision.map fun decision => ("operator", decisionPayload decision)).toList := by
  unfold executeBrowserStep
  simp only [bind_ok, pure_ok]
  refine exists_congr fun values => and_congr_right fun _ => exists_congr fun resolved => and_congr_right fun _ =>
    exists_congr fun approval => and_congr_right fun _ => exists_congr fun decision => and_congr_right fun _ =>
    exists_congr fun playbook => and_congr_right fun _ => ?_
  change (∃ fields, executeInBrowser (workers resolved) resolved approval = .ok fields ∧ _) ↔ _
  unfold executeInBrowser
  constructor
  · rintro ⟨fields, h, rfl⟩
    rw [bind_ok] at h
    obtain ⟨⟨sessionId, finish⟩, hfinish, h⟩ := h
    exact ⟨sessionId, finish, hfinish, by rw [Except.ok.inj h]⟩
  · rintro ⟨sessionId, finish, hfinish, rfl⟩
    exact ⟨finish.output sessionId resolved, by rw [hfinish]; rfl, rfl⟩

private theorem performed_outcome {step : PlaybookStep} :
    (∃ result, executeProviderStep hashes (peers.driving workers) catalog run context .revoke (.playbook step) = .ok result ∧
        Output.text? result.1 "outcome" = some "Step completed") ↔
      ∃ finish, Finishes hashes peers catalog run context workers step finish ∧ finish.Proves := by
  simp only [executeProviderStep, bind_ok, pure_ok, executeBrowserStep_driving]
  constructor
  · rintro ⟨result, ⟨output, ⟨values, hvalues, resolved, hresolved, approval, happroval, decision, hdecision, playbook,
      hplaybook, sessionId, finish, hfinish, rfl⟩, rfl⟩, houtcome⟩
    exact ⟨finish, ⟨values, resolved, approval, decision, playbook, sessionId, hvalues, hresolved, happroval, hdecision,
      hplaybook, hfinish⟩, Finish.text_outcome.mp houtcome⟩
  · rintro ⟨finish, ⟨values, resolved, approval, decision, playbook, sessionId, hvalues, hresolved, happroval, hdecision,
      hplaybook, hfinish⟩, hproves⟩
    exact ⟨_, ⟨_, ⟨values, hvalues, resolved, hresolved, approval, happroval, decision, hdecision, playbook, hplaybook,
      sessionId, finish, hfinish, rfl⟩, rfl⟩, Finish.text_outcome.mpr hproves⟩

private theorem revocation_declared {playbook : PlaybookVersion} (hplaybook : context.browserPlaybook = some playbook)
    {steps : List ProviderStep} (h : providerSteps hashes catalog run context .revoke = .ok steps) :
    ∃ step, ProviderStep.playbook step ∈ steps ∧ step.effect = .revokeCredential := by
  rw [providerSteps, bind_ok] at h
  obtain ⟨version, -, h⟩ := h
  obtain rfl := Except.ok.inj h
  have single := playbook.definition.accepted
  simp only [DraftFields.validateBrowserProcedure, unit_bind_ok, raiseIf_ok, not_not] at single
  obtain ⟨step, hone⟩ := List.length_eq_one_iff.mp single.2.2.2.2.2.1
  have hmem : step ∈ playbook.definition.withEffect .revokeCredential := by
    rw [hone]
    exact List.mem_singleton_self _
  obtain ⟨hstep, heffect⟩ := List.mem_filter.mp hmem
  have heffect : step.effect = .revokeCredential := of_decide_eq_true heffect
  have accepted := step.accepted
  simp only [StepFields.validateCapture, unit_bind_ok, raiseIf_ok] at accepted
  have hstage : step.stage = .revoke := by
    by_contra other
    exact accepted.2.2.2.2.2.2.2.2.2.1 ⟨heffect, .inl other⟩
  refine ⟨protectStep step (decide (step.tool.value ∈ version.definition.protectedTools)), ?_, heffect⟩
  rw [stepsOf, hplaybook]
  exact List.mem_map.mpr ⟨step, List.mem_filter.mpr ⟨hstep, decide_eq_true hstage⟩, rfl⟩

private theorem only_playbook_steps {playbook : PlaybookVersion} (hplaybook : context.browserPlaybook = some playbook)
    {steps : List ProviderStep} (h : providerSteps hashes catalog run context .revoke = .ok steps) {step : ProviderStep}
    (hstep : step ∈ steps) : ∃ item, step = .playbook item := by
  rw [providerSteps, bind_ok] at h
  obtain ⟨version, -, h⟩ := h
  obtain rfl := Except.ok.inj h
  rw [stepsOf, hplaybook] at hstep
  obtain ⟨item, -, rfl⟩ := List.mem_map.mp hstep
  exact ⟨_, rfl⟩

/-- The coordinator accepts the revocation when the provider has something to revoke and the stage proves it. -/
theorem browserAccepted_iff {playbook : PlaybookVersion} (hplaybook : context.browserPlaybook = some playbook) :
    BrowserAccepted hashes (peers.driving workers) catalog run context old ↔
      requiresProviderRevocation context.browserPlaybook.isSome old.providerId = true ∧
        StageProves hashes peers catalog run context workers := by
  unfold BrowserAccepted revokeAtProvider
  by_cases needed : requiresProviderRevocation context.browserPlaybook.isSome old.providerId = true
  · rw [if_pos needed]
    simp only [needed, true_and, executeProviderSteps, bind_ok, raiseIf_ok, pure_ok]
    constructor
    · rintro ⟨outputs, evidence, ⟨steps, hsteps, _, -, results, hresults, h⟩, output, houtput, houtcome⟩
      obtain ⟨rfl, rfl⟩ := Prod.mk.inj h.symm
      obtain ⟨result, hresult, rfl⟩ := List.mem_map.mp houtput
      refine ⟨steps, hsteps, fun step hstep => ?_, ?_⟩
      · exact collect_mem hresults hstep
      · obtain ⟨step, hstep, hexecuted⟩ := collect_result hresults hresult
        obtain ⟨item, rfl⟩ := only_playbook_steps hplaybook hsteps hstep
        obtain ⟨finish, hfinish, hproves⟩ := performed_outcome.mp ⟨result, hexecuted, houtcome⟩
        exact ⟨item, finish, hstep, hfinish, hproves⟩
    · rintro ⟨steps, hsteps, hperformed, item, finish, hitem, hfinish, hproves⟩
      obtain ⟨results, hresults, -⟩ := collect_total (R := fun _ _ => True) fun step hstep =>
        (hperformed step hstep).imp fun _ h => ⟨h, trivial⟩
      obtain ⟨result, hexecuted, houtcome⟩ := performed_outcome.mpr ⟨finish, hfinish, hproves⟩
      obtain ⟨done, hdone, hexecuted'⟩ := collect_value hresults hitem
      obtain rfl := Except.ok.inj (hexecuted.symm.trans hexecuted')
      exact ⟨_, _, ⟨steps, hsteps, (), List.ne_nil_of_mem hitem, results, hresults, rfl⟩, result.1,
        List.mem_map_of_mem hdone, houtcome⟩
  · rw [if_neg needed]
    constructor
    · rintro ⟨outputs, evidence, h, output, houtput, houtcome⟩
      obtain ⟨rfl, rfl⟩ := Prod.mk.inj (Except.ok.inj h)
      obtain rfl := List.mem_singleton.mp houtput
      exact absurd houtcome (by decide)
    · exact fun h => absurd h.1 needed

private theorem performed_of_accepted {playbook : PlaybookVersion} (hplaybook : context.browserPlaybook = some playbook)
    (h : BrowserAccepted hashes (peers.driving workers) catalog run context old) :
    RevocationPerformed hashes (peers.driving workers) catalog run context old := by
  obtain ⟨needed, steps, hsteps, hperformed, -⟩ := (browserAccepted_iff hplaybook).mp h
  obtain ⟨step, hstep, heffect⟩ := revocation_declared hplaybook hsteps
  obtain ⟨before, after, rfl⟩ := List.append_of_mem hstep
  exact ⟨needed, before, step, after, hsteps, heffect, fun earlier he => hperformed earlier (List.mem_append_left _ he),
    hperformed _ hstep⟩

/-- A revoke stage that ends well accepted the revocation of a browser playbook. -/
theorem revoke_accepted {containIncident : Except Error Unit} {outcome : StageOutcome × Catalog}
    (h : revoke hashes peers catalog run containIncident = .ok outcome) :
    ∃ context old, rotationContext hashes peers catalog run = .ok context ∧ oldGeneration catalog run = .ok old ∧
      (context.browserPlaybook.isSome = true →
        requiresProviderRevocation context.browserPlaybook.isSome old.providerId = true →
          BrowserAccepted hashes peers catalog run context old) := by
  unfold revoke at h
  rw [bind_ok] at h
  obtain ⟨context, hcontext, h⟩ := h
  rw [bind_ok] at h
  obtain ⟨old, hold, h⟩ := h
  rw [bind_ok] at h
  obtain ⟨⟨outputs, evidence⟩, hprovider, h⟩ := h
  rw [bind_ok] at h
  obtain ⟨⟨replacement, rejection, saved⟩, -, h⟩ := h
  simp only [unit_bind_ok, raiseIf_ok] at h
  refine ⟨context, old, hcontext, hold, fun managed needed => ⟨outputs, evidence, hprovider, ?_⟩⟩
  by_contra none
  exact h.1 ⟨managed, needed, none⟩

/-- The coordinator accepts the revocation in the browser exactly when it was performed, provided that the stage then
goes on to prove it: the later steps complete too, and one of the steps is a model-driven one that keeps its outcome. -/
theorem revocation_accepted_iff (hashes : Hashes) (peers : Peers) (catalog : Catalog) (run : RotationRun)
    (context : RotationContext) (old : CredentialGeneration) (workers : PlaybookStep → BrowserWorker)
    (playbook : PlaybookVersion) (hplaybook : context.browserPlaybook = some playbook) :
    (BrowserAccepted hashes (peers.driving workers) catalog run context old ↔
        RevocationPerformed hashes (peers.driving workers) catalog run context old) ↔
      (RevocationPerformed hashes (peers.driving workers) catalog run context old →
        StageProves hashes peers catalog run context workers) := by
  constructor
  · exact fun h performed => ((browserAccepted_iff hplaybook).mp (h.mpr performed)).2
  · exact fun h => ⟨performed_of_accepted hplaybook, fun performed =>
      (browserAccepted_iff hplaybook).mpr ⟨performed.1, h performed⟩⟩

end

def sampleClick : PlaybookStep where
  toStepFields := { sampleRevocation.toStepFields with operation := ⟨"click", by decide⟩ }
  accepted := by decide +kernel

def sampleClickPlaybook : PlaybookVersion :=
  { PlaybookVersion.sample with
    definition :=
      { PlaybookVersion.sample.definition with
        steps := [sampleCreation, sampleClick]
        steps_nonempty := List.cons_ne_nil _ _
        accepted := by decide +kernel } }

def sampleBrowserContext : RotationContext where
  credential := sampleCredential
  provider := sampleProvider
  secretStore := sampleSecretStore
  bindings := [sampleStaged]
  browserPlaybook := some sampleClickPlaybook

def sampleWorker : BrowserWorker where
  session := .ok (RotationRun.sample.id, 40)
  post _ _ _ := .ok [("session", .obj [])]
  readSession _ := .ok (RotationRun.sample.id, .running)
  installSecret := none
  freeze _ := .ok ()

/-- For one click, acceptance agrees with the performance exactly when what is performed is proven. -/
theorem sampleClick_accepted_iff :
    (BrowserAccepted Hashes.sample (Peers.sample.driving fun _ => sampleWorker) sampleCatalog (sampleDeployed .revoke 9)
          sampleBrowserContext sampleTarget ↔
        RevocationPerformed Hashes.sample (Peers.sample.driving fun _ => sampleWorker) sampleCatalog
          (sampleDeployed .revoke 9) sampleBrowserContext sampleTarget) ↔
      (RevocationPerformed Hashes.sample (Peers.sample.driving fun _ => sampleWorker) sampleCatalog
          (sampleDeployed .revoke 9) sampleBrowserContext sampleTarget →
        StageProves Hashes.sample Peers.sample sampleCatalog (sampleDeployed .revoke 9) sampleBrowserContext
          fun _ => sampleWorker) :=
  revocation_accepted_iff Hashes.sample Peers.sample sampleCatalog (sampleDeployed .revoke 9) sampleBrowserContext sampleTarget
    (fun _ => sampleWorker) sampleClickPlaybook rfl

private theorem sampleClick_steps : providerSteps Hashes.sample sampleCatalog (sampleDeployed .revoke 9) sampleBrowserContext
    .revoke = .ok [.playbook (protectStep sampleClick false)] := by
  rw [providerSteps, show control Hashes.sample sampleCatalog (sampleDeployed .revoke 9) = .ok sampleRolloutControls from
    control_ok.mpr ⟨rfl, rfl, rfl, rfl, rfl⟩]
  decide +kernel

private theorem sampleClick_performed :
    (executeProviderStep Hashes.sample (Peers.sample.driving fun _ => sampleWorker) sampleCatalog (sampleDeployed .revoke 9)
        sampleBrowserContext .revoke (.playbook (protectStep sampleClick false))).map
      (fun result => Output.text? result.1 "outcome") = .ok (some "Approved browser control completed") := by
  decide +kernel

/-- The revocation is performed and not accepted. -/
theorem control_unaccepted :
    RevocationPerformed Hashes.sample (Peers.sample.driving fun _ => sampleWorker) sampleCatalog (sampleDeployed .revoke 9)
        sampleBrowserContext sampleTarget ∧
      ¬ BrowserAccepted Hashes.sample (Peers.sample.driving fun _ => sampleWorker) sampleCatalog (sampleDeployed .revoke 9)
        sampleBrowserContext sampleTarget := by
  have hmap := sampleClick_performed
  cases hexecuted : executeProviderStep Hashes.sample (Peers.sample.driving fun _ => sampleWorker) sampleCatalog
      (sampleDeployed .revoke 9) sampleBrowserContext .revoke (.playbook (protectStep sampleClick false)) with
  | error e =>
    rw [hexecuted] at hmap
    cases hmap
  | ok result =>
    rw [hexecuted] at hmap
    refine ⟨⟨rfl, [], protectStep sampleClick false, [], sampleClick_steps, rfl, List.forall_mem_nil _,
      Exists.intro result hexecuted⟩, ?_⟩
    intro accepted
    have hplaybook : sampleBrowserContext.browserPlaybook = some sampleClickPlaybook := rfl
    have stage : StageProves Hashes.sample Peers.sample sampleCatalog (sampleDeployed .revoke 9) sampleBrowserContext
        fun _ => sampleWorker := ((browserAccepted_iff hplaybook).mp accepted).2
    obtain ⟨steps, hsteps, -, item, finish, hitem, hfinish, hproves⟩ := stage
    rw [sampleClick_steps] at hsteps
    obtain rfl := Except.ok.inj hsteps
    obtain rfl := ProviderStep.playbook.inj (List.mem_singleton.mp hitem)
    obtain ⟨other, hother, houtcome⟩ := performed_outcome.mpr ⟨finish, hfinish, hproves⟩
    obtain rfl := Except.ok.inj (hexecuted.symm.trans hother)
    have := houtcome.symm.trans (Except.ok.inj hmap)
    exact absurd this (by decide)

end Uumi.Coordinator
