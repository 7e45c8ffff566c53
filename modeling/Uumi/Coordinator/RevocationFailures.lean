import Uumi.Coordinator.Promotion
import Uumi.Coordinator.Revocation
import Uumi.Foundations.Effects

/-! The revoke stage with what it leaves behind when it raises: the old generation is marked as revoked before the last
of the stage's checks. -/
namespace Uumi.Coordinator
open Uumi.Contracts Uumi.Core Uumi.Foundations Uumi.Foundations.Effects Uumi.Policy Uumi.Storage

/-- The documents of the coordinator and what the incident service keeps. -/
structure RevocationState (ι : Type) where
  catalog : Catalog
  incidents : ι

/-- What the stage knows once everything is done that has to precede the mark. -/
structure RevocationReady where
  context : RotationContext
  old : CredentialGeneration
  evidence : List Identifier
  replacement : VerificationReport
  rejection : VerificationReport
  disabled : List Identifier

section
variable {ι : Type} (hashes : Hashes) (peers : Peers) (run : RotationRun)

def consulting {α : Type} (f : Catalog → Except Error α) : EStateM Error (RevocationState ι) α :=
  reading fun s => f s.catalog

def updating {α : Type} (f : Catalog → Except Error (α × Catalog)) : EStateM Error (RevocationState ι) α :=
  writing fun s => do
    let (value, catalog) ← f s.catalog
    return (value, { s with catalog })

def markRevoked (rejection : VerificationReport) : EStateM Error (RevocationState ι) CredentialGeneration :=
  updating fun catalog => do
    let current ← requiredId run.currentGenerationId "old generation"
    let (generation, store) ← Generation.revoke catalog.toInventoryStore run.organisationId current rejection.id
      (peers.clock (.revoking rejection.id))
    return (generation, { catalog with toInventoryStore := store })

/-- `_revoke` before the mark. -/
def prepareRevocation : EStateM Error (RevocationState ι) RevocationReady := do
  let context ← consulting fun catalog => rotationContext hashes peers catalog run
  let old ← consulting fun catalog => oldGeneration catalog run
  let (outputs, evidence) ← consulting fun catalog => revokeAtProvider hashes peers catalog run context old
  let replacement ← updating fun catalog =>
    runVerification hashes peers catalog run false false (some .verify) (some "replacement")
  consulting fun _ => raiseIf (replacement.status ≠ .passed)
    (.value "replacement credential failed verification before revocation")
  let rejection ← updating fun catalog =>
    runVerification hashes peers catalog run true false (some .revoke) (some "old-rejected")
  consulting fun _ => raiseIf (rejection.status ≠ .passed) (.value "old credential still works after provider revocation")
  consulting fun _ => raiseIf (context.browserPlaybook.isSome ∧
      requiresProviderRevocation context.browserPlaybook.isSome old.providerId ∧
      ¬ ∃ output ∈ outputs, Output.text? output "outcome" = some "Step completed")
    (.value "browser playbook did not prove credential revocation")
  let disabled ← consulting fun catalog => disableSecret hashes peers catalog run context old
  return { context, old, evidence, replacement, rejection, disabled }

/-- The incident service contains the incident of the run; it may raise before or after its change. -/
def containing (contain : EStateM Error ι Unit) : EStateM Error (RevocationState ι) Unit := fun s =>
  match contain s.incidents with
  | .ok () incidents => .ok () { s with incidents }
  | .error e incidents => .error e { s with incidents }

/-- What follows the mark: the incident is contained, and the last checks of the stage are made. -/
def afterMark (contain : EStateM Error ι Unit) (ready : RevocationReady) :
    EStateM Error (RevocationState ι) StageOutcome := do
  containing contain
  let _ ← consulting fun catalog => verificationChecks hashes catalog run ready.replacement .verify
  let checks ← consulting fun _ => revocationChecks ready.replacement ready.rejection ready.old.secretReference
    ready.context.browserPlaybook.isSome
  return {
    checks
    evidenceIds := (ready.evidence ++ ready.disabled ++ ready.replacement.evidenceIds ++
      ready.rejection.evidenceIds).eraseDups }

/-- `_revoke` from the mark on. -/
def concludeRevocation (contain : EStateM Error ι Unit) (ready : RevocationReady) :
    EStateM Error (RevocationState ι) StageOutcome := do
  let _ ← markRevoked peers run ready.rejection
  afterMark hashes run contain ready

/-- `_revoke`, with the state that it leaves. -/
def revokeStage (contain : EStateM Error ι Unit) : EStateM Error (RevocationState ι) StageOutcome := do
  let ready ← prepareRevocation hashes peers run
  concludeRevocation hashes peers run contain ready

private theorem forget_consulting {α : Type} (f : Catalog → Except Error α) (s : RevocationState ι) :
    forget (consulting f s) = (do return (← f s.catalog, s)) :=
  forget_reading _ s

private theorem forget_updating {α : Type} (f : Catalog → Except Error (α × Catalog)) (s : RevocationState ι) :
    forget (updating f s) = (do
      let (value, catalog) ← f s.catalog
      return (value, { s with catalog })) :=
  forget_writing _ s

private theorem forget_containing (contain : EStateM Error ι Unit) (s : RevocationState ι) :
    forget (containing contain s) = (do
      let ((), incidents) ← forget (contain s.incidents)
      return ((), { s with incidents })) := by
  unfold containing
  cases contain s.incidents <;> rfl

/-- A caller of the stage, who loses its state with an error, learns what the stage without a state tells. -/
theorem revokeStage_forget (contain : EStateM Error ι Unit) (s : RevocationState ι) :
    (do
      let (outcome, after) ← forget (revokeStage hashes peers run contain s)
      return (outcome, after.catalog)) =
      revoke hashes peers s.catalog run (do let _ ← forget (contain s.incidents)) := by
  unfold revokeStage prepareRevocation concludeRevocation afterMark markRevoked revoke revocationReports
  simp only [forget_bind, forget_consulting, forget_updating, forget_containing, bind_assoc, pure_bind, forget_pure, ok_bind]

/-- The generation that the run replaces is superseded, and stored under its own identifier. -/
def Superseded (catalog : Catalog) : Prop :=
  ∃ generation, run.currentGenerationId = some generation.id ∧
    catalog.generations (run.organisationId, generation.id) = some generation ∧ generation.state = .superseded

/-- What the gate of the stage requires: the replacement is accepted, the old credential is rejected, and its secret
version was there to be disabled. -/
structure RevocationProven (catalog : Catalog) (ready : RevocationReady) : Prop where
  verified : ∃ checks, verificationChecks hashes catalog run ready.replacement .verify = .ok checks
  accepted : ¬ ready.context.browserPlaybook.isSome → "credential-accepted" ∈ ready.replacement.checks
  rejected : {"secret-version-enabled"} ∪ (if ready.context.browserPlaybook.isSome then ∅
    else {"provider-credential-revoked", "credential-rejected"}) ⊆ ready.rejection.checks
  disabled : ready.old.secretReference ≠ none

/-- A stage that raises after its context and the old generation are known leaves the generation superseded and the
incident as it was, or everything had been proven before. -/
def FailsSafely (contain : EStateM Error ι Unit) (s : RevocationState ι) : Prop :=
  ∀ context old, rotationContext hashes peers s.catalog run = .ok context → oldGeneration s.catalog run = .ok old →
    ∀ e s', revokeStage hashes peers run contain s = .error e s' →
      (Superseded run s'.catalog ∧ s'.incidents = s.incidents) ∨
        ∃ ready s₁, prepareRevocation hashes peers run s = .ok ready s₁ ∧ RevocationProven hashes run s₁.catalog ready

end

section
variable {ι : Type} {hashes : Hashes} {peers : Peers} {run : RotationRun} {contain : EStateM Error ι Unit}

def Untouched (s s' : RevocationState ι) : Prop :=
  s'.catalog.generations = s.catalog.generations ∧ s'.incidents = s.incidents

instance : Std.Refl (Untouched (ι := ι)) := ⟨fun _ => ⟨rfl, rfl⟩⟩

instance : IsTrans (RevocationState ι) Untouched := ⟨fun _ _ _ h h' => ⟨h'.1.trans h.1, h'.2.trans h.2⟩⟩

private theorem keeps_verification {negative : Bool} {stage : Option Stage} {suffix : Option String} :
    Keeps Untouched (updating fun catalog => runVerification hashes peers catalog run negative false stage suffix :
      EStateM Error (RevocationState ι) VerificationReport) := by
  refine keeps_writing fun s report s' h => ?_
  rw [bind_ok] at h
  obtain ⟨⟨found, catalog⟩, hrun, h⟩ := h
  obtain ⟨rfl, rfl⟩ := Prod.mk.inj (Except.ok.inj h)
  have reported := runVerification_ok hrun
  exact ⟨by rw [reported.catalog_eq]; rfl, rfl⟩

private theorem keeps_consulting {α : Type} (f : Catalog → Except Error α) :
    Keeps Untouched (consulting f : EStateM Error (RevocationState ι) α) :=
  keeps_reading _

/-- Nothing before the mark touches the generations or the incidents. -/
theorem prepareRevocation_keeps : Keeps Untouched (prepareRevocation hashes peers run : EStateM Error (RevocationState ι) _) := by
  unfold prepareRevocation
  refine keeps_bind (keeps_consulting _) fun context => ?_
  refine keeps_bind (keeps_consulting _) fun old => ?_
  refine keeps_bind (keeps_consulting _) fun performed => ?_
  refine keeps_bind keeps_verification fun replacement => ?_
  refine keeps_bind (keeps_consulting _) fun _ => ?_
  refine keeps_bind keeps_verification fun rejection => ?_
  refine keeps_bind (keeps_consulting _) fun _ => ?_
  refine keeps_bind (keeps_consulting _) fun _ => ?_
  refine keeps_bind (keeps_consulting _) fun disabled => ?_
  exact keeps_pure _

private theorem untouched_superseded {s s' : RevocationState ι} (h : Untouched s s') :
    Superseded run s'.catalog ↔ Superseded run s.catalog := by
  unfold Superseded
  rw [h.1]

private theorem prepared_rejection {s s₁ : RevocationState ι} {ready : RevocationReady}
    (h : prepareRevocation hashes peers run s = .ok ready s₁) :
    ready.rejection.status = .passed ∧ ready.rejection.organisationId = run.organisationId ∧
      run.currentGenerationId = some ready.rejection.generationId ∧
      s₁.catalog.reports (run.organisationId, ready.rejection.id) = some ready.rejection := by
  unfold prepareRevocation at h
  simp only [bind_ok_iff, consulting, reading_ok, updating, writing_ok, raiseIf_ok, not_not] at h
  obtain ⟨context, _, -, old, _, -, performed, _, -, replacement, _, -, _, _, -, rejection, t, hrun, _, _, ⟨hpassed, rfl⟩,
    _, _, ⟨-, rfl⟩, disabled, _, ⟨-, rfl⟩, h⟩ := h
  obtain ⟨rfl, rfl⟩ := EStateM.Result.ok.inj h
  rw [bind_ok] at hrun
  obtain ⟨⟨found, catalog⟩, hrun, h⟩ := hrun
  obtain ⟨rfl, rfl⟩ := Prod.mk.inj (Except.ok.inj h)
  have reported := runVerification_ok hrun
  exact ⟨hpassed, reported.organisation, reported.generation, reported.stored⟩

private theorem markRevoked_ok {s s' : RevocationState ι} {rejection : VerificationReport}
    {generation : CredentialGeneration} (h : markRevoked peers run rejection s = .ok generation s') :
    ¬ Superseded run s'.catalog ∧ s'.incidents = s.incidents ∧
      ∃ generations, s'.catalog = { s.catalog with generations } := by
  unfold markRevoked updating at h
  rw [writing_ok, bind_ok] at h
  obtain ⟨⟨found, catalog⟩, hmark, h⟩ := h
  obtain ⟨rfl, rfl⟩ := Prod.mk.inj (Except.ok.inj h)
  rw [bind_ok] at hmark
  obtain ⟨current, hcurrent, hmark⟩ := hmark
  rw [requiredId_ok] at hcurrent
  rw [bind_ok] at hmark
  obtain ⟨⟨changed, store⟩, hrevoke, h⟩ := hmark
  obtain ⟨rfl, rfl⟩ := Prod.mk.inj (Except.ok.inj h)
  rcases Generation.revoke_ok hrevoke with ⟨before, hbefore, hbeforeState, rfl⟩ | ⟨rfl, hbefore, already⟩
  · refine ⟨?_, rfl, _, rfl⟩
    rintro ⟨other, hother, hstored, hstate⟩
    obtain rfl := Option.some.inj (hcurrent.symm.trans hother)
    obtain rfl := Option.some.inj ((Collection.set_same ..).symm.trans hstored)
    cases hstate
  · refine ⟨?_, rfl, s.catalog.generations, rfl⟩
    rintro ⟨other, hother, hstored, hstate⟩
    obtain rfl := Option.some.inj (hcurrent.symm.trans hother)
    obtain rfl := Option.some.inj (hbefore.symm.trans hstored)
    rw [already] at hstate
    cases hstate

private theorem markRevoked_total {s s₁ : RevocationState ι} {ready : RevocationReady}
    (h : prepareRevocation hashes peers run s = .ok ready s₁) (hsuperseded : Superseded run s₁.catalog) :
    ∃ generation s₂, markRevoked peers run ready.rejection s₁ = .ok generation s₂ := by
  obtain ⟨hpassed, horganisation, hgeneration, hstored⟩ := prepared_rejection h
  obtain ⟨generation, hcurrent, hfound, hstate⟩ := hsuperseded
  have hid : ready.rejection.generationId = generation.id := Option.some.inj (hgeneration.symm.trans hcurrent)
  have hrevoke : ∃ found, Generation.revoke s₁.catalog.toInventoryStore run.organisationId generation.id
      ready.rejection.id (peers.clock (.revoking ready.rejection.id)) = .ok found := by
    let marked := Generations.revoked generation (peers.clock (.revoking ready.rejection.id))
    refine ⟨(marked, { s₁.catalog.toInventoryStore with
      generations := s₁.catalog.generations.set (run.organisationId, generation.id) marked }), ?_⟩
    simp only [Generation.revoke, Generations.revoke, required_bind_ok]
    refine ⟨generation, hfound, ready.rejection, hstored, ?_⟩
    rw [if_neg (by rw [hstate]; decide)]
    simp only [unit_bind_ok, raiseIf_ok]
    exact ⟨not_not.mpr hstate, by simp [hpassed, horganisation, hid], rfl⟩
  obtain ⟨⟨changed, store⟩, hrevoke⟩ := hrevoke
  refine ⟨changed, { s₁ with catalog := { s₁.catalog with toInventoryStore := store } }, ?_⟩
  unfold markRevoked updating
  rw [writing_ok, hcurrent]
  simp only [requiredId, required, ok_bind, hrevoke]
  rfl

private theorem revocationChecks_ok {ready : RevocationReady} {catalog : Catalog} :
    RevocationProven hashes run catalog ready ↔
      (∃ checks, verificationChecks hashes catalog run ready.replacement .verify = .ok checks) ∧
        ∃ checks, revocationChecks ready.replacement ready.rejection ready.old.secretReference
          ready.context.browserPlaybook.isSome = .ok checks := by
  unfold revocationChecks
  simp only [unit_bind_ok, raiseIf_ok, not_not, not_and]
  constructor
  · exact fun h => ⟨h.verified, _, h.accepted, h.rejected, h.disabled, rfl⟩
  · rintro ⟨verified, checks, accepted, rejected, disabled, -⟩
    exact ⟨verified, accepted, rejected, disabled⟩

private theorem verificationChecks_unmarked {catalog : Catalog}
    {generations : Collection (Identifier × Identifier) CredentialGeneration} {report : VerificationReport} :
    verificationChecks hashes { catalog with generations } run report .verify =
      verificationChecks hashes catalog run report .verify :=
  rfl

def SameCatalog (s s' : RevocationState ι) : Prop := s'.catalog = s.catalog

instance : Std.Refl (SameCatalog (ι := ι)) := ⟨fun _ => rfl⟩

instance : IsTrans (RevocationState ι) SameCatalog := ⟨fun _ _ _ h h' => Eq.trans h' h⟩

private theorem containing_keeps : Keeps SameCatalog (containing contain) := by
  intro s
  unfold containing
  cases contain s.incidents <;> rfl

private theorem afterMark_keeps {ready : RevocationReady} : Keeps SameCatalog (afterMark hashes run contain ready) := by
  refine keeps_bind containing_keeps fun _ => ?_
  refine keeps_bind (keeps_reading _) fun _ => ?_
  exact keeps_bind (keeps_reading _) fun _ => keeps_pure _

private theorem conclude_proven {s s' : RevocationState ι} {ready : RevocationReady} {outcome : StageOutcome}
    (h : concludeRevocation hashes peers run contain ready s = .ok outcome s') :
    RevocationProven hashes run s.catalog ready := by
  rw [concludeRevocation, bind_ok_iff] at h
  obtain ⟨generation, s₂, hmark, h⟩ := h
  obtain ⟨-, -, generations, hcatalog⟩ := markRevoked_ok hmark
  unfold afterMark at h
  rw [bind_ok_iff] at h
  obtain ⟨_, s₃, hcontain, h⟩ := h
  have hkept : SameCatalog s₂ (left (containing contain s₂)) := containing_keeps s₂
  rw [hcontain] at hkept
  have hsame : s₃.catalog = s₂.catalog := hkept
  simp only [bind_ok_iff, consulting, reading_ok] at h
  obtain ⟨verified, _, ⟨hverified, rfl⟩, checks, _, ⟨hchecks, rfl⟩, -⟩ := h
  rw [hsame, hcatalog, verificationChecks_unmarked] at hverified
  exact revocationChecks_ok.mpr ⟨⟨verified, hverified⟩, checks, hchecks⟩

private theorem conclude_error {s s₁ s' : RevocationState ι} {ready : RevocationReady} {e : Error}
    (hprepare : prepareRevocation hashes peers run s = .ok ready s₁)
    (h : concludeRevocation hashes peers run contain ready s₁ = .error e s') : ¬ Superseded run s'.catalog := by
  rw [concludeRevocation, bind_run] at h
  cases hmark : markRevoked peers run ready.rejection s₁ with
  | error e' s₂ =>
    intro superseded
    have unchanged : s₂ = s₁ := by
      unfold markRevoked updating writing at hmark
      split at hmark
      · cases hmark
      · exact (EStateM.Result.error.inj hmark).2.symm
    rw [hmark] at h
    obtain ⟨-, rfl⟩ := EStateM.Result.error.inj h
    obtain ⟨generation, s₃, hmarked⟩ := markRevoked_total hprepare (unchanged ▸ superseded)
    rw [hmarked] at hmark
    cases hmark
  | ok generation s₂ =>
    rw [hmark] at h
    have kept : SameCatalog s₂ (left (afterMark hashes run contain ready s₂)) := afterMark_keeps s₂
    rw [show afterMark hashes run contain ready s₂ = .error e s' from h] at kept
    rw [show s'.catalog = s₂.catalog from kept]
    exact (markRevoked_ok hmark).1

private theorem prepared_old {s s₁ : RevocationState ι} {ready : RevocationReady}
    (h : prepareRevocation hashes peers run s = .ok ready s₁) : oldGeneration s.catalog run = .ok ready.old := by
  unfold prepareRevocation at h
  simp only [bind_ok_iff, consulting, reading_ok] at h
  obtain ⟨context, _, ⟨-, rfl⟩, old, _, ⟨hold, rfl⟩, performed, _, -, replacement, _, -, _, _, -, rejection, t, -, _, _, -,
    _, _, -, disabled, _, -, h⟩ := h
  obtain ⟨rfl, rfl⟩ := EStateM.Result.ok.inj h
  exact hold

end

def sampleRevokeDefinition : ControlDefinition where
  requiredChecks := requiredChecks
  allowedTools := {"verification.run", "provider.revokeCredential"}
  allowedRecoveryModes := {.rollback}
  maximumObservationSeconds := 3600
  requireRevokeApproval := true
  requireGenerationTelemetry := false
  probeVersions
    | .verify | .revoke => some [secretProbe.id, runtimeProbe.id]
    | _ => none
  accepted := by decide

def sampleRevokeControls : ControlVersion :=
  { sampleRolloutControls with
    definition := sampleRevokeDefinition
    digest := Hashing.sample.digest (definitionPayload sampleRevokeDefinition.toControlFields) }

def sampleUnstored : CredentialGeneration := { sampleGeneration .superseded with secretReference := none }

def sampleUnstoredCatalog : Catalog :=
  { sampleCatalog with
    controls := sampleCatalog.controls.set
      (sampleRevokeControls.organisationId, sampleRevokeControls.credentialId, sampleRevokeControls.id) sampleRevokeControls
    generations := sampleCatalog.generations.set (sampleUnstored.organisationId, sampleUnstored.id) sampleUnstored }

section
variable (reports : Collection (Identifier × Identifier) VerificationReport)

def sampleReported : Catalog := { sampleUnstoredCatalog with reports }

private theorem sampleReported_control :
    control Hashes.sample (sampleReported reports) (sampleDeployed .revoke 9) = .ok sampleRevokeControls :=
  control_ok.mpr ⟨rfl, rfl, rfl, rfl, rfl⟩

private theorem sampleReported_resolves {negative : Bool} {definition : ProbeDefinition}
    (h : definition = secretProbe ∨ definition = runtimeProbe) :
    resolveProbe Hashes.sample (sampleReported reports) (sampleDeployed .revoke 9) negative definition.id =
      .ok (sampleBound definition) := by
  simp only [resolveProbe, found_bind_ok, unit_bind_ok, raiseIf_ok]
  rcases h with rfl | rfl
  · refine ⟨sampleProbeVersion secretProbe, rfl, ?_, rfl⟩
    rintro (h | h)
    · exact h (by decide)
    · exact h rfl
  · refine ⟨sampleProbeVersion runtimeProbe, rfl, ?_, rfl⟩
    rintro (h | h)
    · exact h (by decide)
    · exact h rfl

private theorem sampleReported_probes {negative : Bool} {stage : Stage} (hstage : stage = .verify ∨ stage = .revoke) :
    probes Hashes.sample (sampleReported reports) (sampleDeployed .revoke 9) negative false stage =
      .ok [sampleBound secretProbe, sampleBound runtimeProbe] := by
  have hcollect : collect (declared sampleRevokeControls stage)
      (resolveProbe Hashes.sample (sampleReported reports) (sampleDeployed .revoke 9) negative) =
        .ok [sampleBound secretProbe, sampleBound runtimeProbe] := by
    rw [collect_ok]
    rcases hstage with rfl | rfl <;>
      exact .cons (sampleReported_resolves reports (.inl rfl)) (.cons (sampleReported_resolves reports (.inr rfl)) .nil)
  rw [probes, sampleReported_control, ok_bind, hcollect]
  rcases hstage with rfl | rfl <;> cases negative <;> rfl

def sampleVerdict (generation : Identifier) (scope : String) : VerificationReport :=
  report (reportIdOf Hashes.sample (sampleDeployed .revoke 9) scope) sampleCredential.organisationId RotationRun.sample.id
    generation [sampleResult secretProbe, sampleResult runtimeProbe] ⟨10, 0⟩ ⟨10, 0⟩ sampleResults_nonempty

private theorem sampleReported_runs {negative : Bool} {stage : Stage} (hstage : stage = .verify ∨ stage = .revoke)
    {scope : String} {generation : Identifier}
    (hgeneration : (if negative then (sampleDeployed .revoke 9).currentGenerationId
      else (sampleDeployed .revoke 9).targetGenerationId) = some generation)
    (hnew : reports (sampleCredential.organisationId, (sampleVerdict generation scope).id) = none) :
    runVerification Hashes.sample Peers.sample (sampleReported reports) (sampleDeployed .revoke 9) negative false
        (some stage) (some scope) =
      .ok (sampleVerdict generation scope, sampleReported
        (reports.set (sampleCredential.organisationId, (sampleVerdict generation scope).id) (sampleVerdict generation scope))) := by
  have hcredential : credential (sampleReported reports) (sampleDeployed .revoke 9) = .ok sampleCredential :=
    credential_ok.mpr rfl
  have hsave : saveReport (sampleReported reports).toInventoryStore (sampleVerdict generation scope) =
      .ok (sampleVerdict generation scope, { (sampleReported reports).toInventoryStore with
        reports := reports.set (sampleCredential.organisationId, (sampleVerdict generation scope).id)
          (sampleVerdict generation scope) }) := by
    have hfind : (sampleReported reports).reports ((sampleVerdict generation scope).organisationId,
      (sampleVerdict generation scope).id) = none := hnew
    rw [saveReport, hfind]
    rfl
  rw [runVerification, hcredential, ok_bind]
  simp only [Option.getD_some, sampleReported_probes reports hstage, ok_bind, hgeneration]
  change (saveReport (sampleReported reports).toInventoryStore (sampleVerdict generation scope) >>= _) = _
  rw [hsave]
  rfl

end

def sampleRevocation : RevocationState Unit := ⟨sampleReported sampleUnstoredCatalog.reports, ()⟩

def sampleApiContext : RotationContext where
  credential := sampleCredential
  provider := sampleProvider
  secretStore := sampleSecretStore
  bindings := [sampleStaged]
  browserPlaybook := none

private theorem sampleRevocation_context :
    rotationContext Hashes.sample Peers.sample sampleRevocation.catalog (sampleDeployed .revoke 9) = .ok sampleApiContext := by
  rfl

private theorem sampleRevocation_old :
    oldGeneration sampleRevocation.catalog (sampleDeployed .revoke 9) = .ok sampleUnstored := by
  rfl

private theorem sampleRevocation_provider : ∃ performed,
    revokeAtProvider Hashes.sample Peers.sample sampleRevocation.catalog (sampleDeployed .revoke 9) sampleApiContext
      sampleUnstored = .ok performed := by
  have hcontrol : control Hashes.sample sampleRevocation.catalog (sampleDeployed .revoke 9) = .ok sampleRevokeControls :=
    sampleReported_control _
  have hstep : ∃ result, executeOperation Hashes.sample Peers.sample sampleRevocation.catalog (sampleDeployed .revoke 9)
      (providerRevoke sampleProvider false) = .ok result := by
    rw [executeOperation, hcontrol, ok_bind]
    exact ⟨_, rfl⟩
  obtain ⟨result, hresult⟩ := hstep
  have hsteps : providerSteps Hashes.sample sampleRevocation.catalog (sampleDeployed .revoke 9) sampleApiContext .revoke =
      .ok [.operation (providerRevoke sampleProvider false)] := by
    rw [providerSteps, hcontrol]
    rfl
  have hcollect : collect [ProviderStep.operation (providerRevoke sampleProvider false)]
      (executeProviderStep Hashes.sample Peers.sample sampleRevocation.catalog (sampleDeployed .revoke 9) sampleApiContext
        .revoke) = .ok [result] :=
    collect_ok.mpr (.cons hresult .nil)
  have needed : requiresProviderRevocation sampleApiContext.browserPlaybook.isSome sampleUnstored.providerId = true := rfl
  rw [revokeAtProvider, if_pos needed, executeProviderSteps, hsteps, ok_bind]
  simp only [raiseIf, List.cons_ne_nil, if_false, ok_bind, hcollect]
  exact ⟨_, rfl⟩

private theorem sampleRevocation_prepares : ∃ ready s₁,
    prepareRevocation Hashes.sample Peers.sample (sampleDeployed .revoke 9) sampleRevocation = .ok ready s₁ := by
  obtain ⟨⟨outputs, evidence⟩, hperformed⟩ := sampleRevocation_provider
  have hreplacement := sampleReported_runs sampleUnstoredCatalog.reports (.inl rfl) (show (if false = true then _ else
    (sampleDeployed .revoke 9).targetGenerationId) = some sampleTarget.id from rfl)
    (show sampleUnstoredCatalog.reports (_, (sampleVerdict sampleTarget.id "replacement").id) = none from rfl)
  have hdistinct : (sampleVerdict sampleUnstored.id "old-rejected").id ≠ (sampleVerdict sampleTarget.id "replacement").id := by
    decide +kernel
  have hrejection := sampleReported_runs (sampleUnstoredCatalog.reports.set (sampleCredential.organisationId,
      (sampleVerdict sampleTarget.id "replacement").id) (sampleVerdict sampleTarget.id "replacement")) (.inr rfl)
    (show (if true = true then (sampleDeployed .revoke 9).currentGenerationId else _) = some sampleUnstored.id from rfl)
    (show _ = none from (Collection.set_of_ne fun h => hdistinct (Prod.mk.inj h).2).trans
      (show sampleUnstoredCatalog.reports (_, (sampleVerdict sampleUnstored.id "old-rejected").id) = none from rfl))
  have hpassed : ∀ generation scope, (sampleVerdict generation scope).status = .passed := fun _ _ => rfl
  unfold prepareRevocation consulting updating
  simp only [bind_run, reading, writing, sampleRevocation_context, sampleRevocation_old, hperformed]
  rw [show sampleRevocation.catalog = sampleReported sampleUnstoredCatalog.reports from rfl, hreplacement]
  simp only [ok_bind, pure, Except.pure, raiseIf, hpassed, ne_eq, not_true, if_false, hrejection]
  rw [if_neg (fun h => absurd h.1 (by decide))]
  exact ⟨_, _, rfl⟩

end Uumi.Coordinator
