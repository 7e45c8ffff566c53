import Uumi.Coordinator.Revocation
import Uumi.Inventory.Controls
import Uumi.Verifier.Probes

/-! The compiled controls of a credential at the gates of the coordinator: their probes are selected and bound, and
when they pass they support the checks that the controls require. -/
namespace Uumi.Coordinator
open Uumi.Contracts Uumi.Core Uumi.Foundations Uumi.Policy Uumi.Storage Uumi.Inventory

/-- A probe that the coordinator can bind at its stage. -/
structure GenerationBindable (browser : Bool) (template : Template) : Prop where
  generation : template.2.generationBinding = .target ∨ template.2.generationBinding = .current
  unexpected : template.2.expectedGenerationId = none
  polarity : ofRevocation template.2.kind = true → template.2.negative = decide (template.1 = .revoke)
  provider : template.2.targetBinding = .providerId → browser = false
  secret : template.2.kind = .secret → template.2.negative = false

def Declares (templates : List Template) (stage : Stage) (kind : ProbeKind) (negative : Bool) : Prop :=
  ∃ template ∈ templates, template.1 = stage ∧ template.2.kind = kind ∧ template.2.negative = negative

/-- The probes that the gates ask for. -/
structure Covering (browser telemetry : Bool) (templates : List Template) : Prop where
  secret : Declares templates .verify .secret false ∧ Declares templates .revoke .secret false
  runtime : Declares templates .verify .runtime false ∧ Declares templates .observe .runtime false
  provider : browser = false → ∀ kind ∈ [ProbeKind.provider, .credential],
    Declares templates .verify kind false ∧ Declares templates .revoke kind true
  plain : browser = true → ∀ template ∈ templates, ofRevocation template.2.kind = false
  telemetry : telemetry = true → Declares templates .verify .telemetry false ∧
    Declares templates .observe .telemetry false ∧ Declares templates .observe .telemetry true

section
variable {configuration : Configuration} {preferences : ControlPreferences} {management secretStore : Connection}
  {verification : Option Connection} {templates : List Template}

private theorem verification_none (h : configuration.verification management = .ok verification) :
    verification = none ↔ management.interface = .browser := by
  unfold Configuration.verification at h
  split at h
  · rename_i hbrowser
    cases h
    exact iff_of_true rfl hbrowser
  · rename_i hapi
    rw [required_bind_ok] at h
    obtain ⟨connection, -, h⟩ := h
    rw [pure_ok] at h
    subst h
    exact iff_of_false nofun hapi

private theorem credentialProbes_ok {stage : Stage} {generation : GenerationBinding} {negative : Bool}
    (h : configuration.credentialProbes management secretStore verification stage generation negative = .ok templates) :
    ∃ provider secret, configuration.providerProbes management secretStore verification stage generation negative =
        .ok provider ∧ configuration.secretProbe secretStore stage generation = .ok secret ∧
      templates = provider ++ [secret] := by
  unfold Configuration.credentialProbes at h
  rw [bind_ok] at h
  obtain ⟨provider, hprovider, h⟩ := h
  rw [bind_ok] at h
  obtain ⟨secret, hsecret, h⟩ := h
  rw [pure_ok] at h
  exact ⟨provider, secret, hprovider, hsecret, h.symm⟩

private theorem secretProbe_ok {stage : Stage} {generation : GenerationBinding} {template : Template}
    (h : configuration.secretProbe secretStore stage generation = .ok template) :
    ∃ target, template = (stage, { configuration.probe .secret secretStore.id target generation with
      targetBinding := .secretReference }) := by
  unfold Configuration.secretProbe at h
  rw [bind_ok] at h
  obtain ⟨target, -, h⟩ := h
  rw [pure_ok] at h
  exact ⟨target, h.symm⟩

private theorem providerProbes_plain {stage : Stage} {generation : GenerationBinding} {negative : Bool}
    (h : configuration.providerProbes management secretStore none stage generation negative = .ok templates) :
    templates = [] := by
  cases h
  rfl

private theorem providerProbes_ok {tested : Connection} {stage : Stage} {generation : GenerationBinding} {negative : Bool}
    (h : configuration.providerProbes management secretStore (some tested) stage generation negative = .ok templates) :
    ∃ target, templates = [
      (stage, { configuration.probe .provider management.id target generation with
        targetBinding := .providerId
        negative := negative }),
      (stage, { configuration.probe .credential tested.id target generation with
        targetBinding := .providerId
        negative := negative
        secretReference := configuration.credential.secretReference
        secretConnectionId := some secretStore.id })] := by
  unfold Configuration.providerProbes at h
  rw [bind_ok] at h
  obtain ⟨target, -, h⟩ := h
  rw [pure_ok] at h
  exact ⟨target, h.symm⟩

private theorem credentialProbes_bindable {stage : Stage} {generation : GenerationBinding} {negative : Bool}
    (hverification : configuration.verification management = .ok verification)
    (h : configuration.credentialProbes management secretStore verification stage generation negative = .ok templates)
    (hgeneration : generation = .target ∨ generation = .current) (hnegative : negative = decide (stage = .revoke)) :
    ∀ template ∈ templates, GenerationBindable (management.interface = .browser) template := by
  obtain ⟨provider, secret, hprovider, hsecret, rfl⟩ := credentialProbes_ok h
  obtain ⟨target, rfl⟩ := secretProbe_ok hsecret
  have hbrowser := verification_none hverification
  intro template ht
  rcases List.mem_append.mp ht with ht | ht
  · cases verification with
    | none =>
      rw [providerProbes_plain hprovider] at ht
      cases ht
    | some tested =>
      have hapi : decide (management.interface = .browser) = false := by
        simpa using fun hb => Option.some_ne_none _ (hbrowser.mpr hb)
      obtain ⟨target, rfl⟩ := providerProbes_ok hprovider
      simp only [List.mem_cons, List.not_mem_nil, or_false] at ht
      rcases ht with rfl | rfl <;> exact ⟨hgeneration, rfl, fun _ => hnegative, fun _ => hapi, nofun⟩
  · rw [List.mem_singleton] at ht
    subst ht
    exact ⟨hgeneration, rfl, nofun, nofun, fun _ => rfl⟩

private theorem credentialProbes_declared {stage : Stage} {generation : GenerationBinding} {negative : Bool}
    (hverification : configuration.verification management = .ok verification)
    (h : configuration.credentialProbes management secretStore verification stage generation negative = .ok templates) :
    Declares templates stage .secret false ∧
      (management.interface ≠ .browser → ∀ kind ∈ [ProbeKind.provider, .credential],
        Declares templates stage kind negative) ∧
      (management.interface = .browser → ∀ template ∈ templates, ofRevocation template.2.kind = false) := by
  obtain ⟨provider, secret, hprovider, hsecret, rfl⟩ := credentialProbes_ok h
  obtain ⟨target, rfl⟩ := secretProbe_ok hsecret
  have hbrowser := verification_none hverification
  refine ⟨⟨_, List.mem_append_right _ List.mem_cons_self, rfl, rfl, rfl⟩, fun hapi => ?_, fun hb => ?_⟩
  · cases verification with
    | none => exact absurd (hbrowser.mp rfl) hapi
    | some tested =>
      obtain ⟨target, rfl⟩ := providerProbes_ok hprovider
      simp [Declares, Configuration.probe]
  · rw [hbrowser.mpr hb] at hprovider
    rw [providerProbes_plain hprovider]
    simp [Configuration.probe, ofRevocation]

private theorem bindingProbes_bindable {binding : ConsumerBinding} {browser : Bool}
    (h : configuration.bindingProbes preferences binding = .ok templates) :
    ∀ template ∈ templates, GenerationBindable browser template ∧ ofRevocation template.2.kind = false := by
  obtain ⟨service, telemetry, -, htelemetry, runtime, rfl, rfl⟩ := bindingProbes_ok h
  intro template ht
  rcases List.mem_append.mp ht with ht | ht
  · simp only [List.mem_cons, List.not_mem_nil, or_false] at ht
    rcases ht with rfl | rfl <;> exact ⟨⟨.inl rfl, rfl, nofun, nofun, nofun⟩, rfl⟩
  · obtain ⟨probes, hprobes, ht⟩ := List.mem_flatten.mp ht
    obtain ⟨id, -, hok⟩ := collect_result htelemetry hprobes
    obtain ⟨connection, resource, target, -, -, -, health, rfl, rfl⟩ := telemetryProbes_ok hok
    simp only [List.mem_cons, List.not_mem_nil, or_false] at ht
    rcases ht with rfl | rfl | rfl
    · exact ⟨⟨.inl rfl, rfl, nofun, nofun, nofun⟩, rfl⟩
    · exact ⟨⟨.inl rfl, rfl, nofun, nofun, nofun⟩, rfl⟩
    · exact ⟨⟨.inr rfl, rfl, nofun, nofun, nofun⟩, rfl⟩

private theorem bindingProbes_runtime {binding : ConsumerBinding}
    (h : configuration.bindingProbes preferences binding = .ok templates) :
    Declares templates .verify .runtime false ∧ Declares templates .observe .runtime false := by
  obtain ⟨service, telemetry, -, -, runtime, rfl, rfl⟩ := bindingProbes_ok h
  exact ⟨⟨_, List.mem_append_left _ List.mem_cons_self, rfl, rfl, rfl⟩,
    ⟨_, List.mem_append_left _ (List.mem_cons_of_mem _ List.mem_cons_self), rfl, rfl, rfl⟩⟩

private theorem Declares.mono {templates others : List Template} {stage : Stage} {kind : ProbeKind} {negative : Bool}
    (h : Declares templates stage kind negative) (hsub : templates ⊆ others) : Declares others stage kind negative := by
  obtain ⟨template, ht, hrest⟩ := h
  exact ⟨template, hsub ht, hrest⟩

private theorem telemetryProbes_declared {id : Identifier}
    (h : configuration.telemetryProbes preferences id = .ok templates) :
    Declares templates .verify .telemetry false ∧ Declares templates .observe .telemetry false ∧
      Declares templates .observe .telemetry true := by
  obtain ⟨connection, resource, target, -, -, -, health, rfl, rfl⟩ := telemetryProbes_ok h
  simp [Declares, Configuration.probe]

private theorem bindingProbes_telemetry {binding : ConsumerBinding} {service : ConsumerService}
    (h : configuration.bindingProbes preferences binding = .ok templates)
    (hservice : lastWith ConsumerService.id configuration.services binding.serviceId = some service)
    (hids : service.telemetryConnectionIds ≠ []) :
    Declares templates .verify .telemetry false ∧ Declares templates .observe .telemetry false ∧
      Declares templates .observe .telemetry true := by
  obtain ⟨service', telemetry, hservice', htelemetry, runtime, rfl, rfl⟩ := bindingProbes_ok h
  obtain rfl := Option.some.inj (hservice.symm.trans hservice')
  obtain ⟨id, hid⟩ := List.exists_mem_of_ne_nil _ hids
  obtain ⟨probes, hprobes, hok⟩ := collect_value htelemetry hid
  obtain ⟨hverify, hobserve, hold⟩ := telemetryProbes_declared hok
  have hsub : probes ⊆ telemetry.flatten := fun template ht => List.mem_flatten.mpr ⟨probes, hprobes, ht⟩
  exact ⟨(hverify.mono hsub).mono (List.subset_append_right ..), (hobserve.mono hsub).mono (List.subset_append_right ..),
    (hold.mono hsub).mono (List.subset_append_right ..)⟩

private theorem templates_ok
    (h : configuration.templates preferences management secretStore verification = .ok templates) :
    ∃ accepted rejected consumers,
      configuration.credentialProbes management secretStore verification .verify .target false = .ok accepted ∧
      configuration.credentialProbes management secretStore verification .revoke .current true = .ok rejected ∧
      collect configuration.bindings (configuration.bindingProbes preferences) = .ok consumers ∧
      templates = accepted ++ rejected ++ consumers.flatten := by
  unfold Configuration.templates at h
  simp only [bind_ok, pure_ok] at h
  obtain ⟨accepted, haccepted, rejected, hrejected, consumers, hconsumers, rfl⟩ := h
  exact ⟨accepted, rejected, consumers, haccepted, hrejected, hconsumers, rfl⟩

private theorem templates_bindable (hverification : configuration.verification management = .ok verification)
    (h : configuration.templates preferences management secretStore verification = .ok templates) :
    ∀ template ∈ templates, GenerationBindable (management.interface = .browser) template := by
  obtain ⟨accepted, rejected, consumers, haccepted, hrejected, hconsumers, rfl⟩ := templates_ok h
  intro template ht
  rcases List.mem_append.mp ht with ht | ht
  · rcases List.mem_append.mp ht with ht | ht
    · exact credentialProbes_bindable hverification haccepted (.inl rfl) rfl template ht
    · exact credentialProbes_bindable hverification hrejected (.inr rfl) rfl template ht
  · obtain ⟨probes, hprobes, ht⟩ := List.mem_flatten.mp ht
    obtain ⟨binding, -, hok⟩ := collect_result hconsumers hprobes
    exact (bindingProbes_bindable hok template ht).1

private theorem templates_covering (hverification : configuration.verification management = .ok verification)
    (h : configuration.templates preferences management secretStore verification = .ok templates)
    (hbindings : configuration.bindings ≠ []) :
    Covering (management.interface = .browser) configuration.telemetryEnabled templates := by
  obtain ⟨accepted, rejected, consumers, haccepted, hrejected, hconsumers, rfl⟩ := templates_ok h
  obtain ⟨hsecret, hprovider, hplain⟩ := credentialProbes_declared hverification haccepted
  obtain ⟨hsecret', hprovider', hplain'⟩ := credentialProbes_declared hverification hrejected
  have haccepted_sub : accepted ⊆ accepted ++ rejected ++ consumers.flatten :=
    fun template ht => List.mem_append_left _ (List.mem_append_left _ ht)
  have hrejected_sub : rejected ⊆ accepted ++ rejected ++ consumers.flatten :=
    fun template ht => List.mem_append_left _ (List.mem_append_right _ ht)
  have hconsumers_sub : ∀ probes ∈ consumers, probes ⊆ accepted ++ rejected ++ consumers.flatten :=
    fun probes hprobes template ht => List.mem_append_right _ (List.mem_flatten.mpr ⟨probes, hprobes, ht⟩)
  refine ⟨⟨hsecret.mono haccepted_sub, hsecret'.mono hrejected_sub⟩, ?_, fun hb kind hkind => ?_,
    fun hb template ht => ?_, fun ht => ?_⟩
  · obtain ⟨binding, hbinding⟩ := List.exists_mem_of_ne_nil _ hbindings
    obtain ⟨probes, hprobes, hok⟩ := collect_value hconsumers hbinding
    obtain ⟨hverify, hobserve⟩ := bindingProbes_runtime hok
    exact ⟨hverify.mono (hconsumers_sub probes hprobes), hobserve.mono (hconsumers_sub probes hprobes)⟩
  · have hapi : management.interface ≠ .browser := of_decide_eq_false hb
    exact ⟨(hprovider hapi kind hkind).mono haccepted_sub, (hprovider' hapi kind hkind).mono hrejected_sub⟩
  · have hbrowser : management.interface = .browser := of_decide_eq_true hb
    rcases List.mem_append.mp ht with ht | ht
    · rcases List.mem_append.mp ht with ht | ht
      · exact hplain hbrowser template ht
      · exact hplain' hbrowser template ht
    · obtain ⟨probes, hprobes, ht⟩ := List.mem_flatten.mp ht
      obtain ⟨binding, -, hok⟩ := collect_result hconsumers hprobes
      have hbindable : GenerationBindable true template ∧ _ := bindingProbes_bindable hok template ht
      exact hbindable.2
  · obtain ⟨binding, hbinding, hwatched⟩ := List.any_eq_true.mp ht
    obtain ⟨service, hservice, hids⟩ := (Option.any_eq_true ..).mp hwatched
    obtain ⟨probes, hprobes, hok⟩ := collect_value hconsumers hbinding
    obtain ⟨hverify, hobserve, hold⟩ := bindingProbes_telemetry hok hservice (by simpa using hids)
    have hsub := hconsumers_sub probes hprobes
    exact ⟨hverify.mono hsub, hobserve.mono hsub, hold.mono hsub⟩

end

def atStage (probes : List (Stage × ProbeVersion)) (stage : Stage) : List ProbeVersion :=
  (probes.filter (·.1 = stage)).map Prod.snd

/-- The run pins the compiled controls, the catalog holds them and their probes, and what the run replaces and what
replaces it are recorded: with their secrets, and with their providers' identifiers unless a browser manages the
credential. -/
structure Installed (hashes : Hashes) (catalog : Catalog) (run : RotationRun) (management : Connection)
    (compiled : ControlDefinition × List ProbeVersion) : Prop where
  controls : ∃ version, control hashes catalog run = .ok version ∧ version.definition = compiled.1
  probes : ∀ version ∈ compiled.2, catalog.probes (run.organisationId, version.id) = some version
  generations : ∀ id ∈ [run.targetGenerationId, run.currentGenerationId], ∃ g generation, id = some g ∧
    catalog.generations (run.organisationId, g) = some generation ∧ generation.secretReference ≠ none ∧
    (management.interface ≠ .browser → generation.providerId ≠ none)
  deployments : run.deployments ≠ []

def BoundTo (version : ProbeVersion) (probe : BoundProbe) : Prop :=
  probe.definition = version.definition ∧ probe.expectedGenerationId.isSome = true

section
variable {hashes : Hashes} {catalog : Catalog} {run : RotationRun} {management : Connection}
  {compiled : ControlDefinition × List ProbeVersion}

private theorem boundGeneration_ok (h : Installed hashes catalog run management compiled) {binding : GenerationBinding}
    (hb : binding = .target ∨ binding = .current) :
    ∃ g generation, boundGeneration run binding = .ok (some g) ∧
      getGeneration catalog run.organisationId g = .ok generation ∧ generation.secretReference ≠ none ∧
      (management.interface ≠ .browser → generation.providerId ≠ none) := by
  rcases hb with rfl | rfl
  · obtain ⟨g, generation, hg, hfound, hrest⟩ := h.generations _ List.mem_cons_self
    refine ⟨g, generation, ?_, by rw [getGeneration, hfound]; rfl, hrest⟩
    rw [boundGeneration, hg]
    rfl
  · obtain ⟨g, generation, hg, hfound, hrest⟩ := h.generations _ (List.mem_cons_of_mem _ List.mem_cons_self)
    refine ⟨g, generation, ?_, by rw [getGeneration, hfound]; rfl, hrest⟩
    rw [boundGeneration, hg]
    rfl

private theorem boundTarget_ok {definition : ProbeDefinition} {generation : CredentialGeneration}
    (hsecret : generation.secretReference ≠ none)
    (hprovider : definition.targetBinding = .providerId → generation.providerId ≠ none) :
    ∃ target, boundTarget definition generation = .ok target := by
  unfold boundTarget
  split
  · rename_i htarget
    obtain ⟨value, hvalue⟩ := Option.ne_none_iff_exists'.mp (hprovider htarget)
    rw [hvalue]
    exact ⟨_, rfl⟩
  · obtain ⟨value, hvalue⟩ := Option.ne_none_iff_exists'.mp hsecret
    rw [hvalue]
    exact ⟨_, rfl⟩
  · exact ⟨_, rfl⟩

private theorem boundSecret_ok (definition : ProbeDefinition) {generation : CredentialGeneration}
    (hsecret : generation.secretReference ≠ none) : ∃ reference, boundSecret definition generation = .ok reference := by
  unfold boundSecret
  split
  · obtain ⟨value, hvalue⟩ := Option.ne_none_iff_exists'.mp hsecret
    rw [hvalue]
    exact ⟨_, rfl⟩
  · exact ⟨_, rfl⟩

private theorem bindProbe_ok (h : Installed hashes catalog run management compiled) {template : Template}
    (hbindable : GenerationBindable (management.interface = .browser) template) {definition : ProbeDefinition} {id : Identifier}
    (hfields : definition.toProbeFields = { template.2 with id := id }) :
    ∃ probe, bindProbe catalog run definition (template.1 = .revoke) = .ok probe ∧ probe.definition = definition ∧
      probe.expectedGenerationId.isSome = true := by
  obtain ⟨g, generation, hg, hfound, hsecret, hprovider⟩ := boundGeneration_ok h hbindable.generation
  have hpolarity : ¬ (ofRevocation definition.kind = true ∧
      definition.negative ≠ (decide (template.1 = .revoke) && ofRevocation definition.kind)) := by
    rintro ⟨hkind, hnegative⟩
    rw [hfields] at hkind hnegative
    rw [hkind, Bool.and_true] at hnegative
    exact hnegative (hbindable.polarity hkind)
  have hexpected : ¬ (definition.expectedGenerationId ≠ none ∧ definition.expectedGenerationId ≠ some g) := by
    rw [hfields]
    exact fun hne => hne.1 hbindable.unexpected
  have hbinding : boundGeneration run definition.generationBinding = .ok (some g) := by
    rw [hfields]
    exact hg
  have htarget : ∃ target, boundTarget definition generation = .ok target := by
    refine boundTarget_ok hsecret fun hproviderId => hprovider ?_
    rw [hfields] at hproviderId
    exact of_decide_eq_false (hbindable.provider hproviderId)
  obtain ⟨target, htarget⟩ := htarget
  obtain ⟨reference, hreference⟩ := boundSecret_ok definition hsecret
  unfold bindProbe
  rw [raiseIf_bind_of_not hpolarity, hbinding, ok_bind, raiseIf_bind_of_not hexpected]
  split
  · simp only [requiredId, required, ok_bind]
    rw [hfound, ok_bind, htarget, ok_bind, hreference, ok_bind]
    exact ⟨_, rfl, rfl, rfl⟩
  · exact ⟨_, rfl, rfl, rfl⟩

end

/-- Where the versions of compiled controls come from. -/
structure CompiledFrom (hashing : Hashing) (browser : Bool) (compiled : ControlDefinition × List ProbeVersion)
    (templates : List Template) (probes : List (Stage × ProbeVersion)) : Prop where
  added : List.Forall₂ (Added hashing) templates probes
  bindable : ∀ template ∈ templates, GenerationBindable browser template
  covering : Covering browser compiled.1.requireGenerationTelemetry templates
  versions : compiled.2 = probes.map Prod.snd
  declared : ∀ stage ∈ [.verify, .observe, .revoke],
    compiled.1.probeVersions stage = some ((atStage probes stage).map ProbeVersion.id)
  required : ∃ approval, compiled.1.requiredChecks = requiredChecksOf approval compiled.1.requireGenerationTelemetry

private theorem compiled_from {hashing : Hashing} {fresh : FreshIds} {configuration : Configuration}
    {preferences : ControlPreferences} {management : Connection} {compiled : ControlDefinition × List ProbeVersion}
    (h : compileControls hashing fresh configuration preferences = .ok compiled)
    (hmanagement : configuration.management = .ok management) :
    ∃ templates probes, CompiledFrom hashing (management.interface = .browser) compiled templates probes := by
  obtain ⟨management', secretStore, verification, templates, probes, rollback, hmanagement', -, hverification,
    htemplates, hprobes, hrollback, hfields, hversions⟩ := compileControls_ok h
  obtain rfl := Except.ok.inj (hmanagement.symm.trans hmanagement')
  have hbindings : configuration.bindings ≠ [] := by
    rintro hnil
    rw [Configuration.rollback, dif_neg (by rw [hnil]; exact fun hne => hne rfl)] at hrollback
    cases hrollback
  refine ⟨templates, probes, addProbes_ok hprobes, templates_bindable hverification htemplates, ?_, hversions, ?_, ?_⟩
  · rw [hfields]
    exact templates_covering hverification htemplates hbindings
  · intro stage hstage
    rw [hfields, compiledFields]
    change (if stage ∈ [.verify, .observe, .revoke] then some (assigned probes stage) else none) = _
    rw [if_pos hstage, assigned, atStage, List.map_map]
    rfl
  · rw [hfields]
    exact ⟨_, rfl⟩

section
variable {hashes : Hashes} {catalog : Catalog} {run : RotationRun} {management : Connection}
  {compiled : ControlDefinition × List ProbeVersion} {templates : List Template} {probes : List (Stage × ProbeVersion)}
  {stage : Stage}

private theorem atStage_added {hashing : Hashing} {browser : Bool}
    (h : CompiledFrom hashing browser compiled templates probes) {version : ProbeVersion}
    (hversion : version ∈ atStage probes stage) :
    version ∈ compiled.2 ∧ ∃ template ∈ templates, template.1 = stage ∧ Added hashing template (stage, version) := by
  obtain ⟨⟨stage', version'⟩, hmem, rfl⟩ := List.mem_map.mp hversion
  obtain ⟨hadded, hstage⟩ := List.mem_filter.mp hmem
  obtain rfl : stage' = stage := by simpa using hstage
  obtain ⟨template, ht, hfrom⟩ := paired_right h.added hadded
  refine ⟨?_, template, ht, hfrom.stage.symm, hfrom⟩
  rw [h.versions]
  exact List.mem_map_of_mem hadded

private theorem atStage_declared {hashing : Hashing} {browser : Bool}
    (h : CompiledFrom hashing browser compiled templates probes) {kind : ProbeKind} {negative : Bool}
    (hdeclares : Declares templates stage kind negative) :
    ∃ version ∈ atStage probes stage, version.definition.kind = kind ∧ version.definition.negative = negative := by
  obtain ⟨template, ht, hstage, hkind, hnegative⟩ := hdeclares
  obtain ⟨added, hadded, hfrom⟩ := paired_left h.added ht
  refine ⟨added.2, List.mem_map_of_mem (List.mem_filter.mpr ⟨hadded, ?_⟩), ?_, ?_⟩
  · simpa using hfrom.stage.trans hstage
  · rw [hfrom.fields]
    exact hkind
  · rw [hfrom.fields]
    exact hnegative

private theorem resolveProbe_ok (h : Installed hashes catalog run management compiled)
    (hfrom : CompiledFrom hashes.toHashing (management.interface = .browser) compiled templates probes)
    {version : ProbeVersion} (hversion : version ∈ atStage probes stage) :
    ∃ probe, resolveProbe hashes catalog run (stage = .revoke) version.id = .ok probe ∧ BoundTo version probe := by
  obtain ⟨hmem, template, ht, rfl, hadded⟩ := atStage_added hfrom hversion
  obtain ⟨probe, hprobe, hbound⟩ := bindProbe_ok h (hfrom.bindable template ht) hadded.fields
  refine ⟨probe, ?_, hbound⟩
  have hauthorised : ¬ (version.state ∉ [.active, .superseded] ∨
      version.digest ≠ hashes.digest (probePayload version.definition.toProbeFields)) := by
    rintro (hstate | hdigest)
    · rw [hadded.state] at hstate
      exact hstate List.mem_cons_self
    · exact hdigest hadded.digest
  unfold resolveProbe
  rw [h.probes version hmem]
  change (raiseIf _ _ >>= fun _ => _) = _
  rw [raiseIf_bind_of_not hauthorised]
  exact hprobe

private theorem bound_kinds {versions : List ProbeVersion} {bound : List BoundProbe}
    (h : List.Forall₂ BoundTo versions bound) :
    bound.map (fun probe => probe.definition.kind) = versions.map fun version => version.definition.kind := by
  induction h with
  | nil => rfl
  | cons head _ ih => rw [List.map_cons, List.map_cons, ih, head.1]

private theorem bound_hasKind {versions : List ProbeVersion} {bound : List BoundProbe}
    (h : List.Forall₂ BoundTo versions bound) {kind : ProbeKind} {negative : Bool}
    (hversion : ∃ version ∈ versions, version.definition.kind = kind ∧ version.definition.negative = negative) :
    hasKind bound kind negative := by
  obtain ⟨version, hv, hkind, hnegative⟩ := hversion
  obtain ⟨probe, hprobe, hbound⟩ := paired_left h hv
  refine ⟨probe, hprobe, ?_, ?_⟩
  · rw [hbound.1, hkind]
  · rw [hbound.1, hnegative]

private theorem kinds_managed {hashing : Hashing} (hfrom : CompiledFrom hashing true compiled templates probes) :
    browserManaged ((atStage probes stage).map fun version => version.definition.kind) = true := by
  rw [browserManaged, List.all_map, List.all_eq_true]
  intro version hversion
  obtain ⟨-, template, ht, -, hadded⟩ := atStage_added hfrom hversion
  have hplain := hfrom.covering.plain rfl template ht
  change (!ofRevocation version.definition.kind) = true
  rw [hadded.fields]
  simpa using hplain

private theorem checkProbes_ok {hashing : Hashing} {browser : Bool} {version : ControlVersion}
    (hfrom : CompiledFrom hashing browser compiled templates probes) (hversion : version.definition = compiled.1)
    {bound : List BoundProbe} (hbound : List.Forall₂ BoundTo (atStage probes stage) bound) :
    checkProbes version (stage = .revoke) (stage = .observe) stage bound = .ok () := by
  have hkinds := bound_kinds hbound
  simp only [checkProbes, unit_bind_ok, raiseIf_ok, hkinds]
  refine ⟨?_, ?_, ?_, ?_⟩
  · rintro ⟨-, hunbound⟩
    obtain ⟨probe, hprobe⟩ := List.exists_mem_of_ne_nil _ hunbound
    obtain ⟨hprobe, hnone⟩ := List.mem_filter.mp hprobe
    obtain ⟨version, -, hto⟩ := paired_right hbound hprobe
    have hsome := hto.2
    simp only [decide_eq_true_eq] at hnone
    rw [hnone.2] at hsome
    cases hsome
  · rintro ⟨hrevoke, hapi, hmissing⟩
    obtain rfl : stage = .revoke := of_decide_eq_true hrevoke
    cases browser with
    | true => exact hapi (kinds_managed hfrom)
    | false =>
      refine hmissing ⟨bound_hasKind hbound (atStage_declared hfrom ?_), bound_hasKind hbound (atStage_declared hfrom ?_)⟩
      · exact (hfrom.covering.provider rfl .provider (by decide)).2
      · exact (hfrom.covering.provider rfl .credential (by decide)).2
  · rintro ⟨hobserve, htelemetry, hmissing⟩
    obtain rfl : stage = .observe := of_decide_eq_true hobserve
    rw [hversion] at htelemetry
    obtain ⟨-, htarget, hold⟩ := hfrom.covering.telemetry htelemetry
    exact hmissing ⟨bound_hasKind hbound (atStage_declared hfrom htarget),
      bound_hasKind hbound (atStage_declared hfrom hold)⟩
  · rintro ⟨rfl, hmissing⟩
    refine hmissing fun kind hkind => ?_
    have hof : ∀ {kind negative}, Declares templates .verify kind negative →
        kind ∈ (atStage probes .verify).map fun version => version.definition.kind := by
      intro kind negative hdeclares
      obtain ⟨version, hv, hkind, -⟩ := atStage_declared hfrom hdeclares
      exact hkind ▸ List.mem_map_of_mem hv
    simp only [requiredKinds, List.mem_append, List.mem_cons, List.not_mem_nil, or_false] at hkind
    rcases hkind with ((rfl | rfl) | hkind) | hkind
    · exact hof hfrom.covering.secret.1
    · exact hof hfrom.covering.runtime.1
    · split at hkind
      · rename_i htelemetry
        rw [hversion] at htelemetry
        obtain rfl : kind = .telemetry := by simpa using hkind
        exact hof (hfrom.covering.telemetry htelemetry).1
      · cases hkind
    · split at hkind
      · cases hkind
      · rename_i hapi
        cases browser with
        | true => exact absurd (kinds_managed hfrom) hapi
        | false => exact hof (hfrom.covering.provider rfl kind hkind).1

private theorem declared_eq {hashing : Hashing} {browser : Bool} {version : ControlVersion}
    (hfrom : CompiledFrom hashing browser compiled templates probes) (hversion : version.definition = compiled.1)
    (hstage : stage ∈ [.verify, .observe, .revoke]) :
    declared version stage = (atStage probes stage).map ProbeVersion.id := by
  rw [declared, hversion, hfrom.declared stage hstage]
  rfl

private theorem probes_ok (stage : Stage) (h : Installed hashes catalog run management compiled)
    (hfrom : CompiledFrom hashes.toHashing (management.interface = .browser) compiled templates probes)
    (hstage : stage ∈ [.verify, .observe, .revoke]) :
    ∃ bound, Coordinator.probes hashes catalog run (stage = .revoke) (stage = .observe) stage = .ok bound ∧
      List.Forall₂ BoundTo (atStage probes stage) bound := by
  obtain ⟨version, hcontrol, hversion⟩ := h.controls
  have hdeclared := declared_eq hfrom hversion hstage
  have hnonempty : atStage probes stage ≠ [] := by
    simp only [List.mem_cons, List.not_mem_nil, or_false] at hstage
    intro hnil
    rcases hstage with rfl | rfl | rfl
    · obtain ⟨version, hv, -⟩ := atStage_declared hfrom hfrom.covering.secret.1
      exact absurd (hnil ▸ hv) List.not_mem_nil
    · obtain ⟨version, hv, -⟩ := atStage_declared hfrom hfrom.covering.runtime.2
      exact absurd (hnil ▸ hv) List.not_mem_nil
    · obtain ⟨version, hv, -⟩ := atStage_declared hfrom hfrom.covering.secret.2
      exact absurd (hnil ▸ hv) List.not_mem_nil
  obtain ⟨bound, hbound, hto⟩ := collect_total fun (version : ProbeVersion) (hv : version ∈ atStage probes stage) =>
    resolveProbe_ok h hfrom hv
  refine ⟨bound, ?_, hto⟩
  have hcollect : collect (declared version stage) (resolveProbe hashes catalog run (stage = .revoke)) = .ok bound := by
    rw [hdeclared, collect_ok, List.forall₂_map_left_iff]
    exact collect_ok.mp hbound
  unfold Coordinator.probes
  rw [hcontrol, ok_bind, raiseIf_bind_of_not (by rw [hdeclared]; simpa using hnonempty), hcollect, ok_bind,
    checkProbes_ok hfrom hversion hto]
  rfl

end

/-- A report on the results with which the executor let every probe pass. -/
structure Passes (bound : List BoundProbe) (report : VerificationReport) : Prop where
  results : List.Forall₂ (fun probe result => ∃ peers connection secret,
    Verifier.execute peers probe connection secret = .ok result) bound report.results
  status : report.status = .passed
  checks : ∀ result ∈ report.results, result.checks ⊆ report.checks

/-- The report of a verification whose probes all passed is such a report, if the executor ran them. -/
theorem runVerification_passes {hashes : Hashes} {peers : Peers} {s s' : Catalog} {run : RotationRun}
    {negative observation : Bool} {stage : Option Stage} {suffix : Option String} {report : VerificationReport}
    (hpeers : ∀ id probe connection context secret, ∃ asked,
      peers.executeProbe id probe connection context secret = Verifier.execute asked probe connection secret)
    (h : runVerification hashes peers s run negative observation stage suffix = .ok (report, s'))
    (hpassed : report.status = .passed) :
    ∃ bound, probes hashes s run negative observation (stage.getD run.stage) = .ok bound ∧ Passes bound report := by
  simp only [runVerification, bind_ok] at h
  obtain ⟨_, -, bound, hbound, connection, -, generationId, -, h⟩ := h
  simp only [verifyProbes, unit_bind_ok] at h
  obtain ⟨-, -, -, h⟩ := h
  rw [bind_ok] at h
  obtain ⟨results, hresults, h⟩ := h
  split at h
  · rw [bind_ok] at h
    obtain ⟨⟨saved, store⟩, hsave, h⟩ := h
    obtain ⟨rfl, -, -⟩ := saveReport_ok hsave
    rw [pure_ok, Prod.mk.injEq] at h
    obtain ⟨rfl, -⟩ := h
    refine ⟨bound, hbound, ?_, hpassed, fun result hresult check hcheck => ?_⟩
    · refine List.Forall₂.imp (fun probe result hrun => ?_) (collect_ok.mp hresults)
      simp only [runProbe, bind_ok] at hrun
      obtain ⟨connection, -, secret, -, hexecute⟩ := hrun
      obtain ⟨asked, hasked⟩ := hpeers _ probe connection _ secret
      exact ⟨asked, connection, secret, hasked ▸ hexecute⟩
    · exact Finset.mem_biUnion.mpr ⟨result, List.mem_toFinset.mpr hresult, hcheck⟩
  · cases h

abbrev supported (version : ProbeVersion) : Finset String :=
  Verifier.passingChecks version.definition.kind version.definition.negative true

section
variable {hashes : Hashes} {catalog : Catalog} {run : RotationRun} {management : Connection}
  {compiled : ControlDefinition × List ProbeVersion} {templates : List Template} {probes : List (Stage × ProbeVersion)}
  {stage : Stage} {versions : List ProbeVersion} {bound : List BoundProbe} {report : VerificationReport}

private theorem passes_supported (hto : List.Forall₂ BoundTo versions bound) (h : Passes bound report) :
    List.Forall₂ (fun version result => result.probeId = version.id ∧ supported version ⊆ result.checks) versions
      report.results := by
  have hresults : List.Forall₂ (fun probe result => result.probeId = probe.definition.id ∧
      Verifier.checksOf probe ⊆ result.checks) bound report.results := by
    obtain ⟨hlength, hzip⟩ := List.forall₂_iff_zip.mp h.results
    refine List.forall₂_iff_zip.mpr ⟨hlength, fun {probe result} hmem => ?_⟩
    obtain ⟨peers, connection, secret, hexecute⟩ := hzip hmem
    exact Verifier.execute_passed hexecute (report.passed h.status result (List.of_mem_zip hmem).2)
  refine paired_trans hto hresults fun version probe result hbound hresult => ?_
  obtain ⟨hdefinition, hidentified⟩ := hbound
  obtain ⟨hid, hchecks⟩ := hresult
  rw [Verifier.checksOf, hdefinition, hidentified] at hchecks
  rw [hdefinition, version.identity.1] at hid
  exact ⟨hid, hchecks⟩

private theorem passes_ids {results : List ProbeResult}
    (h : List.Forall₂ (fun version result => result.probeId = version.id ∧ supported version ⊆ result.checks) versions
      results) : results.map ProbeResult.probeId = versions.map ProbeVersion.id := by
  induction h with
  | nil => rfl
  | cons head _ ih => rw [List.map_cons, List.map_cons, ih, head.1]

private theorem results_supported (h : Installed hashes catalog run management compiled)
    (hfrom : CompiledFrom hashes.toHashing (management.interface = .browser) compiled templates probes)
    (hresults : List.Forall₂ (fun version result => result.probeId = version.id ∧ supported version ⊆ result.checks)
      (atStage probes stage) report.results) : ∀ version ∈ atStage probes stage,
    ∃ result ∈ report.results, resultOf report version.id = some result ∧ supported version ⊆ result.checks := by
  intro version hversion
  obtain ⟨other, hother, hid, -⟩ := paired_left hresults hversion
  have hsome : (resultOf report version.id).isSome = true := by
    rw [resultOf, List.find?_isSome]
    exact ⟨other, List.mem_reverse.mpr hother, by simpa using hid⟩
  obtain ⟨result, hresult⟩ := Option.isSome_iff_exists.mp hsome
  have hmem : result ∈ report.results := List.mem_reverse.mp (List.mem_of_find?_eq_some hresult)
  have hfound : result.probeId = version.id := by simpa using List.find?_some hresult
  obtain ⟨version', hversion', hid', hchecks⟩ := paired_right hresults hmem
  have hstored := h.probes version (atStage_added hfrom hversion).1
  have hstored' := h.probes version' (atStage_added hfrom hversion').1
  rw [← hid', hfound, hstored] at hstored'
  obtain rfl := Option.some.inj hstored'
  exact ⟨result, hmem, hresult, hchecks⟩

private theorem requireEvidence_ok {stage' : Stage} {kind : ProbeKind} {checks : Finset String} {negative : Option Bool}
    (hresults : ∀ version ∈ versions, ∃ result ∈ report.results, resultOf report version.id = some result ∧
      supported version ⊆ result.checks)
    (hexists : ∃ version ∈ versions, version.definition.kind = kind ∧
      (negative = none ∨ negative = some version.definition.negative))
    (hchecks : ∀ version ∈ versions, version.definition.kind = kind →
      (negative = none ∨ negative = some version.definition.negative) → checks ⊆ supported version) :
    requireEvidence report versions stage' kind checks negative = .ok () := by
  have hselect : ∃ selected, selectResults report versions kind negative = .ok selected ∧
      List.Forall₂ (fun (_ : ProbeVersion) (result : ProbeResult) => checks ⊆ result.checks)
        (versions.filter fun version => version.definition.kind = kind ∧
          (negative = none ∨ negative = some version.definition.negative)) selected := by
    refine collect_total fun version hversion => ?_
    obtain ⟨hversion, hkind⟩ := List.mem_filter.mp hversion
    obtain ⟨hkind, hnegative⟩ := of_decide_eq_true hkind
    obtain ⟨result, -, hresult, hsupported⟩ := hresults version hversion
    refine ⟨result, by rw [hresult]; rfl, (hchecks version hversion hkind hnegative).trans hsupported⟩
  obtain ⟨selected, hselected, hall⟩ := hselect
  obtain ⟨version, hversion, hkind⟩ := hexists
  obtain ⟨result, hresult, -⟩ := paired_left hall (List.mem_filter.mpr ⟨hversion, decide_eq_true hkind⟩)
  rw [requireEvidence, hselected, ok_bind, raiseIf_ok]
  rintro (hnil | ⟨result, hresult, hnot⟩)
  · rw [hnil] at hresult
    cases hresult
  · obtain ⟨version, -, hsub⟩ := paired_right hall hresult
    exact hnot hsub

private theorem revocation_polarity {hashing : Hashing} {browser : Bool}
    (hfrom : CompiledFrom hashing browser compiled templates probes) {version : ProbeVersion}
    (hversion : version ∈ atStage probes stage) (hkind : ofRevocation version.definition.kind = true) :
    version.definition.negative = decide (stage = .revoke) := by
  obtain ⟨-, template, ht, rfl, hadded⟩ := atStage_added hfrom hversion
  rw [hadded.fields] at hkind ⊢
  exact (hfrom.bindable template ht).polarity hkind

private theorem secret_polarity {hashing : Hashing} {browser : Bool}
    (hfrom : CompiledFrom hashing browser compiled templates probes) {version : ProbeVersion}
    (hversion : version ∈ atStage probes stage) (hkind : version.definition.kind = .secret) :
    version.definition.negative = false := by
  obtain ⟨-, template, ht, rfl, hadded⟩ := atStage_added hfrom hversion
  rw [hadded.fields] at hkind ⊢
  exact (hfrom.bindable template ht).secret hkind

private theorem runtime_evidence {stage' : Stage} {hashing : Hashing} {browser : Bool}
    (hfrom : CompiledFrom hashing browser compiled templates probes)
    (hresults : ∀ version ∈ atStage probes stage, ∃ result ∈ report.results,
      resultOf report version.id = some result ∧ supported version ⊆ result.checks)
    (hdeclares : Declares templates stage .runtime false) :
    requireEvidence report (atStage probes stage) stage' .runtime runtimeChecks = .ok () := by
  refine requireEvidence_ok hresults ?_ fun version _ hkind _ => ?_
  · obtain ⟨version, hversion, hkind, -⟩ := atStage_declared hfrom hdeclares
    exact ⟨version, hversion, hkind, .inl rfl⟩
  · rw [supported, hkind]
    cases version.definition.negative <;> decide

private theorem telemetry_evidence {stage' : Stage} {hashing : Hashing} {browser negative : Bool}
    {checks : Finset String} (hchecks : checks ⊆ Verifier.passingChecks .telemetry negative true)
    (hfrom : CompiledFrom hashing browser compiled templates probes)
    (hresults : ∀ version ∈ atStage probes stage, ∃ result ∈ report.results,
      resultOf report version.id = some result ∧ supported version ⊆ result.checks)
    (hdeclares : Declares templates stage .telemetry negative) :
    requireEvidence report (atStage probes stage) stage' .telemetry checks (some negative) = .ok () := by
  refine requireEvidence_ok hresults ?_ fun version _ hkind hnegative => ?_
  · obtain ⟨version, hversion, hkind, hnegative⟩ := atStage_declared hfrom hdeclares
    exact ⟨version, hversion, hkind, .inr (by rw [hnegative])⟩
  · obtain rfl : negative = version.definition.negative := by simpa using hnegative
    rw [supported, hkind]
    exact hchecks

private theorem provider_evidence {hashing : Hashing} {browser : Bool}
    (hfrom : CompiledFrom hashing browser compiled templates probes)
    (hresults : ∀ version ∈ atStage probes .verify, ∃ result ∈ report.results,
      resultOf report version.id = some result ∧ supported version ⊆ result.checks) :
    requireProvider report (atStage probes .verify) = .ok () := by
  unfold requireProvider
  split
  · rfl
  · rename_i hapi
    cases browser with
    | true => exact absurd (kinds_managed hfrom) hapi
    | false =>
      have hkind : ∀ kind ∈ [ProbeKind.provider, .credential], ∃ version ∈ atStage probes .verify,
          version.definition.kind = kind ∧
            ((none : Option Bool) = none ∨ none = some version.definition.negative) := by
        intro kind hkind
        obtain ⟨version, hversion, hkind, -⟩ := atStage_declared hfrom (hfrom.covering.provider rfl kind hkind).1
        exact ⟨version, hversion, hkind, .inl rfl⟩
      rw [unit_bind_ok]
      constructor
      · refine requireEvidence_ok hresults (hkind _ (by decide)) fun version hversion hkind _ => ?_
        rw [supported, revocation_polarity hfrom hversion (by rw [hkind]; rfl), hkind]
        decide
      · refine requireEvidence_ok hresults (hkind _ (by decide)) fun version hversion hkind _ => ?_
        rw [supported, revocation_polarity hfrom hversion (by rw [hkind]; rfl), hkind]
        decide

private theorem secret_evidence {hashing : Hashing} {browser : Bool}
    (hfrom : CompiledFrom hashing browser compiled templates probes)
    (hresults : ∀ version ∈ atStage probes .verify, ∃ result ∈ report.results,
      resultOf report version.id = some result ∧ supported version ⊆ result.checks) :
    requireEvidence report (atStage probes .verify) .verify .secret {"secret-version-enabled"} = .ok () := by
  refine requireEvidence_ok hresults ?_ fun version hversion hkind _ => ?_
  · obtain ⟨version, hversion, hkind, -⟩ := atStage_declared hfrom hfrom.covering.secret.1
    exact ⟨version, hversion, hkind, .inl rfl⟩
  · rw [supported, secret_polarity hfrom hversion hkind, hkind]
    decide

private theorem verificationChecks_eq (h : Installed hashes catalog run management compiled)
    (hfrom : CompiledFrom hashes.toHashing (management.interface = .browser) compiled templates probes)
    (hstage : stage ∈ [.verify, .observe, .revoke]) (hpasses : Passes bound report)
    (hto : List.Forall₂ BoundTo (atStage probes stage) bound) :
    ∃ version, version.definition = compiled.1 ∧ verificationChecks hashes catalog run report stage =
      match stage with
      | .verify => verifyChecks version run report (atStage probes stage)
      | .observe => observeChecks version report (atStage probes stage)
      | stage => .error (.value s!"stage {stage.value} does not use verification report checks") := by
  obtain ⟨version, hcontrol, hversion⟩ := h.controls
  have hdeclared := declared_eq hfrom hversion hstage
  have hids : report.results.map ProbeResult.probeId = declared version stage := by
    rw [hdeclared, passes_ids (passes_supported hto hpasses)]
  have hcollect : (collect (declared version stage) fun id =>
      found (catalog.probes (run.organisationId, id)) (FirestorePaths.probeVersion run.organisationId id)) =
        .ok (atStage probes stage) := by
    rw [hdeclared, collect_ok, List.forall₂_map_left_iff, List.forall₂_same]
    intro version hversion
    rw [h.probes version (atStage_added hfrom hversion).1]
    rfl
  refine ⟨version, hversion, ?_⟩
  unfold verificationChecks
  rw [raiseIf_bind_of_not (by rw [hpasses.status]; exact fun hne => hne rfl), hcontrol, ok_bind,
    raiseIf_bind_of_not (by rw [hids]; exact fun hne => hne rfl), hcollect]
  cases stage <;> rfl

private theorem verify_covers (h : Installed hashes catalog run management compiled)
    (hfrom : CompiledFrom hashes.toHashing (management.interface = .browser) compiled templates probes)
    (hpasses : Passes bound report) (hto : List.Forall₂ BoundTo (atStage probes .verify) bound) :
    ∃ checks, verificationChecks hashes catalog run report .verify = .ok checks ∧
      compiled.1.requiredChecks .verify ⊆ checks := by
  obtain ⟨version, hversion, heq⟩ := verificationChecks_eq h hfrom (by decide) hpasses hto
  obtain ⟨approval, hrequired⟩ := hfrom.required
  have hresults := results_supported h hfrom (passes_supported hto hpasses)
  have hdeployed : ¬ (run.deployments = [] ∨ ∃ deployment ∈ run.deployments, deployment.rollbackRevision.value = "") := by
    rintro (hnone | ⟨deployment, -, hempty⟩)
    · exact h.deployments hnone
    · have hbound := deployment.rollbackRevision.bounded.1
      rw [hempty] at hbound
      exact absurd hbound (by decide)
  rw [heq, hrequired]
  dsimp only
  unfold verifyChecks
  rw [provider_evidence hfrom hresults, ok_bind, secret_evidence hfrom hresults, ok_bind,
    runtime_evidence hfrom hresults hfrom.covering.runtime.1, ok_bind, raiseIf_bind_of_not hdeployed, hversion]
  cases htelemetry : compiled.1.requireGenerationTelemetry with
  | false => exact ⟨_, rfl, by cases approval <;> decide⟩
  | true =>
    rw [if_pos rfl, telemetry_evidence (by decide) hfrom hresults (hfrom.covering.telemetry htelemetry).1]
    exact ⟨_, rfl, by cases approval <;> decide⟩

private theorem observe_covers (h : Installed hashes catalog run management compiled)
    (hfrom : CompiledFrom hashes.toHashing (management.interface = .browser) compiled templates probes)
    (hpasses : Passes bound report) (hto : List.Forall₂ BoundTo (atStage probes .observe) bound) :
    ∃ checks, verificationChecks hashes catalog run report .observe = .ok checks ∧
      compiled.1.requiredChecks .observe ⊆ checks := by
  obtain ⟨version, hversion, heq⟩ := verificationChecks_eq h hfrom (by decide) hpasses hto
  obtain ⟨approval, hrequired⟩ := hfrom.required
  have hresults := results_supported h hfrom (passes_supported hto hpasses)
  rw [heq, hrequired]
  dsimp only
  unfold observeChecks
  rw [runtime_evidence hfrom hresults hfrom.covering.runtime.2, ok_bind, hversion]
  cases htelemetry : compiled.1.requireGenerationTelemetry with
  | false => exact ⟨_, rfl, by cases approval <;> decide⟩
  | true =>
    obtain ⟨-, hhealth, hold⟩ := hfrom.covering.telemetry htelemetry
    rw [if_pos rfl, telemetry_evidence (by decide) hfrom hresults hhealth, ok_bind,
      telemetry_evidence (by decide) hfrom hresults hold]
    exact ⟨_, rfl, by cases approval <;> decide⟩

private theorem report_supports (h : Installed hashes catalog run management compiled)
    (hfrom : CompiledFrom hashes.toHashing (management.interface = .browser) compiled templates probes)
    (hpasses : Passes bound report) (hto : List.Forall₂ BoundTo (atStage probes stage) bound)
    {kind : ProbeKind} {negative : Bool} (hdeclares : Declares templates stage kind negative) :
    Verifier.passingChecks kind negative true ⊆ report.checks := by
  obtain ⟨version, hversion, rfl, rfl⟩ := atStage_declared hfrom hdeclares
  obtain ⟨result, hmem, -, hsupported⟩ := results_supported h hfrom (passes_supported hto hpasses) version hversion
  exact hsupported.trans (hpasses.checks result hmem)

private theorem revocation_covers {accepted rejected : List BoundProbe} {replacement rejection : VerificationReport}
    (h : Installed hashes catalog run management compiled)
    (hfrom : CompiledFrom hashes.toHashing (management.interface = .browser) compiled templates probes)
    (hreplacement : Passes accepted replacement) (haccepted : List.Forall₂ BoundTo (atStage probes .verify) accepted)
    (hrejection : Passes rejected rejection) (hrejected : List.Forall₂ BoundTo (atStage probes .revoke) rejected)
    {reference : Option (Text 0 1024)} (hreference : reference ≠ none) :
    ∃ checks, revocationChecks replacement rejection reference (management.interface = .browser) = .ok checks ∧
      compiled.1.requiredChecks .revoke ⊆ checks := by
  obtain ⟨approval, hrequired⟩ := hfrom.required
  have hcovering := hfrom.covering
  have hsecret := report_supports h hfrom hrejection hrejected hcovering.secret.2
  have henabled : "secret-version-enabled" ∈ rejection.checks := hsecret (by decide)
  refine ⟨{"old-revoked", "replacement-valid", "old-rejected", "old-secret-disabled"}, ?_, ?_⟩
  · simp only [revocationChecks, unit_bind_ok, raiseIf_ok, pure_ok, and_true]
    cases hbrowser : decide (management.interface = .browser) with
    | true => simpa [hreference] using henabled
    | false =>
      obtain ⟨-, hprovider⟩ := hcovering.provider hbrowser .provider (by decide)
      obtain ⟨haccept, hreject⟩ := hcovering.provider hbrowser .credential (by decide)
      have haccept := report_supports h hfrom hreplacement haccepted haccept
      have hprovider := report_supports h hfrom hrejection hrejected hprovider
      have hreject := report_supports h hfrom hrejection hrejected hreject
      refine ⟨?_, ?_, hreference⟩
      · exact fun hmissing => hmissing.2 (haccept (by decide))
      · rw [not_not]
        refine Finset.union_subset (by simpa using henabled) (Finset.insert_subset (hprovider (by decide)) ?_)
        exact Finset.singleton_subset_iff.mpr (hreject (by decide))
  · rw [hrequired]
    cases approval <;> cases compiled.1.requireGenerationTelemetry <;> decide

private theorem rotationContext_browser {peers : Peers} {context : RotationContext}
    (h : rotationContext hashes peers catalog run = .ok context) :
    context.browserPlaybook.isSome = decide (context.provider.interface = .browser) := by
  simp only [rotationContext, bind_ok, pure_ok] at h
  obtain ⟨credential, -, provider, -, secretStore, -, -, -, -, -, bindings, -, -, -, playbook, hplaybook, rfl⟩ := h
  unfold browserPlaybook at hplaybook
  split at hplaybook
  · rename_i hbrowser
    simp only [bind_ok, pure_ok] at hplaybook
    obtain ⟨playbookId, -, versionId, -, version, -, -, -, -, -, rfl⟩ := hplaybook
    simpa using hbrowser
  · rename_i hapi
    rw [unit_bind_ok, pure_ok] at hplaybook
    obtain ⟨-, rfl⟩ := hplaybook
    simpa using hapi

private theorem oldGeneration_secret {old : CredentialGeneration} (h : Installed hashes catalog run management compiled)
    (hold : oldGeneration catalog run = .ok old) : old.secretReference ≠ none := by
  obtain ⟨g, generation, hg, hfound, hsecret, -⟩ := h.generations _ (List.mem_cons_of_mem _ List.mem_cons_self)
  simp only [oldGeneration, requiredId_bind_ok, getGeneration, found_ok] at hold
  obtain ⟨g', hg', hfound'⟩ := hold
  obtain rfl := Option.some.inj (hg.symm.trans hg')
  obtain rfl := Option.some.inj (hfound.symm.trans hfound')
  exact hsecret

end

def sampleInstalled (compiled : ControlDefinition × List ProbeVersion) : Catalog :=
  { sampleCatalog with
    controls := sampleCatalog.controls.set
      (sampleRolloutControls.organisationId, sampleRolloutControls.credentialId, sampleRolloutControls.id)
      { sampleRolloutControls with
        definition := compiled.1
        digest := Hashing.sample.digest (definitionPayload compiled.1.toControlFields) }
    probes := fun key => compiled.2.find? (·.id = key.2) }

private theorem sampleInstalled_ok {compiled : ControlDefinition × List ProbeVersion}
    (h : (compiled.2.map ProbeVersion.id).Nodup) :
    Installed .sample (sampleInstalled compiled) (sampleDeployed .verify 6) sampleTestedProvider compiled := by
  refine ⟨⟨_, control_ok.mpr ⟨rfl, rfl, rfl, rfl, rfl⟩, rfl⟩, fun version hv => find_of_key ProbeVersion.id h hv,
    fun id hid => ?_, by decide⟩
  rcases List.mem_cons.mp hid with rfl | hid
  · exact ⟨sampleTarget.id, sampleTarget, rfl, rfl, by decide, fun _ => by decide⟩
  · obtain rfl := List.mem_singleton.mp hid
    exact ⟨_, sampleGeneration .active, rfl, rfl, by decide, fun _ => by decide⟩

end Uumi.Coordinator
