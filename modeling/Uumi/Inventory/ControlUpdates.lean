import Uumi.Inventory.Controls

/-! Updating controls against compiling them again. -/
namespace Uumi.Inventory
open Uumi.Contracts Uumi.Core Uumi.Foundations Uumi.Policy

def erased (probe : ProbeFields) : ProbeFields := { probe with id := ⟨"probeversion", by decide⟩ }

def resolved (fields : ControlFields) (probes : List ProbeVersion) (stage : Stage) : Option (List (Option ProbeFields)) :=
  (fields.probeVersions stage).map fun ids => ids.map fun id =>
    (probes.find? (ProbeVersion.id · = id)).map fun version => erased version.definition.toProbeFields

def withoutProbes (fields : ControlFields) : ControlFields := { fields with probeVersions := fun _ => none }

/-- The updated controls are those that the new preferences compile to, up to the identifiers of the probes; they are
valid, and earlier updates leave no trace in them. -/
structure UpdateAgrees (compiled recompiled : ControlDefinition × List ProbeVersion) (preferences : ControlPreferences) :
    Prop where
  fields : withoutProbes (updateControls compiled.1.toControlFields preferences) =
    withoutProbes recompiled.1.toControlFields
  probes : ∀ stage, resolved (updateControls compiled.1.toControlFields preferences) compiled.2 stage =
    resolved recompiled.1.toControlFields recompiled.2 stage
  valid : (updateControls compiled.1.toControlFields preferences).validateCoverage = .ok ()
  sequence : ∀ earlier : List ControlPreferences,
    (earlier ++ [preferences]).foldl updateControls compiled.1.toControlFields =
      updateControls compiled.1.toControlFields preferences

private theorem browser_allowed (browserManaged telemetry : Bool) :
    "browser.secure-capture" ∈ allowedTools browserManaged telemetry ↔ browserManaged = true := by
  cases browserManaged <;> cases telemetry <;> decide

private theorem tools_updated (browserManaged before after : Bool) :
    updatedTools browserManaged after (protectedTools browserManaged before) = protectedTools browserManaged after := by
  cases browserManaged <;> cases before <;> cases after <;> decide

private theorem checks_updated (telemetry before after : Bool) :
    updatedChecks after (requiredChecksOf before telemetry) = requiredChecksOf after telemetry := by
  funext stage
  cases stage with
  | preflight => cases before <;> cases after <;> cases telemetry <;> decide
  | approval => rfl
  | trigger | plan | create | store | deploy | verify | rollout | observe | revoke | complete => rfl

/-- Updating compiled controls is compiling them with the new preferences around the old probes. -/
theorem update_compiled (configuration : Configuration) (before after : ControlPreferences) (browserManaged : Bool)
    (probes : List (Stage × ProbeVersion)) (rollback : RecoveryBranch) :
    updateControls (compiledFields configuration before browserManaged probes rollback) after =
      compiledFields configuration after browserManaged probes rollback := by
  simp only [updateControls, compiledFields, browser_allowed, Bool.decide_eq_true, tools_updated, checks_updated]

private theorem tools_twice (browserManaged before after : Bool) (tools : Finset String) :
    updatedTools browserManaged after (updatedTools browserManaged before tools) =
      updatedTools browserManaged after tools := by
  ext tool
  cases browserManaged <;> cases before <;> cases after <;>
    simp only [updatedTools, Bool.false_eq_true, if_true, if_false, Finset.mem_union, Finset.mem_sdiff,
      Finset.mem_insert] <;> tauto

private theorem checks_twice (before after : Bool) (checks : Stage → Finset String) :
    updatedChecks after (updatedChecks before checks) = updatedChecks after checks := by
  funext stage
  cases stage with
  | preflight =>
    ext check
    cases before <;> cases after <;>
      simp only [updatedChecks, Bool.false_eq_true, if_true, if_false, Finset.mem_union, Finset.mem_sdiff] <;> tauto
  | approval => rfl
  | trigger | plan | create | store | deploy | verify | rollout | observe | revoke | complete => rfl

/-- An update takes nothing over from the update before. -/
theorem update_update (fields : ControlFields) (before after : ControlPreferences) :
    updateControls (updateControls fields before) after = updateControls fields after := by
  simp only [updateControls, checks_twice]
  congr 1
  exact tools_twice _ _ _ _

private theorem update_last (fields : ControlFields) (earlier : List ControlPreferences) (preferences : ControlPreferences) :
    (earlier ++ [preferences]).foldl updateControls fields = updateControls fields preferences := by
  induction earlier generalizing fields with
  | nil => rfl
  | cons first rest ih =>
    rw [List.cons_append, List.foldl_cons, ih, update_update]

private theorem Added.erased {hashing : Hashing} {template : Template} {added : Stage × ProbeVersion}
    (h : Added hashing template added) :
    added.1 = template.1 ∧ erased added.2.definition.toProbeFields = erased template.2 := by
  rw [h.fields]
  exact ⟨h.stage, rfl⟩

private theorem resolved_assigned {templates : List Template} {probes : List (Stage × ProbeVersion)}
    (hforall : List.Forall₂ (fun template added => added.1 = template.1 ∧
      erased added.2.definition.toProbeFields = erased template.2) templates probes)
    (hnodup : (probes.map fun added => added.2.id).Nodup) (stage : Stage) :
    ((assigned probes stage).map fun id => ((probes.map Prod.snd).find? (ProbeVersion.id · = id)).map
        fun version => erased version.definition.toProbeFields) =
      (templates.filter (·.1 = stage)).map fun template => some (erased template.2) := by
  have hfound : ∀ added ∈ probes, (probes.map Prod.snd).find? (ProbeVersion.id · = added.2.id) = some added.2 := by
    intro added hadded
    refine find_of_key ProbeVersion.id ?_ (List.mem_map_of_mem hadded)
    rw [List.map_map]
    exact hnodup
  have hprobes : ((assigned probes stage).map fun id => ((probes.map Prod.snd).find? (ProbeVersion.id · = id)).map
      fun version => erased version.definition.toProbeFields) =
        (probes.filter (·.1 = stage)).map fun added => some (erased added.2.definition.toProbeFields) := by
    rw [assigned, List.map_map]
    refine List.map_congr_left fun added hadded => ?_
    change ((probes.map Prod.snd).find? (ProbeVersion.id · = added.2.id)).map _ = _
    rw [hfound added (List.mem_of_mem_filter hadded)]
    rfl
  rw [hprobes]
  clear hfound hprobes hnodup
  induction hforall with
  | nil => rfl
  | @cons template added templates probes h hforall ih =>
    obtain ⟨hstage, herased⟩ := h
    by_cases hs : template.1 = stage
    · rw [List.filter_cons_of_pos (by simpa [hstage] using hs), List.filter_cons_of_pos (by simpa using hs),
        List.map_cons, List.map_cons, ih, herased]
    · rw [List.filter_cons_of_neg (by simpa [hstage] using hs), List.filter_cons_of_neg (by simpa using hs), ih]

def rewindow (windowSeconds : Nat) (template : Template) : Template :=
  (template.1, { template.2 with telemetry := template.2.telemetry.map ({ · with windowSeconds }) })

/-- The second probes are the first ones with the window of other preferences. -/
structure Rewound (before after : ControlPreferences) (first second : List Template) : Prop where
  eq : second = first.map (rewindow after.maximumObservationSeconds)
  windows : ∀ template ∈ first, ∀ thresholds ∈ template.2.telemetry,
    thresholds.windowSeconds = before.maximumObservationSeconds

section
variable {configuration : Configuration} {before after : ControlPreferences} {first second : List Template}

private theorem rewindow_plain {template : Template} (h : template.2.telemetry = none) (windowSeconds : Nat) :
    rewindow windowSeconds template = template := by
  obtain ⟨stage, probe⟩ := template
  change probe.telemetry = none at h
  rw [rewindow, h]
  change (stage, { probe with telemetry := none }) = (stage, probe)
  rw [← h]

private theorem rewindow_same {template : Template} {thresholds : TelemetryThresholds}
    (h : template.2.telemetry = some thresholds) {windowSeconds : Nat} (hwindow : thresholds.windowSeconds = windowSeconds) :
    rewindow windowSeconds template = template := by
  obtain ⟨stage, probe⟩ := template
  change probe.telemetry = some thresholds at h
  subst hwindow
  rw [rewindow, h]
  change (stage, { probe with telemetry := some thresholds }) = (stage, probe)
  rw [← h]

private theorem rewound_plain (h : ∀ template ∈ first, template.2.telemetry = none) :
    Rewound before after first first where
  eq := by rw [List.map_congr_left fun template ht => rewindow_plain (h template ht) _, List.map_id']
  windows template ht thresholds hthresholds := by
    rw [h template ht] at hthresholds
    cases hthresholds

private theorem Rewound.append {first' second' : List Template} (h : Rewound before after first second)
    (h' : Rewound before after first' second') : Rewound before after (first ++ first') (second ++ second') where
  eq := by rw [h.eq, h'.eq, List.map_append]
  windows template ht := (List.mem_append.mp ht).elim (h.windows template) (h'.windows template)

private theorem rewound_flatten {firsts seconds : List (List Template)}
    (h : List.Forall₂ (Rewound before after) firsts seconds) :
    Rewound before after firsts.flatten seconds.flatten := by
  induction h with
  | nil => exact ⟨rfl, fun template ht => absurd ht List.not_mem_nil⟩
  | cons h _ ih => exact h.append ih

private theorem collect_related {α β : Type} {items : List α} {f g : α → Except Error β} {R : β → β → Prop}
    {results others : List β} (hf : collect items f = .ok results) (hg : collect items g = .ok others)
    (h : ∀ item ∈ items, ∀ result other, f item = .ok result → g item = .ok other → R result other) :
    List.Forall₂ R results others := by
  rw [collect_ok] at hf hg
  induction hf generalizing others with
  | nil =>
    cases hg
    exact .nil
  | cons hfirst _ ih =>
    cases hg with
    | cons hsecond hrest =>
      exact .cons (h _ List.mem_cons_self _ _ hfirst hsecond)
        (ih hrest fun item hitem => h item (List.mem_cons_of_mem _ hitem))

private theorem credentialProbes_plain {management secretStore : Connection} {verification : Option Connection}
    {stage : Stage} {generation : GenerationBinding} {negative : Bool}
    (h : configuration.credentialProbes management secretStore verification stage generation negative = .ok first) :
    ∀ template ∈ first, template.2.telemetry = none := by
  unfold Configuration.credentialProbes at h
  rw [bind_ok] at h
  obtain ⟨provider, hprovider, h⟩ := h
  rw [bind_ok] at h
  obtain ⟨secret, hsecret, h⟩ := h
  rw [pure_ok] at h
  subst h
  have hplain : ∀ template ∈ provider, template.2.telemetry = none := by
    unfold Configuration.providerProbes at hprovider
    split at hprovider
    · cases hprovider
      exact fun template ht => absurd ht List.not_mem_nil
    · rw [bind_ok] at hprovider
      obtain ⟨target, -, hprovider⟩ := hprovider
      rw [pure_ok] at hprovider
      subst hprovider
      simp [Configuration.probe]
  have hsecretPlain : secret.2.telemetry = none := by
    unfold Configuration.secretProbe at hsecret
    rw [bind_ok] at hsecret
    obtain ⟨target, -, hsecret⟩ := hsecret
    rw [pure_ok] at hsecret
    subst hsecret
    rfl
  intro template ht
  rcases List.mem_append.mp ht with ht | ht
  · exact hplain template ht
  · rw [List.mem_singleton] at ht
    rw [ht]
    exact hsecretPlain

private theorem telemetryProbes_rewound {id : Identifier} (h : configuration.telemetryProbes before id = .ok first)
    (h' : configuration.telemetryProbes after id = .ok second) : Rewound before after first second := by
  obtain ⟨connection, resource, target, hconnection, hresource, htarget, health, rfl, rfl⟩ := telemetryProbes_ok h
  obtain ⟨connection', resource', target', hconnection', hresource', htarget', health', rfl, rfl⟩ :=
    telemetryProbes_ok h'
  obtain rfl := Except.ok.inj (hconnection.symm.trans hconnection')
  obtain rfl := Option.some.inj (hresource.symm.trans hresource')
  obtain rfl := Except.ok.inj (htarget.symm.trans htarget')
  refine ⟨rfl, fun template ht thresholds hthresholds => ?_⟩
  simp only [List.mem_cons, List.not_mem_nil, or_false] at ht
  rcases ht with rfl | rfl | rfl <;> (obtain rfl := Option.some.inj hthresholds; rfl)

private theorem bindingProbes_rewound {binding : ConsumerBinding}
    (h : configuration.bindingProbes before binding = .ok first)
    (h' : configuration.bindingProbes after binding = .ok second) : Rewound before after first second := by
  obtain ⟨service, telemetry, hservice, htelemetry, runtime, rfl, rfl⟩ := bindingProbes_ok h
  obtain ⟨service', telemetry', hservice', htelemetry', runtime', rfl, rfl⟩ := bindingProbes_ok h'
  obtain rfl := Option.some.inj (hservice.symm.trans hservice')
  refine (rewound_plain ?_).append (rewound_flatten (collect_related htelemetry htelemetry' ?_))
  · simp [Configuration.probe]
  · exact fun id _ first second h h' => telemetryProbes_rewound h h'

private theorem templates_rewound {management secretStore : Connection} {verification : Option Connection}
    (h : configuration.templates before management secretStore verification = .ok first)
    (h' : configuration.templates after management secretStore verification = .ok second) :
    Rewound before after first second := by
  unfold Configuration.templates at h h'
  simp only [bind_ok, pure_ok] at h h'
  obtain ⟨accepted, haccepted, rejected, hrejected, consumers, hconsumers, rfl⟩ := h
  obtain ⟨accepted', haccepted', rejected', hrejected', consumers', hconsumers', rfl⟩ := h'
  obtain rfl := Except.ok.inj (haccepted.symm.trans haccepted')
  obtain rfl := Except.ok.inj (hrejected.symm.trans hrejected')
  refine ((rewound_plain (credentialProbes_plain haccepted)).append
    (rewound_plain (credentialProbes_plain hrejected))).append (rewound_flatten (collect_related hconsumers hconsumers' ?_))
  exact fun binding _ first second h h' => bindingProbes_rewound h h'

private def watched (configuration : Configuration) (binding : ConsumerBinding) : Bool :=
  (lastWith ConsumerService.id configuration.services binding.serviceId).any fun service =>
    service.telemetryConnectionIds ≠ []

private theorem bindingProbes_unwatched {binding : ConsumerBinding}
    (h : configuration.bindingProbes before binding = .ok first) (hwatched : watched configuration binding = false) :
    ∀ template ∈ first, template.2.telemetry = none := by
  obtain ⟨service, telemetry, hservice, htelemetry, runtime, rfl, rfl⟩ := bindingProbes_ok h
  rw [watched, hservice] at hwatched
  have hnone : service.telemetryConnectionIds = [] := by simpa using hwatched
  rw [hnone] at htelemetry
  cases htelemetry
  simp [Configuration.probe]

private theorem bindingProbes_watched {binding : ConsumerBinding}
    (h : configuration.bindingProbes before binding = .ok first) (hwatched : watched configuration binding = true) :
    ∃ template ∈ first, template.1 = .verify ∧ template.2.telemetry ≠ none := by
  obtain ⟨service, telemetry, hservice, htelemetry, runtime, rfl, rfl⟩ := bindingProbes_ok h
  rw [watched, hservice] at hwatched
  have hsome : service.telemetryConnectionIds ≠ [] := by simpa using hwatched
  obtain ⟨id, ids, hids⟩ := List.exists_cons_of_ne_nil hsome
  rw [hids, collect_ok] at htelemetry
  cases htelemetry with
  | cons hprobes _ =>
    obtain ⟨connection, resource, target, -, -, -, health, rfl, rfl⟩ := telemetryProbes_ok hprobes
    exact ⟨_, List.mem_append_right _ (List.mem_flatten.mpr ⟨_, List.mem_cons_self, List.mem_cons_self⟩), rfl, nofun⟩

private theorem templates_telemetry {management secretStore : Connection} {verification : Option Connection}
    (h : configuration.templates before management secretStore verification = .ok first) :
    if configuration.telemetryEnabled then ∃ template ∈ first, template.1 = .verify ∧ template.2.telemetry ≠ none
    else ∀ template ∈ first, template.2.telemetry = none := by
  unfold Configuration.templates at h
  simp only [bind_ok, pure_ok] at h
  obtain ⟨accepted, haccepted, rejected, hrejected, consumers, hconsumers, rfl⟩ := h
  have henabled : configuration.telemetryEnabled = configuration.bindings.any (watched configuration) := rfl
  rw [henabled]
  split
  · rename_i hany
    obtain ⟨binding, hbinding, hwatched⟩ := List.any_eq_true.mp hany
    obtain ⟨probes, hprobes, hok⟩ := collect_value hconsumers hbinding
    obtain ⟨template, ht, htemplate⟩ := bindingProbes_watched hok hwatched
    exact ⟨template, List.mem_append_right _ (List.mem_flatten.mpr ⟨probes, hprobes, ht⟩), htemplate⟩
  · rename_i hnone
    intro template ht
    rcases List.mem_append.mp ht with ht | ht
    · rcases List.mem_append.mp ht with ht | ht
      · exact credentialProbes_plain haccepted template ht
      · exact credentialProbes_plain hrejected template ht
    · obtain ⟨probes, hprobes, ht⟩ := List.mem_flatten.mp ht
      obtain ⟨binding, hbinding, hok⟩ := collect_result hconsumers hprobes
      refine bindingProbes_unwatched hok ?_ template ht
      rw [← Bool.not_eq_true]
      exact fun hwatched => hnone (List.any_eq_true.mpr ⟨binding, hbinding, hwatched⟩)

end

section
variable {hashing : Hashing} {fresh fresh' : FreshIds} {configuration : Configuration}
  {before after : ControlPreferences} {compiled recompiled : ControlDefinition × List ProbeVersion}

private theorem resolved_compiled {browserManaged : Bool} {rollback : RecoveryBranch} {templates : List Template}
    {probes : List (Stage × ProbeVersion)} (hdistinct : ((probes.map Prod.snd).map ProbeVersion.id).Nodup)
    (h : configuration.addProbes hashing fresh 0 templates = .ok probes) (stage : Stage) :
    resolved (compiledFields configuration before browserManaged probes rollback) (probes.map Prod.snd) stage =
      if stage ∈ [.verify, .observe, .revoke] then
        some ((templates.filter (·.1 = stage)).map fun template => some (erased template.2))
      else none := by
  rw [List.map_map] at hdistinct
  change Option.map _ (if stage ∈ [.verify, .observe, .revoke] then some (assigned probes stage) else none) = _
  split
  · rw [Option.map_some, resolved_assigned ((addProbes_ok h).imp fun _ _ => Added.erased) hdistinct]
  · rfl

private theorem resolved_iff {first second : List Template} (h : Rewound before after first second)
    (htelemetry : if configuration.telemetryEnabled then
      ∃ template ∈ first, template.1 = .verify ∧ template.2.telemetry ≠ none
      else ∀ template ∈ first, template.2.telemetry = none) :
    (∀ stage ∈ [.verify, .observe, .revoke], (first.filter (·.1 = stage)).map (fun template => some (erased template.2)) =
      (second.filter (·.1 = stage)).map fun template => some (erased template.2)) ↔
      configuration.telemetryEnabled = false ∨
        before.maximumObservationSeconds = after.maximumObservationSeconds := by
  constructor
  · intro hsame
    by_cases henabled : configuration.telemetryEnabled = true
    · rw [if_pos henabled] at htelemetry
      obtain ⟨template, ht, hstage, hsome⟩ := htelemetry
      obtain ⟨thresholds, hthresholds⟩ := Option.ne_none_iff_exists'.mp hsome
      have hverify := hsame .verify (by decide)
      rw [h.eq, List.filter_map, List.map_map] at hverify
      have hkept : ((fun t : Template => decide (t.1 = Stage.verify)) ∘ rewindow after.maximumObservationSeconds) =
          fun t : Template => decide (t.1 = Stage.verify) := rfl
      rw [hkept, List.map_inj_left] at hverify
      have htemplate := Option.some.inj (hverify template (List.mem_filter.mpr ⟨ht, by simpa using hstage⟩))
      have hwindow := congrArg ProbeFields.telemetry htemplate
      change template.2.telemetry = template.2.telemetry.map _ at hwindow
      rw [hthresholds, Option.map_some, Option.some.injEq] at hwindow
      have hseconds := congrArg TelemetryThresholds.windowSeconds hwindow
      rw [h.windows template ht thresholds hthresholds] at hseconds
      exact .inr hseconds
    · exact .inl (Bool.eq_false_iff.mpr henabled)
  · intro hcases
    have hequal : second = first := by
      rw [h.eq]
      refine (List.map_congr_left fun template ht => ?_).trans (List.map_id' first)
      rcases hcases with henabled | hwindow
      · rw [if_neg (Bool.eq_false_iff.mp henabled)] at htelemetry
        exact rewindow_plain (htelemetry template ht) _
      · cases hthresholds : template.2.telemetry with
        | none => exact rewindow_plain hthresholds _
        | some thresholds =>
          have hseconds := h.windows template ht thresholds hthresholds
          exact rewindow_same hthresholds (hseconds.trans hwindow)
    intro stage _
    rw [hequal]

/-- An update of compiled controls agrees with compiling them again exactly when no probe watches telemetry or the
observation has the same length. -/
theorem update_agrees_iff (hdistinct : (compiled.2.map ProbeVersion.id).Nodup)
    (hdistinct' : (recompiled.2.map ProbeVersion.id).Nodup)
    (hcompiled : compileControls hashing fresh configuration before = .ok compiled)
    (hrecompiled : compileControls hashing fresh' configuration after = .ok recompiled) :
    UpdateAgrees compiled recompiled after ↔
      configuration.telemetryEnabled = false ∨
        before.maximumObservationSeconds = after.maximumObservationSeconds := by
  obtain ⟨management, secretStore, verification, first, probes, rollback, hmanagement, hsecretStore, hverification,
    hfirst, hprobes, hrollback, hfields, hversions⟩ := compileControls_ok hcompiled
  obtain ⟨management', secretStore', verification', second, probes', rollback', hmanagement', hsecretStore',
    hverification', hsecond, hprobes', hrollback', hfields', hversions'⟩ := compileControls_ok hrecompiled
  obtain rfl := Except.ok.inj (hmanagement.symm.trans hmanagement')
  obtain rfl := Except.ok.inj (hsecretStore.symm.trans hsecretStore')
  obtain rfl := Except.ok.inj (hverification.symm.trans hverification')
  obtain rfl := Except.ok.inj (hrollback.symm.trans hrollback')
  have hupdated : updateControls compiled.1.toControlFields after =
      compiledFields configuration after (management.interface = .browser) probes rollback := by
    rw [hfields, update_compiled]
  rw [hversions] at hdistinct
  rw [hversions'] at hdistinct'
  have hwindows := resolved_iff (templates_rewound hfirst hsecond) (templates_telemetry hfirst)
  constructor
  · intro hagrees
    refine hwindows.mp fun stage hprobed => ?_
    have hstage := hagrees.probes stage
    rw [hupdated, hversions, hfields', hversions', resolved_compiled hdistinct hprobes,
      resolved_compiled hdistinct' hprobes', if_pos hprobed, if_pos hprobed] at hstage
    exact Option.some.inj hstage
  · intro hcases
    have hsame := hwindows.mpr hcases
    refine ⟨?_, fun stage => ?_, ?_, fun earlier => update_last _ earlier after⟩
    · rw [hupdated, hfields']
      rfl
    · rw [hupdated, hversions, hfields', hversions', resolved_compiled hdistinct hprobes,
        resolved_compiled hdistinct' hprobes']
      split
      · rename_i hprobed
        rw [hsame stage hprobed]
      · rfl
    · rw [hupdated]
      have haccepted := recompiled.1.accepted
      rw [hfields'] at haccepted
      exact haccepted

end

def approvedPreferences : ControlPreferences :=
  { samplePreferences 3600 (by decide) with requireRevokeApproval := true }

/-- Switching on the approval of revocations agrees. -/
theorem approval_updated : ∃ compiled recompiled,
    compileControls Hashing.sample .sample .sample (samplePreferences 3600 (by decide)) = .ok compiled ∧
    compileControls Hashing.sample .sample .sample approvedPreferences = .ok recompiled ∧
    UpdateAgrees compiled recompiled approvedPreferences := by
  have hcompiled : compileControls Hashing.sample .sample .sample (samplePreferences 3600 (by decide)) = .ok _ := rfl
  have hrecompiled : compileControls Hashing.sample .sample .sample approvedPreferences = .ok _ := rfl
  refine ⟨_, _, hcompiled, hrecompiled, (update_agrees_iff ?_ ?_ hcompiled hrecompiled).mpr (.inr rfl)⟩
  · decide +kernel
  · decide +kernel

/-- A longer observation leaves the windows of the probes behind. -/
theorem window_not_updated : ∃ compiled recompiled,
    compileControls Hashing.sample .sample .sample (samplePreferences 3600 (by decide)) = .ok compiled ∧
    compileControls Hashing.sample .sample .sample (samplePreferences 7200 (by decide)) = .ok recompiled ∧
    ¬ UpdateAgrees compiled recompiled (samplePreferences 7200 (by decide)) := by
  refine ⟨_, _, rfl, rfl, fun h => absurd (h.probes .verify) ?_⟩
  decide +kernel

end Uumi.Inventory
