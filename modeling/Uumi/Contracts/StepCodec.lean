import Uumi.Contracts.Audit
import Uumi.Contracts.Playbook
import Uumi.Foundations.JsonCodec

/-! Playbook steps as JSON: what `model_dump` writes of a step and how `model_validate` reads it. Reading strips every
text, so it restores the steps whose texts are stripped. -/
namespace Uumi.Contracts
open Uumi.Core Uumi.Foundations

def Solid (s : String) : Prop := strip s = s

@[simp] theorem solid_strip (s : String) : Solid (strip s) := strip_strip s

private def malformed (kind : String) : Error := .validation s!"Input should be a valid {kind}"

private def missing : Error := .validation "Field required"

private def forbidden : Error := .validation "Extra inputs are not permitted"

def textCodec (min max : Nat) (field : String) : Codec Error (Text min max) :=
  .checked (malformed "string") Text.value (Text.build min max field)

private theorem textCodec_restores {min max : Nat} {field : String} {text : Text min max} (h : Solid text.value) :
    (textCodec min max field).Restores text :=
  Codec.checked_restores.mpr (Text.build_ok.mpr h.symm)

def identifierCodec : Codec Error Identifier := .checked (malformed "string") Identifier.text Identifier.build

private theorem identifierCodec_restores (id : Identifier) : identifierCodec.Restores id :=
  Codec.checked_restores.mpr (Identifier.build_ok.mpr id.strip_text.symm)

def stringCodec : Codec Error String := .text (malformed "string") strip

private theorem stringCodec_restores {s : String} (h : Solid s) : stringCodec.Restores s := Codec.text_restores.mpr h

def stageCodec : Codec Error Stage := .choice (malformed "stage") Stage.all Stage.value

def kindCodec : Codec Error SelectorKind :=
  .choice (malformed "selector kind") [.role, .label, .field, .text, .testId, .css] SelectorKind.value

private theorem kindCodec_restores (kind : SelectorKind) : kindCodec.Restores kind := by
  cases kind <;> rfl

def effectCodec : Codec Error PlaybookEffect :=
  .choice (malformed "playbook effect") [.none, .createCredential, .revokeCredential] PlaybookEffect.value

private theorem effectCodec_restores (effect : PlaybookEffect) : effectCodec.Restores effect := by
  cases effect <;> rfl

def attributeCodec : Codec Error CaptureAttribute :=
  .choice (malformed "attribute") [.text, .content, .href] CaptureAttribute.value

private theorem attributeCodec_restores (name : CaptureAttribute) : attributeCodec.Restores name := by
  cases name <;> rfl

def parameterCodec : Codec Error ParameterValue where
  write
    | .text value => .str value
    | .number value => .int value
    | .flag value => .bool value
    | .texts values => .arr (values.map .str)
  read
    | .str value => .ok (.text (strip value))
    | .int value => .ok (.number value)
    | .bool value => .ok (.flag value)
    | .arr items => do return .texts (← collect items stringCodec.read)
    | _ => .error (malformed "parameter")

def ParameterValue.strings : ParameterValue → List String
  | .text value => [value]
  | .texts values => values
  | _ => []

private theorem parameterCodec_restores {value : ParameterValue} (h : ∀ s ∈ value.strings, Solid s) :
    parameterCodec.Restores value := by
  cases value with
  | text value => exact congrArg (fun s => Except.ok (ParameterValue.text s)) (h value (List.mem_singleton_self _))
  | number value => rfl
  | flag value => rfl
  | texts values =>
    have hread : collect (values.map Json.str) stringCodec.read = .ok values :=
      (Codec.list_restores (e := missing) fun s hs => stringCodec_restores (h s hs) :)
    change (do return .texts (← collect (values.map Json.str) stringCodec.read) : Except Error ParameterValue) = _
    rw [hread, ok_bind]
    rfl

def parametersCodec : Codec Error Parameters := .mapping (malformed "dictionary") parameterCodec

private def readField {α : Type} (c : Codec Error α) (fields : List (String × Json)) (key : String)
    (default : Option α := none) : Except Error α :=
  c.field missing fields key default

private theorem readField_written {α : Type} {c : Codec Error α} {fields : List (String × Json)} {key : String}
    {default : Option α} {a : α} (h : fields.lookup key = some (c.write a)) (restores : c.Restores a) :
    readField c fields key default = .ok a :=
  Codec.field_written h restores

def nameCodec : Codec Error (Option (Text 0 256)) := .nullable (textCodec 0 256 "name")

def selectorCodec : Codec Error Selector where
  write s := .obj [("kind", kindCodec.write s.kind), ("value", (textCodec 1 512 "value").write s.value),
    ("name", nameCodec.write s.name), ("exact", .bool s.exact)]
  read json := do
    let fields ← Codec.fieldsOf forbidden ["kind", "value", "name", "exact"] json
    let kind ← readField kindCodec fields "kind"
    let value ← readField (textCodec 1 512 "value") fields "value"
    let name ← readField nameCodec fields "name" (some none)
    let exact ← readField (.bool (malformed "boolean")) fields "exact" (some true)
    return { kind, value, name, exact }

structure Selector.Clean (s : Selector) : Prop where
  value : Solid s.value.value
  name : ∀ name ∈ s.name, Solid name.value

private theorem nameCodec_restores {name : Option (Text 0 256)} (h : ∀ text ∈ name, Solid text.value) :
    nameCodec.Restores name :=
  Codec.nullable_restores fun text htext => ⟨textCodec_restores (h text htext), nofun⟩

private theorem selectorCodec_restores {s : Selector} (h : s.Clean) : selectorCodec.Restores s := by
  change (Codec.fieldsOf forbidden ["kind", "value", "name", "exact"] (.obj _) >>= _) = _
  rw [Codec.fieldsOf_written (by simp), ok_bind, readField_written rfl (kindCodec_restores s.kind), ok_bind,
    readField_written rfl (textCodec_restores h.value), ok_bind, readField_written rfl (nameCodec_restores h.name),
    ok_bind, readField_written rfl (Codec.bool_restores _ s.exact), ok_bind]
  rfl

def checkpointCodec : Codec Error PageCheckpoint where
  write c := .obj [("url_pattern", (textCodec 1 1024 "url_pattern").write c.urlPattern),
    ("required_text", (Codec.list (malformed "tuple") stringCodec).write c.requiredText),
    ("forbidden_text", (Codec.list (malformed "tuple") stringCodec).write c.forbiddenText)]
  read json := do
    let fields ← Codec.fieldsOf forbidden ["url_pattern", "required_text", "forbidden_text"] json
    let urlPattern ← readField (textCodec 1 1024 "url_pattern") fields "url_pattern"
    let requiredText ← readField (.list (malformed "tuple") stringCodec) fields "required_text" (some [])
    let forbiddenText ← readField (.list (malformed "tuple") stringCodec) fields "forbidden_text" (some [])
    return { urlPattern, requiredText, forbiddenText }

structure PageCheckpoint.Clean (c : PageCheckpoint) : Prop where
  urlPattern : Solid c.urlPattern.value
  requiredText : ∀ s ∈ c.requiredText, Solid s
  forbiddenText : ∀ s ∈ c.forbiddenText, Solid s

private theorem checkpointCodec_restores {c : PageCheckpoint} (h : c.Clean) : checkpointCodec.Restores c := by
  change (Codec.fieldsOf forbidden ["url_pattern", "required_text", "forbidden_text"] (.obj _) >>= _) = _
  rw [Codec.fieldsOf_written (by simp), ok_bind, readField_written rfl (textCodec_restores h.urlPattern), ok_bind,
    readField_written rfl (Codec.list_restores fun s hs => stringCodec_restores (h.requiredText s hs)), ok_bind,
    readField_written rfl (Codec.list_restores fun s hs => stringCodec_restores (h.forbiddenText s hs)), ok_bind]
  rfl

def secureKeys : List String :=
  ["name", "selector", "provider_id_selector", "provider_id_attribute", "provider_display_name_selector"]

def secureCodec : Codec Error SecureField where
  write f := .obj [("name", identifierCodec.write f.name), ("selector", selectorCodec.write f.selector),
    ("provider_id_selector", selectorCodec.write f.providerIdSelector),
    ("provider_id_attribute", attributeCodec.write f.providerIdAttribute),
    ("provider_display_name_selector", (Codec.nullable selectorCodec).write f.providerDisplayNameSelector)]
  read json := do
    let fields ← Codec.fieldsOf forbidden secureKeys json
    let name ← readField identifierCodec fields "name"
    let selector ← readField selectorCodec fields "selector"
    let providerIdSelector ← readField selectorCodec fields "provider_id_selector"
    let providerIdAttribute ← readField attributeCodec fields "provider_id_attribute" (some .text)
    let providerDisplayNameSelector ←
      readField (.nullable selectorCodec) fields "provider_display_name_selector" (some none)
    return { name, selector, providerIdSelector, providerIdAttribute, providerDisplayNameSelector }

structure SecureField.Clean (f : SecureField) : Prop where
  selector : f.selector.Clean
  providerIdSelector : f.providerIdSelector.Clean
  providerDisplayNameSelector : ∀ s ∈ f.providerDisplayNameSelector, s.Clean

private theorem secureCodec_restores {f : SecureField} (h : f.Clean) : secureCodec.Restores f := by
  have hdisplay : (Codec.nullable selectorCodec).Restores f.providerDisplayNameSelector :=
    Codec.nullable_restores fun s hs => ⟨selectorCodec_restores (h.providerDisplayNameSelector s hs), nofun⟩
  change (Codec.fieldsOf forbidden secureKeys (.obj _) >>= _) = _
  rw [Codec.fieldsOf_written (by simp [secureKeys]), ok_bind, readField_written rfl (identifierCodec_restores f.name),
    ok_bind, readField_written rfl (selectorCodec_restores h.selector), ok_bind,
    readField_written rfl (selectorCodec_restores h.providerIdSelector), ok_bind,
    readField_written rfl (attributeCodec_restores f.providerIdAttribute), ok_bind,
    readField_written rfl hdisplay, ok_bind]
  rfl

def outputCodec : Codec Error StepOutput where
  write o := .obj [("name", identifierCodec.write o.name), ("selector", selectorCodec.write o.selector),
    ("attribute", attributeCodec.write o.attributeName)]
  read json := do
    let fields ← Codec.fieldsOf forbidden ["name", "selector", "attribute"] json
    let name ← readField identifierCodec fields "name"
    let selector ← readField selectorCodec fields "selector"
    let attributeName ← readField attributeCodec fields "attribute" (some .text)
    if h : attributeName ≠ .href then return { name, selector, attributeName, text_or_value := h }
    else .error (malformed "attribute")

private theorem outputCodec_restores {o : StepOutput} (h : o.selector.Clean) : outputCodec.Restores o := by
  change (Codec.fieldsOf forbidden ["name", "selector", "attribute"] (.obj _) >>= _) = _
  rw [Codec.fieldsOf_written (by simp), ok_bind, readField_written rfl (identifierCodec_restores o.name), ok_bind,
    readField_written rfl (selectorCodec_restores h), ok_bind,
    readField_written rfl (attributeCodec_restores o.attributeName), ok_bind]
  exact dif_pos o.text_or_value

def stepKeys : List String :=
  ["id", "stage", "tool", "operation", "objective", "parameters", "protected", "evidence_checks", "effect", "selectors",
    "checkpoint", "secure_field", "outputs", "timeout_seconds", "retry_limit"]

def timeoutCodec : Codec Error { n : Nat // 1 ≤ n ∧ n ≤ 600 } := .bounded (malformed "integer") _

def retryCodec : Codec Error { n : Nat // n ≤ 5 } := .bounded (malformed "integer") _

private theorem defaultTimeout_bounds : 1 ≤ 30 ∧ 30 ≤ 600 := by decide

private theorem defaultRetries_bounds : 0 ≤ 5 := Nat.zero_le _

/-- `PlaybookStep.model_dump` and `PlaybookStep.model_validate`. -/
def stepCodec : Codec Error PlaybookStep where
  write s := .obj [("id", identifierCodec.write s.id), ("stage", stageCodec.write s.stage),
    ("tool", (textCodec 3 128 "tool").write s.tool), ("operation", (textCodec 1 96 "operation").write s.operation),
    ("objective", (textCodec 1 1024 "objective").write s.objective), ("parameters", parametersCodec.write s.parameters),
    ("protected", .bool s.isProtected),
    ("evidence_checks", (Codec.list (malformed "frozenset") stringCodec).write (s.evidenceChecks.sort (· ≤ ·))),
    ("effect", effectCodec.write s.effect), ("selectors", (Codec.list (malformed "tuple") selectorCodec).write s.selectors),
    ("checkpoint", (Codec.nullable checkpointCodec).write s.checkpoint),
    ("secure_field", (Codec.nullable secureCodec).write s.secureField),
    ("outputs", (Codec.list (malformed "tuple") outputCodec).write s.outputs),
    ("timeout_seconds", timeoutCodec.write ⟨s.timeoutSeconds, s.timeout_bounds⟩),
    ("retry_limit", retryCodec.write ⟨s.retryLimit, s.retry_bounds⟩)]
  read json := do
    let fields ← Codec.fieldsOf forbidden stepKeys json
    let id ← readField identifierCodec fields "id"
    let stage ← readField stageCodec fields "stage"
    let tool ← readField (textCodec 3 128 "tool") fields "tool"
    let operation ← readField (textCodec 1 96 "operation") fields "operation"
    let objective ← readField (textCodec 1 1024 "objective") fields "objective"
    let parameters ← readField parametersCodec fields "parameters" (some [])
    let isProtected ← readField (.bool (malformed "boolean")) fields "protected" (some false)
    let checks ← readField (.list (malformed "frozenset") stringCodec) fields "evidence_checks"
    let effect ← readField effectCodec fields "effect" (some .none)
    let selectors ← readField (.list (malformed "tuple") selectorCodec) fields "selectors" (some [])
    let checkpoint ← readField (.nullable checkpointCodec) fields "checkpoint" (some none)
    let secureField ← readField (.nullable secureCodec) fields "secure_field" (some none)
    let outputs ← readField (.list (malformed "tuple") outputCodec) fields "outputs" (some [])
    let timeout ← readField timeoutCodec fields "timeout_seconds" (some ⟨30, defaultTimeout_bounds⟩)
    let retry ← readField retryCodec fields "retry_limit" (some ⟨0, defaultRetries_bounds⟩)
    if h : checks.toFinset ≠ ∅ then
      PlaybookStep.build {
        id, stage, tool, operation, objective, parameters, isProtected, effect, selectors, checkpoint, secureField, outputs
        evidenceChecks := checks.toFinset
        checks_nonempty := h
        timeoutSeconds := timeout.val
        timeout_bounds := timeout.property
        retryLimit := retry.val
        retry_bounds := retry.property }
    else .error (.validation "evidence_checks should have at least 1 item")

/-- No text of the step has blanks around it. -/
structure StepFields.Clean (s : StepFields) : Prop where
  tool : Solid s.tool.value
  operation : Solid s.operation.value
  objective : Solid s.objective.value
  parameters : ∀ entry ∈ s.parameters, ∀ text ∈ entry.2.strings, Solid text
  evidenceChecks : ∀ check ∈ s.evidenceChecks, Solid check
  selectors : ∀ selector ∈ s.selectors, selector.Clean
  checkpoint : ∀ checkpoint ∈ s.checkpoint, checkpoint.Clean
  secureField : ∀ secure ∈ s.secureField, secure.Clean
  outputs : ∀ output ∈ s.outputs, output.selector.Clean

/-- A stored step is built again from its own fields. -/
theorem PlaybookStep.build_self (step : PlaybookStep) : PlaybookStep.build step.toStepFields = .ok step := by
  unfold build
  split
  · rfl
  · rename_i he
    cases step.accepted.symm.trans he

/-- A clean step comes through as it is. -/
theorem stepCodec_restores {s : PlaybookStep} (h : s.toStepFields.Clean) : stepCodec.Restores s := by
  have hstage : stageCodec.Restores s.stage := Codec.choice_restores Stage.value_injective (Stage.mem_all s.stage)
  have hparameters : parametersCodec.Restores s.parameters :=
    Codec.mapping_restores fun entry hentry => parameterCodec_restores (h.parameters entry hentry)
  have hchecks : (Codec.list (malformed "frozenset") stringCodec).Restores (s.evidenceChecks.sort (· ≤ ·)) :=
    Codec.list_restores fun check hcheck => stringCodec_restores (h.evidenceChecks check ((Finset.mem_sort _).mp hcheck))
  have hselectors : (Codec.list (malformed "tuple") selectorCodec).Restores s.selectors :=
    Codec.list_restores fun selector hselector => selectorCodec_restores (h.selectors selector hselector)
  have hcheckpoint : (Codec.nullable checkpointCodec).Restores s.checkpoint :=
    Codec.nullable_restores fun checkpoint hc => ⟨checkpointCodec_restores (h.checkpoint checkpoint hc), nofun⟩
  have hsecure : (Codec.nullable secureCodec).Restores s.secureField :=
    Codec.nullable_restores fun secure hs => ⟨secureCodec_restores (h.secureField secure hs), nofun⟩
  have houtputs : (Codec.list (malformed "tuple") outputCodec).Restores s.outputs :=
    Codec.list_restores fun output houtput => outputCodec_restores (h.outputs output houtput)
  have htimeout : timeoutCodec.Restores ⟨s.timeoutSeconds, s.timeout_bounds⟩ := Codec.bounded_restores _ _
  have hretry : retryCodec.Restores ⟨s.retryLimit, s.retry_bounds⟩ := Codec.bounded_restores _ _
  change (Codec.fieldsOf forbidden stepKeys (.obj _) >>= _) = _
  rw [Codec.fieldsOf_written (by simp [stepKeys]), ok_bind, readField_written rfl (identifierCodec_restores s.id),
    ok_bind, readField_written rfl hstage, ok_bind, readField_written rfl (textCodec_restores h.tool), ok_bind,
    readField_written rfl (textCodec_restores h.operation), ok_bind,
    readField_written rfl (textCodec_restores h.objective), ok_bind, readField_written rfl hparameters, ok_bind,
    readField_written rfl (Codec.bool_restores _ s.isProtected), ok_bind, readField_written rfl hchecks, ok_bind,
    readField_written rfl (effectCodec_restores s.effect), ok_bind, readField_written rfl hselectors, ok_bind,
    readField_written rfl hcheckpoint, ok_bind, readField_written rfl hsecure, ok_bind,
    readField_written rfl houtputs, ok_bind, readField_written rfl htimeout, ok_bind,
    readField_written rfl hretry, ok_bind]
  have hsorted : (s.evidenceChecks.sort (· ≤ ·)).toFinset = s.evidenceChecks := Finset.sort_toFinset _ _
  rw [dif_pos (by rw [hsorted]; exact s.checks_nonempty)]
  simp only [hsorted]
  exact s.build_self

end Uumi.Contracts
