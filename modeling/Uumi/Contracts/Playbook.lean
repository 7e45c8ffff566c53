import Uumi.Contracts.Plan

/-! Browser playbooks: steps on a provider's console, and the versions that pin them. -/
namespace Uumi.Contracts
open Uumi.Core Uumi.Foundations

inductive PlaybookState where
  | draft | published | superseded | review
  deriving DecidableEq

inductive PlaybookEffect where
  | none | createCredential | revokeCredential
  deriving DecidableEq

def PlaybookEffect.value : PlaybookEffect → String
  | .none => "none"
  | .createCredential => "create-credential"
  | .revokeCredential => "revoke-credential"

inductive SelectorKind where
  | role | label | field | text | testId | css
  deriving DecidableEq

def SelectorKind.value : SelectorKind → String
  | .role => "role"
  | .label => "label"
  | .field => "field"
  | .text => "text"
  | .testId => "test-id"
  | .css => "css"

structure Selector where
  kind : SelectorKind
  value : Text 1 512
  name : Option (Text 0 256) := none
  exact : Bool := true
  deriving DecidableEq

structure PageCheckpoint where
  urlPattern : Text 1 1024
  requiredText : List String := []
  forbiddenText : List String := []
  deriving DecidableEq

inductive CaptureAttribute where
  | text | content | href
  deriving DecidableEq

def CaptureAttribute.value : CaptureAttribute → String
  | .text => "text"
  | .content => "value"
  | .href => "href"

structure SecureField where
  name : Identifier
  selector : Selector
  providerIdSelector : Selector
  providerIdAttribute : CaptureAttribute := .text
  providerDisplayNameSelector : Option Selector := none
  deriving DecidableEq

/-- A value that a step reads from the page: the text or the value of an element. -/
structure StepOutput where
  name : Identifier
  selector : Selector
  attributeName : CaptureAttribute := .text
  text_or_value : attributeName ≠ .href
  deriving DecidableEq

/-- The fields of a playbook step before its validator has run. -/
structure StepFields extends OperationStep where
  effect : PlaybookEffect := .none
  selectors : List Selector := []
  checkpoint : Option PageCheckpoint := none
  secureField : Option SecureField := none
  outputs : List StepOutput := []
  timeoutSeconds : Nat := 30
  retryLimit : Nat := 0
  timeout_bounds : 1 ≤ timeoutSeconds ∧ timeoutSeconds ≤ 600 := by decide
  retry_bounds : retryLimit ≤ 5 := by decide
  deriving DecidableEq

namespace StepFields

def hasText (step : StepFields) (key : String) : Bool :=
  match step.parameters.lookup key with
  | some (.text _) => true
  | _ => false

def inBrowser (step : StepFields) : Bool := "browser.".toList.isPrefixOf step.tool.value.toList

def navigation (step : StepFields) : Bool := step.tool.value == "browser.navigate"

def selection (step : StepFields) : Bool := step.tool.value == "browser.select"

def validateCapture (step : StepFields) : Except Error Unit := do
  raiseIf (step.navigation ≠ (step.operation.value == "navigate"))
    (.validation "browser navigation must use the navigate tool and operation")
  raiseIf (step.selection ≠ (step.operation.value == "select"))
    (.validation "browser selection must use the select tool and operation")
  raiseIf (step.navigation ∧ step.selectors ≠ [])
    (.validation "browser navigation must not declare a selector")
  raiseIf (step.navigation ∧ ¬ step.hasText "url") (.validation "browser navigation requires a URL parameter")
  raiseIf (step.selection ∧ step.selectors.length ≠ 1)
    (.validation "browser selection requires exactly one selector")
  raiseIf (step.selection ∧ ¬ step.hasText "value") (.validation "browser selection requires an option label")
  raiseIf (step.effect = .createCredential ∧
      (step.stage ≠ .create ∨ step.tool.value ≠ "browser.secure-capture" ∨ step.secureField = none))
    (.validation "credential creation must use secure capture in the create stage")
  raiseIf (step.secureField ≠ none ∧ step.effect ≠ .createCredential)
    (.validation "secure fields require the create-credential effect")
  raiseIf (step.effect = .createCredential ∧ ∃ secure ∈ step.secureField, ∃ selector ∈ step.selectors.head?,
      selector ∈ [secure.selector, secure.providerIdSelector])
    (.validation "secure capture must target the credential creation control, not captured output")
  raiseIf (step.effect = .revokeCredential ∧
      (step.stage ≠ .revoke ∨ step.tool.value ≠ "browser.revokeCredential" ∨ step.secureField ≠ none))
    (.validation "credential revocation must use the protected browser revoke tool")
  raiseIf (step.inBrowser ∧ ¬ step.navigation ∧ step.selectors = [])
    (.validation "browser actions require deterministic selectors")
  raiseIf (step.inBrowser ∧ 1 < step.selectors.length)
    (.validation "each browser step must target exactly one control")
  raiseIf (step.inBrowser ∧ step.checkpoint = none)
    (.validation "browser actions require a deterministic page checkpoint")

end StepFields

/-- A playbook step that its model validator accepts. -/
structure PlaybookStep extends StepFields where
  accepted : StepFields.validateCapture toStepFields = .ok ()
  deriving DecidableEq

def PlaybookStep.build (fields : StepFields) : Except Error PlaybookStep :=
  match h : fields.validateCapture with
  | .ok () => .ok ⟨fields, h⟩
  | .error e => .error e

/-- A step is built from its own fields. -/
theorem PlaybookStep.build_ok {fields : StepFields} {step : PlaybookStep} (h : build fields = .ok step) :
    step.toStepFields = fields := by
  unfold build at h
  split at h
  · cases h
    rfl
  · cases h

/-- The fields of a playbook before its validator has run. -/
structure DraftFields where
  name : Text 1 160
  platform : Text 1 64
  allowedDomains : List String := []
  steps : List PlaybookStep
  loginUrlPattern : Option (Text 0 1024) := none
  steps_nonempty : steps ≠ []
  deriving DecidableEq

namespace DraftFields

def withEffect (draft : DraftFields) (effect : PlaybookEffect) : List PlaybookStep :=
  draft.steps.filter (·.effect = effect)

def afterCreation (draft : DraftFields) : List PlaybookStep :=
  (draft.steps.dropWhile (·.effect ≠ .createCredential)).drop 1

def validateBrowserProcedure (draft : DraftFields) : Except Error Unit := do
  raiseIf (draft.allowedDomains = [] ∨ ((draft.loginUrlPattern.map Text.value).getD "") = "")
    (.validation "browser playbooks require domains and a login URL pattern")
  raiseIf (∃ step ∈ draft.steps, ¬ step.inBrowser) (.validation "playbooks contain browser steps only")
  raiseIf (∃ step ∈ draft.steps, step.isProtected)
    (.validation "playbooks cannot declare approvals; credential controls protect operations")
  raiseIf ((draft.withEffect .createCredential).length ≠ 1)
    (.validation "browser playbooks require exactly one secure credential creation")
  raiseIf (∃ step ∈ draft.afterCreation, step.stage = .create)
    (.validation "secure credential creation must be the final create-stage step")
  raiseIf ((draft.withEffect .revokeCredential).length ≠ 1)
    (.validation "browser playbooks require exactly one credential revocation")
  raiseIf (∃ step ∈ draft.withEffect .createCredential, step.secureField = none)
    (.validation "browser playbooks require secure credential capture")
  raiseIf (∃ step ∈ draft.withEffect .createCredential, step.outputs ≠ [])
    (.validation "secure credential creation cannot extract step outputs")
  raiseIf (∃ created ∈ draft.withEffect .createCredential, ∃ secure ∈ created.secureField,
      ∃ step ∈ draft.steps, ∃ output ∈ step.outputs, output.selector = secure.selector)
    (.validation "playbook outputs cannot target the secure credential field")
  raiseIf (¬ (draft.steps.map fun step : PlaybookStep => step.id).Nodup)
    (.validation "playbook step IDs must be unique")

end DraftFields

/-- A playbook that its model validator accepts. -/
structure PlaybookDraft extends DraftFields where
  accepted : DraftFields.validateBrowserProcedure toDraftFields = .ok ()
  deriving DecidableEq

/-- Every step of a draft is a step in a browser. -/
theorem PlaybookDraft.in_browser (draft : PlaybookDraft) {step : PlaybookStep} (h : step ∈ draft.steps) :
    step.inBrowser = true := by
  have haccepted := draft.accepted
  simp only [DraftFields.validateBrowserProcedure, unit_bind_ok, raiseIf_ok] at haccepted
  have := haccepted.2.1
  push Not at this
  exact this step h

/-- No two steps of a draft have one id. -/
theorem PlaybookDraft.ids_nodup (draft : PlaybookDraft) : (draft.steps.map fun step : PlaybookStep => step.id).Nodup := by
  have haccepted := draft.accepted
  simp only [DraftFields.validateBrowserProcedure, unit_bind_ok, raiseIf_ok, not_not] at haccepted
  exact haccepted.2.2.2.2.2.2.2.2.2

/-- A stored version of a playbook. Its publication has an identity and a time. -/
structure PlaybookVersion where
  id : Identifier
  organisationId : Identifier
  playbookId : Identifier
  number : Nat
  definition : PlaybookDraft
  digest : Digest
  state : PlaybookState
  sourceIds : List Identifier := []
  publication : Option (Identifier × AwareDatetime) := none
  createdBy : Identifier
  createdAt : AwareDatetime
  published : state = .published → publication ≠ none
  deriving DecidableEq

def sampleConsole : PageCheckpoint where
  urlPattern := ⟨"https://console.example/*", by decide⟩

def sampleButton (name : Text 0 256) : Selector where
  kind := .role
  value := ⟨"button", by decide⟩
  name := some name

def sampleCreation : PlaybookStep where
  id := ⟨"create-key", by decide⟩
  stage := .create
  tool := ⟨"browser.secure-capture", by decide⟩
  operation := ⟨"create", by decide⟩
  objective := ⟨"create the key", by decide⟩
  evidenceChecks := {"credential-created"}
  checks_nonempty := by decide
  effect := .createCredential
  selectors := [sampleButton ⟨"Create", by decide⟩]
  checkpoint := some sampleConsole
  secureField := some {
    name := ⟨"api-key", by decide⟩
    selector := { kind := .testId, value := ⟨"secret", by decide⟩ }
    providerIdSelector := { kind := .testId, value := ⟨"key-id", by decide⟩ } }
  accepted := by decide +kernel

def sampleRevocation : PlaybookStep where
  id := ⟨"revoke-key", by decide⟩
  stage := .revoke
  tool := ⟨"browser.revokeCredential", by decide⟩
  operation := revokeOperation
  objective := ⟨"revoke the old key", by decide⟩
  evidenceChecks := {"credential-revoked"}
  checks_nonempty := by decide
  effect := .revokeCredential
  selectors := [sampleButton ⟨"Revoke", by decide⟩]
  checkpoint := some sampleConsole
  accepted := by decide +kernel

def PlaybookVersion.sample : PlaybookVersion where
  id := playbookVersionOne
  organisationId := organisationOne
  playbookId := playbookOne
  number := 1
  definition :=
    { name := ⟨"keys", by decide⟩
      platform := platformOne
      allowedDomains := ["console.example"]
      steps := [sampleCreation, sampleRevocation]
      loginUrlPattern := some ⟨"https://console.example/login", by decide⟩
      steps_nonempty := by decide
      accepted := by decide +kernel }
  digest := "7f3a"
  state := .published
  publication := some (operatorOne, ⟨0, 0⟩)
  createdBy := operatorOne
  createdAt := ⟨0, 0⟩
  published := by decide

end Uumi.Contracts
