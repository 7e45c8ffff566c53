import Uumi.Coordinator.Context

/-! The variables of a step and how its parameters are filled in: whole values in operations, any part
of a text in playbook steps. -/
namespace Uumi.Coordinator
open Uumi.Contracts Uumi.Core Uumi.Foundations

abbrev StepContext := List (String × Option String)

/-- `_required` of the playbook: a variable with a value. -/
def contextValue (context : StepContext) (key : String) : Except Error String :=
  required (context.lookup key).join (.value s!"playbook variable {key} is unavailable")

def removePrefix (start s : List Char) : List Char :=
  if start.isPrefixOf s then s.drop start.length else s

def slugChar (c : Char) : Bool := ('a' ≤ c && c ≤ 'z') || ('0' ≤ c && c ≤ '9')

def hyphenate : List Char → List Char
  | [] => []
  | c :: cs =>
    if slugChar c then c :: hyphenate cs
    else match cs with
      | [] => ['-']
      | d :: _ => if slugChar d then '-' :: hyphenate cs else hyphenate cs

def slug (hashes : Hashes) (provider : String) : String :=
  String.ofList (((hyphenate (hashes.lower provider).toList).dropWhile (· == '-')).rdropWhile (· == '-'))

def suffix (run : RotationRun) : String :=
  String.ofList ((removePrefix "run_".toList run.id.text.toList).take 24)

def replacementId (hashes : Hashes) (run : RotationRun) (provider : String) : String :=
  let name := slug hashes provider
  (if name = "" then "credential" else name) ++ s!"-{suffix run}"

def providerPath (old : CredentialGeneration) : Option String :=
  match old.providerId with
  | none => none
  | some id => if id.value = "" then none else some (String.ofList (id.value.toList.dropWhile (· == '/')))

def browserStepContext (hashes : Hashes) (run : RotationRun) (credential : ManagedCredential)
    (old target : Option CredentialGeneration) : StepContext :=
  let replacement := replacementId hashes run credential.provider.value
  [("run_id", some run.id.text),
    ("credential_id", some run.credentialId.text),
    ("replacement_provider_id", some replacement),
    ("replacement_provider_display_name", some replacement),
    ("target_generation_id", run.targetGenerationId.map Identifier.text),
    ("target_provider_id", target.bind fun g => g.providerId.map Text.value),
    ("target_secret_reference", target.bind fun g => g.secretReference.map Text.value),
    ("old_generation_id", run.currentGenerationId.map Identifier.text),
    ("old_provider_id", old.bind fun g => g.providerId.map Text.value),
    ("old_provider_path", old.bind providerPath),
    ("old_provider_display_name", old.bind fun g => g.providerDisplayName.map Text.value),
    ("old_secret_reference", old.bind fun g => g.secretReference.map Text.value)]

def stepContext (hashes : Hashes) (catalog : Catalog) (run : RotationRun) : Except Error StepContext := do
  let target ← optionalGeneration catalog run.organisationId run.targetGenerationId
  let old ← optionalGeneration catalog run.organisationId run.currentGenerationId
  let credential ← credential catalog run
  return browserStepContext hashes run credential old target

def wholeVariable (text : String) : Option String :=
  match text.toList with
  | '$' :: '{' :: rest => if rest.getLast? = some '}' then some (String.ofList rest.dropLast) else none
  | _ => none

def resolveText (context : StepContext) (text : String) : Except Error String :=
  match wholeVariable text with
  | none => .ok text
  | some key => contextValue context key

def resolveValue (context : StepContext) : ParameterValue → Except Error ParameterValue
  | .text value => do return .text (← resolveText context value)
  | .texts values => do return .texts (← collect values (resolveText context))
  | value => .ok value

def resolveEntry (context : StepContext) (entry : String × ParameterValue) :
    Except Error (String × ParameterValue) := do
  return (entry.1, ← resolveValue context entry.2)

def resolve (context : StepContext) (parameters : Parameters) : Except Error Parameters :=
  collect parameters (resolveEntry context)

def keyChar (c : Char) : Bool := slugChar c || c == '_'

def placeholder : List Char → Option (List Char)
  | '$' :: '{' :: rest =>
    let key := rest.takeWhile keyChar
    if key.head?.any (fun c => 'a' ≤ c && c ≤ 'z') ∧ rest[key.length]? = some '}' then some key else none
  | _ => none

/-- Replace the placeholders of a text. The number counts the characters of one that was replaced. -/
def substitute (context : StepContext) : Nat → List Char → Except Error (List Char)
  | _, [] => .ok []
  | skip + 1, _ :: cs => substitute context skip cs
  | 0, c :: cs =>
    match placeholder (c :: cs) with
    | none => do return c :: (← substitute context 0 cs)
    | some key => do
      let value ← contextValue context (String.ofList key)
      return value.toList ++ (← substitute context (key.length + 2) cs)

/-- `resolve_playbook_value` on a text. -/
def resolvePlaybookText (context : StepContext) (text : String) : Except Error String := do
  return String.ofList (← substitute context 0 text.toList)

section
variable (context : StepContext)

def fillText (min max : Nat) (field : String) (text : String) : Except Error (Text min max) := do
  Text.build min max field (← resolvePlaybookText context text)

def fillOptional (min max : Nat) (field : String) : Option (Text min max) → Except Error (Option (Text min max))
  | none => return none
  | some text => do return some (← fillText context min max field text.value)

def fillIdentifier (id : Identifier) : Except Error Identifier := do
  Identifier.build (← resolvePlaybookText context id.text)

def fillString (text : String) : Except Error String := do
  return strip (← resolvePlaybookText context text)

def fillValue : ParameterValue → Except Error ParameterValue
  | .text value => do return .text (← fillString context value)
  | .texts values => do return .texts (← collect values (fillString context))
  | value => .ok value

def fillEntry (entry : String × ParameterValue) : Except Error (String × ParameterValue) := do
  return (entry.1, ← fillValue context entry.2)

def fillSelector (selector : Selector) : Except Error Selector := do
  return { selector with
    value := ← fillText context 1 512 "value" selector.value.value
    name := ← fillOptional context 0 256 "name" selector.name }

def fillSelector? : Option Selector → Except Error (Option Selector)
  | none => return none
  | some selector => do return some (← fillSelector context selector)

def fillCheckpoint? : Option PageCheckpoint → Except Error (Option PageCheckpoint)
  | none => return none
  | some checkpoint => do return some {
      urlPattern := ← fillText context 1 1024 "url_pattern" checkpoint.urlPattern.value
      requiredText := ← collect checkpoint.requiredText (fillString context)
      forbiddenText := ← collect checkpoint.forbiddenText (fillString context) }

def fillSecure? : Option SecureField → Except Error (Option SecureField)
  | none => return none
  | some secure => do return some { secure with
      name := ← fillIdentifier context secure.name
      selector := ← fillSelector context secure.selector
      providerIdSelector := ← fillSelector context secure.providerIdSelector
      providerDisplayNameSelector := ← fillSelector? context secure.providerDisplayNameSelector }

def fillOutput (output : StepOutput) : Except Error StepOutput := do
  return { output with
    name := ← fillIdentifier context output.name
    selector := ← fillSelector context output.selector }

/-- `resolve_playbook_step`: every text of the step is filled in, and the result is validated again, protected as the
caller says. -/
def resolvePlaybookStep (step : PlaybookStep) (isProtected : Option Bool := none) : Except Error PlaybookStep := do
  let id ← fillIdentifier context step.id
  let tool ← fillText context 3 128 "tool" step.tool.value
  let operation ← fillText context 1 96 "operation" step.operation.value
  let objective ← fillText context 1 1024 "objective" step.objective.value
  let parameters ← collect step.parameters (fillEntry context)
  let checks ← collect (step.evidenceChecks.sort (· ≤ ·)) (fillString context)
  let selectors ← collect step.selectors (fillSelector context)
  let checkpoint ← fillCheckpoint? context step.checkpoint
  let secureField ← fillSecure? context step.secureField
  let outputs ← collect step.outputs (fillOutput context)
  if h : checks.toFinset ≠ ∅ then
    PlaybookStep.build { step.toStepFields with
      id, tool, operation, objective, parameters, selectors, checkpoint, secureField, outputs
      isProtected := isProtected.getD step.isProtected
      evidenceChecks := checks.toFinset
      checks_nonempty := h }
  else
    .error (.validation "evidence_checks should have at least 1 item")

end
end Uumi.Coordinator
