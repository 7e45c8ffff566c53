import Uumi.Browser.Lifecycle
import Uumi.Contracts.StepCodec
import Uumi.Coordinator.Rollout

/-! Resolved playbook steps on both sides of the worker's interface: the coordinator fills in a step and sends it,
and the worker fills in the template of its own documents and compares. -/
namespace Uumi.Browser
open Uumi.Contracts Uumi.Coordinator Uumi.Core Uumi.Foundations Uumi.Storage

/-- A character of a template, or the place of one of its variables. -/
inductive Piece where
  | plain (c : Char)
  | placeholder (key : String)
  deriving DecidableEq

/-- The pieces of a template. The number counts the characters of a variable that was taken. -/
def pieces : Nat → List Char → List Piece
  | _, [] => []
  | skip + 1, _ :: cs => pieces skip cs
  | 0, c :: cs =>
    match Coordinator.placeholder (c :: cs) with
    | none => .plain c :: pieces 0 cs
    | some key => .placeholder (String.ofList key) :: pieces (key.length + 2) cs

section
variable {context : StepContext}

def Piece.fill (context : StepContext) : Piece → Except Error (List Char)
  | .plain c => return [c]
  | .placeholder key => do return (← contextValue context key).toList

/-- Substitution is one pass over the pieces of the template. -/
theorem substitute_pieces (skip : Nat) (cs : List Char) :
    substitute context skip cs = do return (← collect (pieces skip cs) (Piece.fill context)).flatten := by
  fun_induction pieces skip cs with
  | case1 skip => cases skip <;> rfl
  | case2 skip c cs ih => exact ih
  | case3 c cs hplain ih =>
    simp only [substitute, hplain, collect, Piece.fill, ih]
    cases collect (pieces 0 cs) (Piece.fill context) <;> rfl
  | case4 c cs key hkey ih =>
    simp only [substitute, hkey, collect, Piece.fill, ih]
    cases contextValue context (String.ofList key) with
    | error e => rfl
    | ok value => cases collect (pieces (key.length + 2) cs) (Piece.fill context) <;> rfl

/-- Every variable of the text has a value. -/
def Available (context : StepContext) (text : String) : Prop :=
  ∀ key, .placeholder key ∈ pieces 0 text.toList → (context.lookup key).join ≠ none

private theorem fill_total {piece : Piece} (h : ∀ key, piece = .placeholder key → (context.lookup key).join ≠ none) :
    ∃ part, piece.fill context = .ok part ∧ True := by
  cases piece with
  | plain c => exact ⟨[c], rfl, trivial⟩
  | placeholder key =>
    obtain ⟨value, hvalue⟩ := Option.ne_none_iff_exists'.mp (h key rfl)
    have hread : contextValue context key = .ok value := (required_ok _ _ _).mpr hvalue
    exact ⟨value.toList, by rw [Piece.fill, hread, ok_bind]; rfl, trivial⟩

/-- A text is filled in exactly when all its variables are available. -/
theorem resolvePlaybookText_iff {text : String} :
    (∃ filled, resolvePlaybookText context text = .ok filled) ↔ Available context text := by
  constructor
  · rintro ⟨filled, h⟩ key hkey hnone
    rw [resolvePlaybookText, substitute_pieces, bind_ok] at h
    obtain ⟨_, h, -⟩ := h
    obtain ⟨parts, hparts, -⟩ := (bind_ok _ _ _).mp h
    obtain ⟨part, hpart⟩ := collect_mem hparts hkey
    obtain ⟨value, hvalue, -⟩ := (bind_ok _ _ _).mp hpart
    rw [contextValue, required_ok, hnone] at hvalue
    cases hvalue
  · intro h
    obtain ⟨parts, hparts, -⟩ := collect_total (f := Piece.fill context) (R := fun _ _ => True)
      fun piece (hpiece : piece ∈ pieces 0 text.toList) => fill_total fun key hkey => h key (hkey ▸ hpiece)
    exact ⟨String.ofList parts.flatten, by rw [resolvePlaybookText, substitute_pieces, hparts]; rfl⟩

private theorem pieces_plain {cs : List Char} (h : '$' ∉ cs) : pieces 0 cs = cs.map .plain := by
  induction cs with
  | nil => rfl
  | cons c cs ih =>
    have hc : c ≠ '$' := fun hc => h (hc ▸ List.mem_cons_self)
    have hnone : Coordinator.placeholder (c :: cs) = none := by
      unfold Coordinator.placeholder
      split
      · rename_i heq
        exact absurd (List.cons.inj heq).1 hc
      · rfl
    rw [pieces, hnone, List.map_cons, ih fun hcs => h (List.mem_cons_of_mem _ hcs)]

private theorem collect_plain (cs : List Char) :
    collect (cs.map .plain) (Piece.fill context) = .ok (cs.map fun c => [c]) := by
  induction cs with
  | nil => rfl
  | cons c cs ih =>
    rw [List.map_cons, collect, Piece.fill, ih]
    rfl

private theorem identifier_no_dollar (id : Identifier) : '$' ∉ id.text.toList := by
  intro hmem
  have haccepted := id.accepted
  unfold identifierAccepts at haccepted
  split at haccepted
  · cases haccepted
  · rename_i c cs heq
    simp only [Bool.and_eq_true, List.all_eq_true] at haccepted
    obtain ⟨⟨⟨hc, hcs⟩, -⟩, -⟩ := haccepted
    rw [heq] at hmem
    rcases List.mem_cons.mp hmem with rfl | hmem
    · exact absurd hc (by decide)
    · exact absurd (hcs _ hmem) (by decide)

private theorem identifier_available (id : Identifier) : Available context id.text := by
  intro key hkey
  rw [pieces_plain (identifier_no_dollar id)] at hkey
  obtain ⟨c, -, hc⟩ := List.mem_map.mp hkey
  cases hc

/-- An identifier has no variables, so it stays. -/
theorem fillIdentifier_self (id : Identifier) : fillIdentifier context id = .ok id := by
  have hflat : (id.text.toList.map fun c => [c]).flatten = id.text.toList := by
    rw [← List.flatMap_def, List.flatMap_singleton']
  have hread : resolvePlaybookText context id.text = .ok id.text := by
    rw [resolvePlaybookText, substitute_pieces, pieces_plain (identifier_no_dollar id), collect_plain, ok_bind]
    change Except.ok (String.ofList (List.flatten _)) = _
    rw [hflat, String.ofList_toList]
  rw [fillIdentifier, hread, ok_bind]
  exact Identifier.build_ok.mpr id.strip_text.symm

end

def Selector.texts (selector : Selector) : List String :=
  selector.value.value :: (selector.name.map Text.value).toList

def PageCheckpoint.texts (checkpoint : PageCheckpoint) : List String :=
  checkpoint.urlPattern.value :: (checkpoint.requiredText ++ checkpoint.forbiddenText)

def SecureField.texts (secure : SecureField) : List String :=
  secure.name.text :: (Selector.texts secure.selector ++ Selector.texts secure.providerIdSelector ++
    secure.providerDisplayNameSelector.toList.flatMap Selector.texts)

def StepOutput.texts (output : StepOutput) : List String := output.name.text :: Selector.texts output.selector

def stepTexts (step : StepFields) : List String :=
  [step.id.text, step.tool.value, step.operation.value, step.objective.value] ++
    step.parameters.flatMap (·.2.strings) ++ step.evidenceChecks.sort (· ≤ ·) ++
    step.selectors.flatMap Selector.texts ++ step.checkpoint.toList.flatMap PageCheckpoint.texts ++
    step.secureField.toList.flatMap SecureField.texts ++ step.outputs.flatMap StepOutput.texts

section
variable {context : StepContext}

private theorem fillText_ok {min max : Nat} {field text : String} {filled : Text min max}
    (h : fillText context min max field text = .ok filled) : Available context text ∧ Solid filled.value := by
  obtain ⟨value, hvalue, h⟩ := (bind_ok _ _ _).mp h
  rw [Text.build_ok] at h
  exact ⟨resolvePlaybookText_iff.mp ⟨value, hvalue⟩, h ▸ solid_strip value⟩

private theorem fillString_ok {text filled : String} (h : fillString context text = .ok filled) :
    Available context text ∧ Solid filled := by
  obtain ⟨value, hvalue, h⟩ := (bind_ok _ _ _).mp h
  rw [pure_ok] at h
  exact ⟨resolvePlaybookText_iff.mp ⟨value, hvalue⟩, h ▸ solid_strip value⟩

private theorem fillOptional_ok {min max : Nat} {field : String} {text filled : Option (Text min max)}
    (h : fillOptional context min max field text = .ok filled) :
    (∀ t ∈ (text.map Text.value).toList, Available context t) ∧ ∀ t ∈ filled, Solid t.value := by
  cases text with
  | none =>
    cases h
    exact ⟨fun _ ht => absurd ht List.not_mem_nil, fun _ ht => absurd ht (Option.not_mem_none _)⟩
  | some text =>
    obtain ⟨value, hvalue, h⟩ := (bind_ok _ _ _).mp h
    cases h
    obtain ⟨havailable, hsolid⟩ := fillText_ok hvalue
    refine ⟨fun t ht => ?_, fun t ht => ?_⟩
    · rw [List.mem_singleton.mp ht]
      exact havailable
    · cases ht
      exact hsolid

private theorem collect_filled {α β : Type} {items : List α} {values : List β} {fill : α → Except Error β}
    {texts : α → List String} {clean : β → Prop} (h : collect items fill = .ok values)
    (hfill : ∀ item value, fill item = .ok value → (∀ t ∈ texts item, Available context t) ∧ clean value) :
    (∀ t ∈ items.flatMap texts, Available context t) ∧ ∀ value ∈ values, clean value := by
  refine ⟨fun t ht => ?_, fun value hvalue => ?_⟩
  · obtain ⟨item, hitem, ht⟩ := List.mem_flatMap.mp ht
    obtain ⟨value, hvalue⟩ := collect_mem h hitem
    exact (hfill item value hvalue).1 t ht
  · obtain ⟨item, -, hitem⟩ := collect_result h hvalue
    exact (hfill item value hitem).2

private theorem collect_fillString {texts filled : List String} (h : collect texts (fillString context) = .ok filled) :
    (∀ t ∈ texts, Available context t) ∧ ∀ s ∈ filled, Solid s := by
  have hone (text value : String) (htext : fillString context text = .ok value) :
      (∀ t ∈ [text], Available context t) ∧ Solid value :=
    ⟨fun t ht => List.mem_singleton.mp ht ▸ (fillString_ok htext).1, (fillString_ok htext).2⟩
  obtain ⟨havailable, hsolid⟩ := collect_filled h hone
  rw [List.flatMap_singleton'] at havailable
  exact ⟨havailable, hsolid⟩

private theorem fillEntry_ok {entry filled : String × ParameterValue} (h : fillEntry context entry = .ok filled) :
    (∀ t ∈ entry.2.strings, Available context t) ∧ ∀ s ∈ filled.2.strings, Solid s := by
  obtain ⟨key, value⟩ := entry
  obtain ⟨result, hresult, h⟩ := (bind_ok _ _ _).mp h
  cases h
  cases value with
  | text value =>
    obtain ⟨text, htext, hresult⟩ := (bind_ok _ _ _).mp hresult
    cases hresult
    obtain ⟨havailable, hsolid⟩ := fillString_ok htext
    refine ⟨fun t ht => ?_, fun s hs => ?_⟩
    · rw [List.mem_singleton.mp ht]
      exact havailable
    · rw [List.mem_singleton.mp hs]
      exact hsolid
  | texts values =>
    obtain ⟨texts, htexts, hresult⟩ := (bind_ok _ _ _).mp hresult
    cases hresult
    exact collect_fillString htexts
  | number value =>
    cases hresult
    exact ⟨fun _ ht => absurd ht List.not_mem_nil, fun _ hs => absurd hs List.not_mem_nil⟩
  | flag value =>
    cases hresult
    exact ⟨fun _ ht => absurd ht List.not_mem_nil, fun _ hs => absurd hs List.not_mem_nil⟩

private theorem fillSelector_ok {selector filled : Selector} (h : fillSelector context selector = .ok filled) :
    (∀ t ∈ Selector.texts selector, Available context t) ∧ filled.Clean := by
  obtain ⟨value, hvalue, h⟩ := (bind_ok _ _ _).mp h
  obtain ⟨name, hname, h⟩ := (bind_ok _ _ _).mp h
  cases h
  obtain ⟨havailable, hsolid⟩ := fillText_ok hvalue
  obtain ⟨hnames, hclean⟩ := fillOptional_ok hname
  exact ⟨List.forall_mem_cons.mpr ⟨havailable, hnames⟩, hsolid, hclean⟩

private theorem optional_filled {α β : Type} {part : Option α} {filled : Option β} {fill : α → Except Error β}
    {texts : α → List String} {clean : β → Prop}
    (h : part.elim (return none) (fun a => do return some (← fill a)) = .ok filled)
    (hfill : ∀ item value, fill item = .ok value → (∀ t ∈ texts item, Available context t) ∧ clean value) :
    (∀ t ∈ part.toList.flatMap texts, Available context t) ∧ ∀ value ∈ filled, clean value := by
  cases part with
  | none =>
    cases h
    exact ⟨fun _ ht => absurd ht List.not_mem_nil, fun _ hv => absurd hv (Option.not_mem_none _)⟩
  | some item =>
    obtain ⟨value, hvalue, h⟩ := (bind_ok _ _ _).mp h
    cases h
    obtain ⟨havailable, hclean⟩ := hfill item value hvalue
    refine ⟨fun t ht => ?_, fun other hother => ?_⟩
    · obtain ⟨other, hother, ht⟩ := List.mem_flatMap.mp ht
      rw [List.mem_singleton.mp hother] at ht
      exact havailable t ht
    · cases hother
      exact hclean

private theorem fillSelector?_ok {selector filled : Option Selector} (h : fillSelector? context selector = .ok filled) :
    (∀ t ∈ selector.toList.flatMap Selector.texts, Available context t) ∧ ∀ s ∈ filled, s.Clean := by
  have hpart : selector.elim (return none) (fun a => do return some (← fillSelector context a)) = .ok filled := by
    rw [← h]
    cases selector <;> rfl
  exact optional_filled hpart fun item value => fillSelector_ok

private theorem fillCheckpoint?_ok {checkpoint filled : Option PageCheckpoint}
    (h : fillCheckpoint? context checkpoint = .ok filled) :
    (∀ t ∈ checkpoint.toList.flatMap PageCheckpoint.texts, Available context t) ∧ ∀ c ∈ filled, c.Clean := by
  cases checkpoint with
  | none =>
    cases h
    exact ⟨fun _ ht => absurd ht List.not_mem_nil, fun _ hc => absurd hc (Option.not_mem_none _)⟩
  | some checkpoint =>
    obtain ⟨url, hurl, h⟩ := (bind_ok _ _ _).mp h
    obtain ⟨required, hrequired, h⟩ := (bind_ok _ _ _).mp h
    obtain ⟨forbidden, hforbidden, h⟩ := (bind_ok _ _ _).mp h
    cases h
    obtain ⟨havailable, hsolid⟩ := fillText_ok hurl
    obtain ⟨hrequireds, hrequiredSolid⟩ := collect_fillString hrequired
    obtain ⟨hforbiddens, hforbiddenSolid⟩ := collect_fillString hforbidden
    refine ⟨fun t ht => ?_, fun c hc => ?_⟩
    · rw [Option.toList_some, List.flatMap_singleton] at ht
      rcases List.mem_cons.mp ht with rfl | ht
      · exact havailable
      · rcases List.mem_append.mp ht with ht | ht
        · exact hrequireds t ht
        · exact hforbiddens t ht
    · cases hc
      exact ⟨hsolid, hrequiredSolid, hforbiddenSolid⟩

private theorem fillSecure?_ok {secure filled : Option SecureField} (h : fillSecure? context secure = .ok filled) :
    (∀ t ∈ secure.toList.flatMap SecureField.texts, Available context t) ∧ ∀ f ∈ filled, f.Clean := by
  cases secure with
  | none =>
    cases h
    exact ⟨fun _ ht => absurd ht List.not_mem_nil, fun _ hf => absurd hf (Option.not_mem_none _)⟩
  | some secure =>
    obtain ⟨name, -, h⟩ := (bind_ok _ _ _).mp h
    obtain ⟨selector, hselector, h⟩ := (bind_ok _ _ _).mp h
    obtain ⟨provider, hprovider, h⟩ := (bind_ok _ _ _).mp h
    obtain ⟨display, hdisplay, h⟩ := (bind_ok _ _ _).mp h
    cases h
    obtain ⟨hselectors, hselectorClean⟩ := fillSelector_ok hselector
    obtain ⟨hproviders, hproviderClean⟩ := fillSelector_ok hprovider
    obtain ⟨hdisplays, hdisplayClean⟩ := fillSelector?_ok hdisplay
    refine ⟨fun t ht => ?_, fun f hf => ?_⟩
    · rw [Option.toList_some, List.flatMap_singleton] at ht
      rcases List.mem_cons.mp ht with rfl | ht
      · exact identifier_available secure.name
      · rcases List.mem_append.mp ht with ht | ht
        · rcases List.mem_append.mp ht with ht | ht
          · exact hselectors t ht
          · exact hproviders t ht
        · exact hdisplays t ht
    · cases hf
      exact ⟨hselectorClean, hproviderClean, hdisplayClean⟩

private theorem fillOutput_ok {output filled : StepOutput} (h : fillOutput context output = .ok filled) :
    (∀ t ∈ StepOutput.texts output, Available context t) ∧ filled.selector.Clean := by
  obtain ⟨name, -, h⟩ := (bind_ok _ _ _).mp h
  obtain ⟨selector, hselector, h⟩ := (bind_ok _ _ _).mp h
  cases h
  obtain ⟨havailable, hclean⟩ := fillSelector_ok hselector
  exact ⟨List.forall_mem_cons.mpr ⟨identifier_available output.name, havailable⟩, hclean⟩

/-- A step that is filled in has all its variables, keeps its id, and has no blanks around its texts. -/
structure FilledIn (context : StepContext) (step resolved : PlaybookStep) : Prop where
  available : ∀ text ∈ stepTexts step.toStepFields, Available context text
  clean : resolved.toStepFields.Clean
  id : resolved.id = step.id

private theorem resolvePlaybookStep_ok {step resolved : PlaybookStep} (h : resolvePlaybookStep context step = .ok resolved) :
    FilledIn context step resolved := by
  rw [resolvePlaybookStep, fillIdentifier_self, ok_bind] at h
  obtain ⟨tool, htool, h⟩ := (bind_ok _ _ _).mp h
  obtain ⟨operation, hoperation, h⟩ := (bind_ok _ _ _).mp h
  obtain ⟨objective, hobjective, h⟩ := (bind_ok _ _ _).mp h
  obtain ⟨parameters, hparameters, h⟩ := (bind_ok _ _ _).mp h
  obtain ⟨checks, hchecks, h⟩ := (bind_ok _ _ _).mp h
  obtain ⟨selectors, hselectors, h⟩ := (bind_ok _ _ _).mp h
  obtain ⟨checkpoint, hcheckpoint, h⟩ := (bind_ok _ _ _).mp h
  obtain ⟨secure, hsecure, h⟩ := (bind_ok _ _ _).mp h
  obtain ⟨outputs, houtputs, h⟩ := (bind_ok _ _ _).mp h
  split at h
  case isFalse => cases h
  have hfields := PlaybookStep.build_ok h
  obtain ⟨htexts, htoolSolid⟩ := fillText_ok htool
  obtain ⟨hoperations, hoperationSolid⟩ := fillText_ok hoperation
  obtain ⟨hobjectives, hobjectiveSolid⟩ := fillText_ok hobjective
  obtain ⟨hparameterTexts, hparameterClean⟩ := collect_filled hparameters fun entry value => fillEntry_ok
  obtain ⟨hcheckTexts, hcheckClean⟩ := collect_fillString hchecks
  obtain ⟨hselectorTexts, hselectorClean⟩ := collect_filled hselectors fun selector value => fillSelector_ok
  obtain ⟨hcheckpointTexts, hcheckpointClean⟩ := fillCheckpoint?_ok hcheckpoint
  obtain ⟨hsecureTexts, hsecureClean⟩ := fillSecure?_ok hsecure
  obtain ⟨houtputTexts, houtputClean⟩ := collect_filled houtputs fun output value => fillOutput_ok
  refine ⟨fun text htext => ?_, ?_, ?_⟩
  · simp only [stepTexts, List.mem_append, List.mem_cons, List.not_mem_nil, or_false] at htext
    rcases htext with ((((((rfl | rfl | rfl | rfl) | ht) | ht) | ht) | ht) | ht) | ht
    · exact identifier_available step.id
    · exact htexts
    · exact hoperations
    · exact hobjectives
    · exact hparameterTexts _ ht
    · exact hcheckTexts _ ht
    · exact hselectorTexts _ ht
    · exact hcheckpointTexts _ ht
    · exact hsecureTexts _ ht
    · exact houtputTexts _ ht
  · rw [hfields]
    exact {
      tool := htoolSolid
      operation := hoperationSolid
      objective := hobjectiveSolid
      parameters := hparameterClean
      evidenceChecks := fun check hcheck => hcheckClean check (List.mem_toFinset.mp hcheck)
      selectors := hselectorClean
      checkpoint := hcheckpointClean
      secureField := hsecureClean
      outputs := houtputClean }
  · rw [hfields]

end

/-- The documents that the coordinator and the worker read. -/
structure Documents extends Catalog where
  runs : Collection (Identifier × Identifier) RotationRun

section
variable (hashes : Hashes) (documents : Documents) (session : BrowserSession)

/-- `_resolved_step`: what the worker expects for a template. -/
def expectedStep (template : PlaybookStep) : Except Error PlaybookStep := do
  let run ← found (documents.runs (session.organisationId, session.runId))
    s!"organisations/{session.organisationId.text}/runs/{session.runId.text}"
  let fields ← found (documents.credentials (session.organisationId, run.credentialId))
    (Coordinator.FirestorePaths.credential session.organisationId run.credentialId)
  let credential ← ManagedCredential.modelValidate fields
  let old ← optionalGeneration documents.toCatalog session.organisationId run.currentGenerationId
  let target ← optionalGeneration documents.toCatalog session.organisationId run.targetGenerationId
  resolvePlaybookStep (browserStepContext hashes run credential old target) template
    (some (decide (template.tool.value ∈ session.policy.protectedTools)))

def differs : Error := .capability "browser step differs from the immutable playbook"

/-- `_validate_step`: the step is the one that its template becomes. -/
def validateStep (step : PlaybookStep) : Except Error Unit := do
  let version ← found (documents.playbooks (session.organisationId, session.playbookId, session.playbookVersion))
    (Coordinator.FirestorePaths.playbookVersion session.organisationId session.playbookId session.playbookVersion)
  match version.definition.steps.filter (·.id = step.id) with
  | [template] => do
    let expected ← expectedStep hashes documents session template
    raiseIf (step ≠ expected) differs
  | _ => .error differs

def receiveStep (json : Json) : Except Error PlaybookStep := do
  let step ← stepCodec.read json
  validateStep hashes documents session step
  return step

end

section
variable (hashes : Hashes) (catalog : Catalog) (run : RotationRun)

def sentStep (step : PlaybookStep) : Except Error PlaybookStep := do
  let values ← stepContext hashes catalog run
  resolvePlaybookStep values step

end

/-- What the coordinator and the worker have in common about a step and its template. -/
structure Agreement (hashes : Hashes) (documents : Documents) (session : BrowserSession) (run : RotationRun)
    (template step : PlaybookStep) : Prop where
  /-- The step that is sent is the step that is expected. -/
  same : ∀ resolved, sentStep hashes documents.toCatalog run step = .ok resolved ↔
    expectedStep hashes documents session template = .ok resolved
  /-- What is sent comes through as it is, and is accepted. -/
  received : ∀ resolved, sentStep hashes documents.toCatalog run step = .ok resolved →
    receiveStep hashes documents session (stepCodec.write resolved) = .ok resolved
  /-- The values of the variables are not looked at again. -/
  single_pass : ∀ values, stepContext hashes documents.toCatalog run = .ok values →
    ∀ text ∈ stepTexts template.toStepFields, resolvePlaybookText values text = (do
      return String.ofList (← collect (pieces 0 text.toList) (Piece.fill values)).flatten)
  /-- Without one of the variables there is no step, on neither side. -/
  unavailable : ∀ values, stepContext hashes documents.toCatalog run = .ok values →
    (∃ text ∈ stepTexts template.toStepFields, ¬ Available values text) → ∀ resolved,
      sentStep hashes documents.toCatalog run step ≠ .ok resolved ∧
      expectedStep hashes documents session template ≠ .ok resolved

private theorem filter_key {α β : Type} [DecidableEq β] {key : α → β} {items : List α} (h : (items.map key).Nodup)
    {item : α} (hitem : item ∈ items) : items.filter (fun other => key other = key item) = [item] := by
  induction items with
  | nil => cases hitem
  | cons head items ih =>
    obtain ⟨hhead, hrest⟩ := List.nodup_cons.mp h
    rcases List.mem_cons.mp hitem with rfl | hitem
    · have hnone : items.filter (fun other => key other = key item) = [] := by
        refine List.filter_eq_nil_iff.mpr fun other hother he => hhead ?_
        rw [← of_decide_eq_true he]
        exact List.mem_map_of_mem hother
      rw [List.filter_cons, if_pos (decide_eq_true rfl), hnone]
    · have hne : key head ≠ key item := fun he => hhead (he ▸ List.mem_map_of_mem hitem)
      rw [List.filter_cons_of_neg (by simpa using hne), ih hrest hitem]

section
variable {hashes : Hashes} {documents : Documents} {session : BrowserSession} {run : RotationRun}
  (hrun : documents.runs (session.organisationId, session.runId) = some run)
  (horganisation : run.organisationId = session.organisationId)
include hrun horganisation

private theorem expectedStep_ok {template resolved : PlaybookStep} :
    expectedStep hashes documents session template = .ok resolved ↔
      sentStep hashes documents.toCatalog run
        (protectStep template (decide (template.tool.value ∈ session.policy.protectedTools))) = .ok resolved := by
  simp only [expectedStep, sentStep, stepContext, found_bind_ok, ← horganisation] at hrun ⊢
  constructor
  · rintro ⟨stored, hstored, fields, hfields, h⟩
    cases hrun.symm.trans hstored
    obtain ⟨credential, hcredential, h⟩ := (bind_ok _ _ _).mp h
    obtain ⟨old, hold, h⟩ := (bind_ok _ _ _).mp h
    obtain ⟨target, htarget, h⟩ := (bind_ok _ _ _).mp h
    have hread : Coordinator.credential documents.toCatalog run = .ok credential := by
      rw [credential_ok, hfields, (ManagedCredential.modelValidate_ok _ _).mp hcredential]
    rw [htarget, ok_bind, hold, ok_bind, hread, ok_bind]
    exact h
  · intro h
    obtain ⟨values, hvalues, h⟩ := (bind_ok _ _ _).mp h
    obtain ⟨target, htarget, hvalues⟩ := (bind_ok _ _ _).mp hvalues
    obtain ⟨old, hold, hvalues⟩ := (bind_ok _ _ _).mp hvalues
    obtain ⟨credential, hcredential, hvalues⟩ := (bind_ok _ _ _).mp hvalues
    cases hvalues
    have hread : ManagedCredential.modelValidate credential.toCredentialFields = .ok credential :=
      (ManagedCredential.modelValidate_ok _ _).mpr rfl
    refine ⟨run, hrun, credential.toCredentialFields, credential_ok.mp hcredential, ?_⟩
    rw [hread, ok_bind, hold, ok_bind, htarget, ok_bind]
    exact h

variable {version : PlaybookVersion}
  (hversion : documents.playbooks (session.organisationId, session.playbookId, session.playbookVersion) = some version)
include hversion

private theorem receive_sent {template resolved : PlaybookStep} (htemplate : template ∈ version.definition.steps)
    (h : sentStep hashes documents.toCatalog run
      (protectStep template (decide (template.tool.value ∈ session.policy.protectedTools))) = .ok resolved) :
    receiveStep hashes documents session (stepCodec.write resolved) = .ok resolved := by
  obtain ⟨values, -, hfilled⟩ := (bind_ok _ _ _).mp h
  obtain ⟨-, hclean, hid⟩ := resolvePlaybookStep_ok hfilled
  have hread : stepCodec.read (stepCodec.write resolved) = .ok resolved := stepCodec_restores hclean
  have hid : resolved.id = template.id := hid
  have hfilter : version.definition.steps.filter (fun step => step.id = resolved.id) = [template] := by
    rw [hid]
    exact filter_key version.definition.ids_nodup htemplate
  have hvalid : validateStep hashes documents session resolved = .ok () := by
    rw [validateStep, found_bind_ok]
    refine ⟨version, hversion, ?_⟩
    rw [hfilter]
    refine (bind_ok _ _ _).mpr ⟨resolved, (expectedStep_ok hrun horganisation).mpr h, ?_⟩
    exact (raiseIf_ok _ _ ()).mpr fun hne => hne rfl
  rw [receiveStep, hread, ok_bind, hvalid]
  rfl

end

section
variable {hashes : Hashes} {documents : Documents} {session : BrowserSession} {run : RotationRun}
  {context : RotationContext} {version : PlaybookVersion} {controls : ControlVersion} {stage : Stage}
  {steps : List ProviderStep}

def sampleDocuments : Documents where
  toCatalog := { sampleCatalog with
    playbooks := Collection.empty.set (organisationOne, playbookOne, playbookVersionOne) PlaybookVersion.sample }
  runs := Collection.empty.set (organisationOne, runOne) (sampleDeployed .revoke 9)

def sampleContext : RotationContext where
  credential := sampleCredential
  provider := sampleProvider
  secretStore := sampleSecretStore
  bindings := [sampleStaged]
  browserPlaybook := some PlaybookVersion.sample

private theorem sampleDocuments_controls :
    control Hashes.sample sampleDocuments.toCatalog (sampleDeployed .revoke 9) = .ok sampleRolloutControls :=
  control_ok.mpr ⟨rfl, rfl, rfl, rfl, rfl⟩

private theorem sampleDocuments_steps :
    providerSteps Hashes.sample sampleDocuments.toCatalog (sampleDeployed .revoke 9) sampleContext .revoke =
      .ok [.playbook (protectStep sampleRevocation false)] := by
  rw [providerSteps, sampleDocuments_controls, ok_bind]
  rfl

end

end Uumi.Browser
