import Uumi.Contracts.Browser
import Uumi.Coordinator.Revocation

/-! The executor of one playbook step in a browser: a control that the worker performs at once, or a loop in which the
model proposes the actions. -/
namespace Uumi.Coordinator
open Uumi.Contracts Uumi.Core Uumi.Foundations Uumi.Policy

/-- A request to the browser worker. -/
inductive WorkerRequest where
  | control (tool path : String) (step : PlaybookStep)
  | propose (step : PlaybookStep) (objective : String)
  | execute (actionId : String) (confirmed : Bool)

/-- What the executor asks others about one step, each of whom may raise. -/
structure BrowserWorker where
  /-- The session of the run, with its number of actions. -/
  session : Except Error (Identifier × Nat)
  /-- The answer to the request of a number. -/
  post : Nat → WorkerRequest → Option Approval → Except Error Output
  /-- The session in an answer. -/
  readSession : Option Json → Except Error (Identifier × BrowserStatus)
  installSecret : Option (Except Error Unit)
  freeze : Identifier → Except Error Unit

/-- How the executor completed a step. -/
inductive Finish where
  | control
  | captured (fields : Output)
  | completed (outputs : Output)

def Output.merge (entries others : Output) : Output :=
  entries.filter (fun entry => (others.lookup entry.1).isNone) ++ others

def Finish.output (sessionId : Identifier) (step : PlaybookStep) (finish : Finish) : Output :=
  let entries : Output := [("session_id", .str sessionId.text), ("step_id", .str step.id.text),
    ("objective", .str step.objective.value), ("operation", .str step.operation.value)]
  match finish with
  | .control => entries ++ [("outcome", .str "Approved browser control completed"), ("done", .bool true)]
  | .captured fields => Output.merge (entries ++ [("outcome", .str "Secret captured and masked")]) fields
  | .completed outputs => Output.merge (entries ++ [("outcome", .str "Step completed"), ("done", .bool true)]) outputs

/-- `DETERMINISTIC_BROWSER_OPERATIONS`: the path of a control. -/
def controlPath (step : PlaybookStep) : Option String :=
  [(("browser.navigate", "navigate"), "/v1/steps/navigate"), (("browser.click", "click"), "/v1/steps/click"),
    (("browser.fill", "fill"), "/v1/steps/fill"), (("browser.select", "select"), "/v1/steps/select"),
    (("browser.secure-capture", "click"), "/v1/steps/capture"),
    (("browser.revokeCredential", "click"), "/v1/steps/revoke")].lookup (step.tool.value, step.operation.value)

def Output.present? (output : Output) (key : String) : Option Json :=
  match output.lookup key with
  | some .null => none
  | value => value

def captured : Json → Output
  | .obj fields => fields
  | capture => [("capture", capture)]

def isText : Json → Bool
  | .str _ => true
  | _ => false

def declaredOutputs (output : Output) : Except Error Output :=
  match output.lookup "outputs" with
  | none => .ok []
  | some (.obj fields) =>
    if fields.all (isText ·.2) then .ok fields
    else .error (.runtime "browser worker returned invalid declared outputs")
  | some _ => .error (.runtime "browser worker returned invalid declared outputs")

section
variable (worker : BrowserWorker) (step : PlaybookStep) (approval : Option Approval)

def secureAccess : Except Error Unit :=
  if step.secureField.isSome then
    match worker.installSecret with
    | none => .error (.runtime "browser secure capture authorization is unavailable")
    | some install => install
  else .ok ()

def pauseStep (reason outcome : String) (entries : List (String × Json)) : Error :=
  .browserPause reason (Json.obj (entries ++ [("step_id", .str step.id.text), ("objective", .str step.objective.value),
    ("operation", .str step.operation.value), ("outcome", .str outcome), ("takeover_required", .bool true)])).text

def Output.nonempty (output : Output) (key fallback : String) : String :=
  match output.text? key with
  | some value => if value = "" then fallback else value
  | none => fallback

def proposedAction (proposal : Output) : Option String :=
  match proposal.lookup "action" with
  | some (.obj action) => Output.text? action "id"
  | _ => none

/-- The model proposes an action, and the worker performs it, at most as often as the session allows. -/
def operateStep (sessionId : Identifier) (requests : Nat) : Nat → Except Error (Identifier × Finish)
  | 0 => .error (.runtime "browser step exceeded the playbook action budget")
  | actions + 1 => do
    let proposal ← worker.post requests (.propose step step.objective.value) none
    if proposal.isTrue "done" then do
      let outputs ← declaredOutputs proposal
      return (sessionId, .completed outputs)
    else do
      let actionId ← required (proposedAction proposal) (.runtime "browser worker returned no deterministic action")
      if proposal.isTrue "requires_confirmation" ∧ approval = none then do
        worker.freeze sessionId
        .error (pauseStep step (proposal.nonempty "safety_explanation" "browser action needs takeover")
          "Confirmation required" [("session_id", .str sessionId.text), ("action_id", .str actionId)])
      else do
        secureAccess worker step
        let result ← worker.post (requests + 1) (.execute actionId approval.isSome) approval
        let (sessionId, status) ← worker.readSession (result.lookup "session")
        match result.present? "capture" with
        | some capture => return (sessionId, .captured (captured capture))
        | none =>
          if status = .running ∧ result.isTrue "completed" then do
            let outputs ← declaredOutputs result
            return (sessionId, .completed outputs)
          else if status = .paused then
            .error (pauseStep step (result.nonempty "paused_reason" "browser execution paused") "Step paused"
              [("session_id", .str sessionId.text),
                ("secure_field", (step.secureField.map fun secure => Json.str secure.name.text).getD .null)])
          else operateStep sessionId (requests + 2) actions

def performControl (path : String) : Except Error (Identifier × Finish) := do
  secureAccess worker step
  let result ← worker.post 0 (.control step.tool.value path step) approval
  let (sessionId, _) ← worker.readSession (result.lookup "session")
  match result.present? "capture" with
  | some capture => return (sessionId, .captured (captured capture))
  | none => return (sessionId, .control)

/-- `BrowserStepExecutor.execute`, up to the fields that it returns. -/
def finishStep : Except Error (Identifier × Finish) := do
  let (sessionId, actions) ← worker.session
  match controlPath step with
  | some path => performControl worker step approval path
  | none => operateStep worker step approval sessionId 0 actions

/-- `BrowserStepExecutor.execute`. -/
def executeInBrowser : Except Error Output := do
  let (sessionId, finish) ← finishStep worker step approval
  return finish.output sessionId step

end

private theorem Output.lookup_merge (entries others : Output) (key : String) :
    (Output.merge entries others).lookup key = (others.lookup key).or (entries.lookup key) := by
  rw [Output.merge, List.lookup_append]
  cases hothers : others.lookup key with
  | some value =>
    have absent : (entries.filter fun entry => (others.lookup entry.1).isNone).lookup key = none := by
      rw [List.lookup_eq_none_iff]
      intro entry hentry
      have hnone := (List.mem_filter.mp hentry).2
      rw [bne_iff_ne]
      rintro rfl
      rw [hothers] at hnone
      cases hnone
    rw [absent, Option.none_or, Option.some_or]
  | none =>
    rw [Option.or_none, Option.none_or]
    induction entries with
    | nil => rfl
    | cons entry entries ih =>
      rw [List.filter_cons]
      by_cases same : key = entry.1
      · rw [if_pos (by rw [← same, hothers]; rfl), List.lookup_cons, List.lookup_cons, same, beq_self_eq_true]
      · have other : (key == entry.1) = false := beq_false_of_ne same
        split
        · rw [List.lookup_cons, List.lookup_cons, other]
          exact ih
        · rw [List.lookup_cons, other]
          exact ih

/-- The outcome that the coordinator takes for a proof of the revocation: the model-driven loop completed the step, and
no output of the step has the name of the outcome. -/
def Finish.Proves : Finish → Prop
  | .control => False
  | .captured fields => fields.lookup "outcome" = some (.str "Step completed")
  | .completed outputs => outputs.lookup "outcome" = none ∨ outputs.lookup "outcome" = some (.str "Step completed")

/-- The output of a finished step says that it completed exactly when the finish proves it. -/
theorem Finish.text_outcome {finish : Finish} {sessionId : Identifier} {step : PlaybookStep} {rest : Output} :
    Output.text? (finish.output sessionId step ++ rest) "outcome" = some "Step completed" ↔ finish.Proves := by
  rw [Output.text?, List.lookup_append]
  cases finish with
  | control => simp [Finish.output, Finish.Proves, List.lookup]
  | captured fields =>
    rw [Finish.output, Output.lookup_merge, Finish.Proves]
    cases hfield : fields.lookup "outcome" with
    | none => simp [List.lookup]
    | some value => cases value <;> simp
  | completed outputs =>
    rw [Finish.output, Output.lookup_merge, Finish.Proves]
    cases hfield : outputs.lookup "outcome" with
    | none => simp [List.lookup]
    | some value => cases value <;> simp

/-- Where the worker captures nothing, no control proves the revocation. -/
theorem control_never_proves {worker : BrowserWorker} {step : PlaybookStep} {approval : Option Approval}
    (hcontrol : controlPath step ≠ none)
    (hcapture : ∀ requests request approval result, worker.post requests request approval = .ok result →
      result.present? "capture" = none)
    {sessionId : Identifier} {finish : Finish} (h : finishStep worker step approval = .ok (sessionId, finish)) :
    ¬ finish.Proves := by
  obtain ⟨path, hpath⟩ := Option.ne_none_iff_exists'.mp hcontrol
  rw [finishStep, bind_ok] at h
  obtain ⟨⟨session, actions⟩, -, h⟩ := h
  rw [hpath] at h
  simp only [performControl, unit_bind_ok] at h
  obtain ⟨-, h⟩ := h
  rw [bind_ok] at h
  obtain ⟨result, hpost, h⟩ := h
  rw [bind_ok] at h
  obtain ⟨⟨found, status⟩, -, h⟩ := h
  rw [hcapture _ _ _ _ hpost] at h
  obtain ⟨-, rfl⟩ := Prod.mk.inj (Except.ok.inj h)
  exact id

/-- The browser of the coordinator is this executor, with a worker that may answer each step in its own way. -/
def Peers.driving (peers : Peers) (workers : PlaybookStep → BrowserWorker) : Peers :=
  { peers with browser := fun _ _ _ step approval => executeInBrowser (workers step) step approval }

end Uumi.Coordinator
