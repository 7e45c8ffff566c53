import Uumi.Browser.Storage

/-! The browser service: thirteen operations, each with a guard of its own, on the document of one session. -/
namespace Uumi.Browser
open Uumi.Contracts Uumi.Core Uumi.Foundations

/-- The times that one operation reads: for the expiry, for the change, and for what it records besides. -/
structure Clock where
  checked : AwareDatetime
  written : AwareDatetime
  recorded : AwareDatetime

namespace Service
variable (store : BrowserStore) (clock : Clock) (o id : Identifier) (revision : Nat)

def checkRevision (current : BrowserSession) : Except Error Unit :=
  raiseIf (current.revision ≠ revision)
    (.resourceConflict s!"browser expected revision {revision}, found {current.revision}")

def current : Except Error BrowserSession := do
  let current ← Repository.get store o id
  checkRevision revision current
  raiseIf (current.expiresAt ≤ clock.checked) (.resourceConflict "browser session has expired")
  return current

/-- `_change`: edited fields are not validated. -/
def change (current : SessionFields) (edit : SessionFields → SessionFields) : SessionFields :=
  { edit current with updatedAt := clock.written, revision := current.revision + 1 }

def act (check : BrowserSession → Except Error Unit) (edit : SessionFields → SessionFields) :
    Except Error (SessionFields × BrowserStore) := do
  let current ← current store clock o id revision
  check current
  Repository.update store o id revision (change clock current.toSessionFields edit)

def checkStatus (allowed : List BrowserStatus) (message : String) (current : BrowserSession) : Except Error Unit :=
  raiseIf (current.status ∉ allowed) (.resourceConflict message)

def barred (status : BrowserStatus) (session : SessionFields) : SessionFields :=
  { session with status, modelPaused := true, recordingPaused := true }

def unbarred (session : SessionFields) : SessionFields :=
  { session with status := .running, modelPaused := false, recordingPaused := false }

def create (session : BrowserSession) : Except Error (SessionFields × BrowserStore) := do
  raiseIf (session.status ≠ .provisioning) (.resourceConflict "browser sessions must begin in provisioning")
  raiseIf (session.modelPaused = false ∨ session.recordingPaused = false)
    (.resourceConflict "browser barriers must remain armed during provisioning")
  Repository.create store session

def attach (worker address : String) : Except Error (SessionFields × BrowserStore) :=
  act store clock o id revision (checkStatus [.provisioning] "only a provisioning browser can attach a VM")
    fun session => { session with status := .ready, workerInstance := some worker, internalAddress := some address }

def start : Except Error (SessionFields × BrowserStore) :=
  act store clock o id revision (checkStatus [.ready, .paused] "browser is not ready to start") unbarred

def rebindFence (fencingToken : Nat) : Except Error (SessionFields × BrowserStore) :=
  act store clock o id revision
    (fun current => do
      checkStatus [.ready, .paused] "only an inactive browser can accept a renewed run fence" current
      raiseIf (fencingToken ≤ current.fencingToken) (.resourceConflict "browser fence must advance monotonically"))
    fun session => { session with fencingToken }

def armCapture : Except Error (SessionFields × BrowserStore) :=
  act store clock o id revision (checkStatus [.running] "secure capture can only arm a running browser")
    (barred .capturing)

def armHumanCapture : Except Error (SessionFields × BrowserStore) :=
  act store clock o id revision
    (checkStatus [.takeover, .paused] "human secure input requires takeover or a paused session") (barred .capturing)

/-- After a capture the session goes back to the operator who took it over, or to the model. -/
def resumed (session : SessionFields) : SessionFields :=
  if session.takeoverSubject.isSome then barred .takeover session else unbarred session

/-- A resumed session drops a takeover barrier, and has none without a takeover. -/
theorem resumed_eq (session : SessionFields) :
    (session.takeoverSubject.isSome ∧ resumed session = barred .takeover session) ∨
      (session.takeoverSubject = none ∧ resumed session = unbarred session) := by
  unfold resumed
  split
  · rename_i h
    exact .inl ⟨h, rfl⟩
  · rename_i h
    rw [Bool.not_eq_true, Option.isSome_eq_false_iff, Option.isNone_iff_eq_none] at h
    exact .inr ⟨h, rfl⟩

def completeCapture (result : SecureCaptureResult) : Except Error (SessionFields × BrowserStore) := do
  let current ← current store clock result.organisationId result.sessionId revision
  checkStatus [.capturing] "secure capture barrier is not armed" current
  Repository.completeCapture store current (change clock current.toSessionFields resumed) result

/-- The only change without a guard on the status. -/
def freeze : Except Error (SessionFields × BrowserStore) :=
  act store clock o id revision (fun _ => .ok ()) (barred .paused)

def takeover (subject : String) : Except Error (SessionFields × BrowserStore) :=
  act store clock o id revision
    (checkStatus [.running, .paused] "browser cannot enter takeover from its current state")
    fun session => { barred .takeover session with takeoverSubject := some subject }

def releaseTakeover (subject : String) : Except Error (SessionFields × BrowserStore) :=
  act store clock o id revision
    (fun current => raiseIf (current.status ≠ .takeover ∨ current.takeoverSubject ≠ some subject)
      (.resourceConflict "only the takeover owner can release the browser"))
    fun session => { barred .paused session with takeoverSubject := none }

def checkAction (action : BrowserAction) (current : BrowserSession) : Except Error Unit := do
  raiseIf (current.status ∉ [.running, .takeover] ∧ ¬ (current.status = .capturing ∧ action.isProtected = true ∧
      current.modelPaused = true ∧ current.recordingPaused = true))
    (.resourceConflict "browser session is not accepting actions")
  raiseIf (action.sessionId ≠ id ∨ action.fencingToken ≠ current.fencingToken)
    (.resourceConflict "browser action holds a stale session fence")
  raiseIf (action.kind ∉ current.policy.allowedActions)
    (.resourceConflict "browser action is not allowed by session policy")
  raiseIf (current.status = .takeover ∧ action.isProtected = true)
    (.resourceConflict "takeover cannot self-authorise a protected action")

/-- The action for its record: typed text is redacted, and a URL keeps its scheme, host and path. -/
def recorded (metadataUrl : String → String) (action : BrowserAction) : RecordedAction where
  id := action.id
  sessionId := action.sessionId
  kind := action.kind
  selector := action.selector
  value := if action.kind = .type then some "<redacted>" else action.value.map Text.value
  url := action.url.map fun url => metadataUrl url.value
  isProtected := action.isProtected
  expectedUrl := action.expectedUrl
  expectedText := action.expectedText
  forbiddenText := action.forbiddenText
  fencingToken := action.fencingToken

def counted (session : SessionFields) : SessionFields := { session with stepCount := session.stepCount + 1 }

def authorizeAction (metadataUrl : String → String) (action : BrowserAction) :
    Except Error (SessionFields × BrowserStore) := do
  let current ← current store clock o id revision
  checkAction id action current
  Repository.beginAction store current (change clock current.toSessionFields counted) (recorded metadataUrl action)
    clock.recorded

/-- What a session is provisioned with. -/
structure Provision where
  providerConnectionId : Identifier
  playbookId : Identifier
  playbookVersion : Identifier
  secretStoreConnectionId : Identifier
  secretResource : Text 1 1024
  policy : BrowserPolicy
  fencingToken : Nat
  expiresAt : AwareDatetime

def reprovisioned (provision : Provision) (session : SessionFields) : SessionFields :=
  { barred .provisioning session with
    providerConnectionId := provision.providerConnectionId
    playbookId := provision.playbookId
    playbookVersion := provision.playbookVersion
    secretStoreConnectionId := provision.secretStoreConnectionId
    secretResource := provision.secretResource
    policy := provision.policy
    fencingToken := provision.fencingToken
    workerInstance := none
    internalAddress := none
    terminatedAt := none
    stepCount := 0
    takeoverSubject := none
    expiresAt := provision.expiresAt }

/-- A terminated session begins anew, expired or not. -/
def reprovision (provision : Provision) : Except Error (SessionFields × BrowserStore) := do
  let current ← Repository.get store o id
  checkRevision revision current
  checkStatus [.terminated] "only a terminated browser can be reprovisioned" current
  Repository.update store o id revision (change clock current.toSessionFields (reprovisioned provision))

def terminate : Except Error (SessionFields × BrowserStore) :=
  act store clock o id revision (fun _ => .ok ())
    fun session => { barred .terminated session with terminatedAt := some clock.recorded }

end Service

inductive Operation where
  | create (session : BrowserSession)
  | attach (o id : Identifier) (revision : Nat) (worker address : String)
  | start (o id : Identifier) (revision : Nat)
  | rebindFence (o id : Identifier) (revision fencingToken : Nat)
  | armCapture (o id : Identifier) (revision : Nat)
  | armHumanCapture (o id : Identifier) (revision : Nat)
  | completeCapture (result : SecureCaptureResult) (revision : Nat)
  | freeze (o id : Identifier) (revision : Nat)
  | takeover (o id : Identifier) (revision : Nat) (subject : String)
  | releaseTakeover (o id : Identifier) (revision : Nat) (subject : String)
  | authorizeAction (o id : Identifier) (revision : Nat) (action : BrowserAction)
  | reprovision (o id : Identifier) (revision : Nat) (provision : Service.Provision)
  | terminate (o id : Identifier) (revision : Nat)

def perform (metadataUrl : String → String) (store : BrowserStore) (clock : Clock) :
    Operation → Except Error (SessionFields × BrowserStore)
  | .create session => Service.create store session
  | .attach o id revision worker address => Service.attach store clock o id revision worker address
  | .start o id revision => Service.start store clock o id revision
  | .rebindFence o id revision fencingToken => Service.rebindFence store clock o id revision fencingToken
  | .armCapture o id revision => Service.armCapture store clock o id revision
  | .armHumanCapture o id revision => Service.armHumanCapture store clock o id revision
  | .completeCapture result revision => Service.completeCapture store clock revision result
  | .freeze o id revision => Service.freeze store clock o id revision
  | .takeover o id revision subject => Service.takeover store clock o id revision subject
  | .releaseTakeover o id revision subject => Service.releaseTakeover store clock o id revision subject
  | .authorizeAction o id revision action => Service.authorizeAction store clock o id revision metadataUrl action
  | .reprovision o id revision provision => Service.reprovision store clock o id revision provision
  | .terminate o id revision => Service.terminate store clock o id revision

def after (metadataUrl : String → String) (store : BrowserStore) (clock : Clock) (operation : Operation) : BrowserStore :=
  match perform metadataUrl store clock operation with
  | .ok (_, written) => written
  | .error _ => store

end Uumi.Browser
