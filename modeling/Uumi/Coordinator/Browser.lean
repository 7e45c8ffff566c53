import Uumi.Browser.Changes
import Uumi.Contracts.Credential
import Uumi.Contracts.Inventory
import Uumi.Foundations.Json

/-! The browser of a run: the coordinator obtains its session, whatever the last stage left, and releases it. -/
namespace Uumi.Coordinator
open Uumi.Browser Uumi.Contracts Uumi.Core Uumi.Foundations

/-- `_session_id`, as a text. -/
def sessionIdText (runId : String) : String :=
  let rest := if "run_".toList.isPrefixOf runId.toList then runId.toList.drop 4 else runId.toList
  String.ofList (("browser_".toList ++ rest).take 128)

private theorem accepted_of_chars {c : Char} {l : List Char} (hc : identifierAccepts.lower c = true)
    (hl : ∀ d ∈ l, (identifierAccepts.lower d || ('0' ≤ d && d ≤ '9') || d == '_' || d == '-') = true)
    (hmin : 2 ≤ l.length) (hmax : l.length ≤ 127) : identifierAccepts (String.ofList (c :: l)) = true := by
  have hlength : (String.ofList (c :: l)).length = l.length + 1 := by
    rw [String.length_ofList, List.length_cons]
  unfold identifierAccepts
  rw [String.toList_ofList]
  simp only [hc, hlength, Bool.true_and, Bool.and_eq_true, List.all_eq_true, decide_eq_true_eq]
  exact ⟨⟨hl, by omega⟩, by omega⟩

private theorem chars_of_accepted {id : Identifier} {d : Char} (hd : d ∈ id.text.toList) :
    (identifierAccepts.lower d || ('0' ≤ d && d ≤ '9') || d == '_' || d == '-') = true := by
  have h := id.accepted
  unfold identifierAccepts at h
  split at h
  · cases h
  · rename_i c cs hcs
    simp only [Bool.and_eq_true, List.all_eq_true] at h
    rw [hcs] at hd
    rcases List.mem_cons.mp hd with rfl | hd
    · rw [h.1.1.1]
      rfl
    · exact h.1.1.2 d hd

private theorem sessionIdText_accepted (runId : Identifier) : identifierAccepts (sessionIdText runId.text) = true := by
  unfold sessionIdText
  generalize hrest : (if "run_".toList.isPrefixOf runId.text.toList then runId.text.toList.drop 4
    else runId.text.toList) = rest
  have hmem : ∀ d ∈ rest, d ∈ runId.text.toList := by
    intro d hd
    rw [← hrest] at hd
    split at hd
    · exact List.mem_of_mem_drop hd
    · exact hd
  change identifierAccepts (String.ofList ('b' :: ("rowser_".toList ++ rest).take 127)) = true
  refine accepted_of_chars rfl (fun d hd => ?_) ?_ ?_
  · rcases List.mem_append.mp (List.mem_of_mem_take hd) with hd | hd
    · have hall : ("rowser_".toList.all fun d =>
          identifierAccepts.lower d || ('0' ≤ d && d ≤ '9') || d == '_' || d == '-') = true := by decide +kernel
      exact List.all_eq_true.mp hall d hd
    · exact chars_of_accepted (hmem d hd)
  · rw [List.length_take, List.length_append, show "rowser_".toList.length = 7 from rfl]
    omega
  · rw [List.length_take]
    omega

def sessionId (runId : Identifier) : Identifier := ⟨sessionIdText runId.text, sessionIdText_accepted runId⟩

/-- The browser sessions, and the VMs that exist in the zone of the workers. -/
structure BrowserWorld where
  sessions : BrowserStore
  zone : String
  machines : Finset String

namespace BrowserWorld
variable (world : BrowserWorld)

def checkZone (machine : String) : Except Error Unit :=
  raiseIf (world.zone.toList.isPrefixOf machine.toList = false)
    (.connector "browser-instance-scope" "browser VM is outside its zone" false)

/-- `BrowserVmManager.exists`. -/
def machineExists (machine : String) : Except Error Bool := do
  world.checkZone machine
  return machine ∈ world.machines

/-- `BrowserVmManager.delete`. A VM that is gone already is no error. -/
def deleteMachine (machine : String) : Except Error BrowserWorld := do
  world.checkZone machine
  return { world with machines := world.machines.erase machine }

def deleteWorker (session : SessionFields) : Except Error BrowserWorld :=
  match session.workerInstance with
  | none => .ok world
  | some machine => world.deleteMachine machine

end BrowserWorld

/-- `BrowserVm`: what a VM that was created is reached by. -/
structure BrowserVm where
  machine : String
  internalAddress : String

/-- The times that obtaining a session reads, in order, each when it is needed. -/
structure SessionTimes where
  look : AwareDatetime
  terminating : Clock
  now : AwareDatetime
  reprovisioning : Clock
  attaching : Clock
  rebinding : Clock
  starting : Clock

def sessionLifetime : Int := 30 * 60 * 1000000

def expiryOf (now : AwareDatetime) : AwareDatetime := { now with instant := now.instant + sessionLifetime }

def findSession (store : BrowserStore) (o id : Identifier) : Except Error (Option BrowserSession) :=
  match store.sessions (o, id) with
  | none => .ok none
  | some document => do return some (← BrowserSession.modelValidate document)

def gone (world : BrowserWorld) (session : SessionFields) (look : AwareDatetime) : Except Error Bool :=
  if session.expiresAt ≤ look then .ok true
  else
    match session.workerInstance with
    | none => .ok true
    | some machine => do return !(← world.machineExists machine)

def discardGone (world : BrowserWorld) (session : BrowserSession) (times : SessionTimes) :
    Except Error (SessionFields × BrowserWorld) := do
  if session.status = .terminated then return (session.toSessionFields, world)
  else if ← gone world session.toSessionFields times.look then do
    let (terminated, sessions) ← Service.terminate world.sessions times.terminating session.organisationId session.id
      session.revision
    let released ← { world with sessions }.deleteWorker terminated
    return (terminated, released)
  else return (session.toSessionFields, world)

section
variable (run : RotationRun) (connection : Connection) (version : PlaybookVersion) (credential : ManagedCredential)
  (protectedTools : Finset String) (times : SessionTimes) (vm : BrowserVm)

def needsLogin : Error :=
  .browserPause "connection still needs login" (Json.obj [
    ("authentication_required", .bool true), ("connection_id", .str connection.id.text),
    ("session_id", .str (sessionId run.id).text)]).text

def checkConnection : Except Error Unit := do
  raiseIf (connection.interface ≠ .browser ∨ .provider ∉ connection.roles ∨
      connection.authorization ≠ .browserSession ∨ connection.playbookId ≠ some version.playbookId ∨
      connection.playbookVersionId ≠ some version.id)
    (.runtime "browser run connection and published playbook differ")
  raiseIf (connection.status ≠ .ready ∨ connection.authorizationReference = none ∨
      ∃ expires ∈ connection.authorizationExpiresAt, expires ≤ times.now)
    (needsLogin run connection)

def sessionPolicy : BrowserPolicy where
  allowedDomains := version.definition.allowedDomains
  allowedActions := BrowserActionKind.all
  protectedTools := protectedTools
  loginUrlPattern := version.definition.loginUrlPattern
  domains_nonempty := by
    have h := version.definition.accepted
    simp only [DraftFields.validateBrowserProcedure, unit_bind_ok, raiseIf_ok, not_or] at h
    exact h.1.1
  actions_nonempty := by decide
  steps_bounded := by decide

def newSession : SessionFields where
  id := sessionId run.id
  organisationId := run.organisationId
  runId := run.id
  playbookId := version.playbookId
  playbookVersion := version.id
  providerConnectionId := connection.id
  secretStoreConnectionId := credential.secretStoreConnectionId
  secretResource := credential.secretResource
  status := .provisioning
  policy := sessionPolicy version protectedTools
  fencingToken := run.fencingToken
  createdAt := times.now
  expiresAt := expiryOf times.now
  updatedAt := times.now

def provisionOf : Service.Provision where
  providerConnectionId := connection.id
  playbookId := version.playbookId
  playbookVersion := version.id
  secretStoreConnectionId := credential.secretStoreConnectionId
  secretResource := credential.secretResource
  policy := sessionPolicy version protectedTools
  fencingToken := run.fencingToken
  expiresAt := expiryOf times.now

def provision (world : BrowserWorld) (found : Option SessionFields) : Except Error (SessionFields × BrowserWorld) := do
  checkConnection run connection version times
  let (session, sessions) ← match found with
    | none => do
      let session ← BrowserSession.modelValidate
        (newSession run connection version credential protectedTools times)
      Service.create world.sessions session
    | some session =>
      Service.reprovision world.sessions times.reprovisioning session.organisationId session.id session.revision
        (provisionOf run connection version credential protectedTools times)
  let (attached, sessions) ← Service.attach sessions times.attaching session.organisationId session.id session.revision
    vm.machine vm.internalAddress
  return (attached, { world with sessions, machines := insert vm.machine world.machines })

def rebind (world : BrowserWorld) (session : SessionFields) : Except Error (SessionFields × BrowserWorld) := do
  if session.fencingToken ≠ run.fencingToken then
    let (rebound, sessions) ← Service.rebindFence world.sessions times.rebinding session.organisationId session.id
      session.revision run.fencingToken
    return (rebound, { world with sessions })
  else return (session, world)

def activate (world : BrowserWorld) (session : SessionFields) : Except Error (SessionFields × BrowserWorld) := do
  if session.status ∈ [.ready, .paused] then
    let (started, sessions) ← Service.start world.sessions times.starting session.organisationId session.id
      session.revision
    return (started, { world with sessions })
  else return (session, world)

def settle (world : BrowserWorld) (session : SessionFields) : Except Error (SessionFields × BrowserWorld) := do
  raiseIf (session.status ≠ .terminated ∧ session.policy.protectedTools ≠ protectedTools)
    (.runtime "browser session restrictions differ from the pinned controls")
  let (session, world) ←
    if session.status = .terminated then
      provision run connection version credential protectedTools times vm world (some session)
    else .ok (session, world)
  let (session, world) ← rebind run times world session
  activate times world session

/-- `BrowserStepExecutor._session`. -/
def obtainSession (world : BrowserWorld) : Except Error (SessionFields × BrowserWorld) := do
  let found ← findSession world.sessions run.organisationId (sessionId run.id)
  match found with
  | none => do
    let (session, world) ← provision run connection version credential protectedTools times vm world none
    let (session, world) ← rebind run times world session
    activate times world session
  | some current => do
    let (session, world) ← discardGone world current times
    settle run connection version credential protectedTools times vm world session

/-- `BrowserStepExecutor.terminate`. -/
def releaseSession (world : BrowserWorld) (clock : Clock) : Except Error BrowserWorld := do
  let found ← findSession world.sessions run.organisationId (sessionId run.id)
  match found with
  | none => return world
  | some session =>
    if session.status = .terminated then world.deleteWorker session.toSessionFields
    else do
      let (terminated, sessions) ← Service.terminate world.sessions clock session.organisationId session.id
        session.revision
      { world with sessions }.deleteWorker terminated

end

end Uumi.Coordinator
