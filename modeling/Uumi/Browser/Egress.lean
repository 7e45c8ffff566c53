import Uumi.Core.Errors
import Uumi.Foundations.Ranking
import Uumi.Foundations.Results

/-! The egress of the browser workers: one document that every manager changes in transactions, and the managers that
provision and delete what it stands for. -/
namespace Uumi.Browser
open Uumi.Contracts Uumi.Core Uumi.Foundations

inductive BrowserEgressStatus where
  | absent | provisioning | ready | deleting | failed
  deriving DecidableEq, Repr

structure BrowserEgressLease where
  id : String
  expiresAt : AwareDatetime
  deriving DecidableEq, Repr

structure BrowserEgressState where
  id : String
  status : BrowserEgressStatus
  leases : List BrowserEgressLease
  operationToken : Option String
  gatewayAddress : Option String
  error : Option String
  updatedAt : AwareDatetime
  revision : Nat
  deriving DecidableEq, Repr

def checkLength (field : String) (least most : Nat) (text : String) : Except Error Unit :=
  raiseIf (text.length < least ∨ most < text.length) (.validation s!"{field} has an invalid length")

def checkOptional (field : String) (most : Nat) : Option String → Except Error Unit
  | none => .ok ()
  | some text => checkLength field 0 most text

def BrowserEgressLease.validate (lease : BrowserEgressLease) : Except Error Unit := checkLength "id" 1 512 lease.id

namespace BrowserEgressState
variable (state : BrowserEgressState)

def validateState : Except Error Unit := do
  raiseIf ((state.status = .provisioning ∨ state.status = .deleting) ∧ state.operationToken = none)
    (.validation "an in-progress browser egress transition requires an operation token")
  raiseIf (state.status = .ready ∧ state.gatewayAddress = none)
    (.validation "ready browser egress requires a gateway address")

def modelValidate : Except Error BrowserEgressState := do
  checkLength "id" 1 64 state.id
  forEach state.leases BrowserEgressLease.validate
  checkOptional "operation_token" 128 state.operationToken
  checkOptional "gateway_address" 64 state.gatewayAddress
  checkOptional "error" 1024 state.error
  state.validateState
  return state

/-- Validation changes nothing. -/
theorem modelValidate_ok {s : BrowserEgressState} (h : state.modelValidate = .ok s) : s = state := by
  simp only [modelValidate, unit_bind_ok, pure_ok] at h
  exact h.2.2.2.2.2.2.symm

end BrowserEgressState

def provisioningTimeout : Int := 15 * 60 * 1000000

/-- `_WAIT_SECONDS`, in microseconds. -/
def waitTime : Int := 900 * 1000000

/-- The document has not been updated for the provisioning timeout. -/
def BrowserEgressState.Stale (state : BrowserEgressState) (now : AwareDatetime) : Prop :=
  state.updatedAt.instant + provisioningTimeout ≤ now.instant

instance (state : BrowserEgressState) (now : AwareDatetime) : Decidable (state.Stale now) :=
  inferInstanceAs (Decidable (_ ≤ _))

def unexpired (leases : List BrowserEgressLease) (now : AwareDatetime) : List BrowserEgressLease :=
  leases.filter fun lease => now < lease.expiresAt

def leasesById (leases : List BrowserEgressLease) : List BrowserEgressLease :=
  ranked (·.id) (leases.foldl (fun kept lease => kept.filter (·.id ≠ lease.id) ++ [lease]) [])

/-- `_current`. -/
def currentState (region : String) (current : Option BrowserEgressState) (now : AwareDatetime) : BrowserEgressState :=
  current.getD {
    id := region
    status := .absent
    leases := []
    operationToken := none
    gatewayAddress := none
    error := none
    updatedAt := now
    revision := 0 }

section
variable (region : String) (current : Option BrowserEgressState) (now : AwareDatetime)

def requestAcquire (leaseId : String) (expiresAt : AwareDatetime) (token : String) :
    Except Error BrowserEgressState := do
  let state := currentState region current now
  let lease : BrowserEgressLease := { id := leaseId, expiresAt }
  lease.validate
  let provision := state.status = .absent ∨ state.status = .failed ∨ (state.status = .provisioning ∧ state.Stale now)
  return { state with
    status := if provision then .provisioning else state.status
    leases := leasesById ((unexpired state.leases now).filter (·.id ≠ leaseId) ++ [lease])
    operationToken := if provision then some token else state.operationToken
    gatewayAddress := if provision then none else state.gatewayAddress
    error := none
    updatedAt := now
    revision := state.revision + 1 }

def requestRelease (leaseId token : String) : BrowserEgressState :=
  let state := currentState region current now
  let leases := state.leases.filter fun lease => lease.id ≠ leaseId ∧ now < lease.expiresAt
  let delete := leases = [] ∧ (state.status = .ready ∨ state.status = .failed)
  { state with
    status := if delete then .deleting else state.status
    leases
    operationToken := if delete then some token else state.operationToken
    updatedAt := now
    revision := state.revision + 1 }

def requestReconcile (token : String) : BrowserEgressState :=
  let state := currentState region current now
  let leases := unexpired state.leases now
  let provision := leases ≠ [] ∧
    (state.status = .absent ∨ state.status = .failed ∨ (state.status = .provisioning ∧ state.Stale now))
  let delete := leases = [] ∧
    (state.status = .ready ∨ state.status = .failed ∨ (state.status = .provisioning ∧ state.Stale now))
  { state with
    status := if provision then .provisioning else if delete then .deleting else state.status
    leases
    operationToken := if provision ∨ delete then some token else state.operationToken
    gatewayAddress := if provision then none else state.gatewayAddress
    updatedAt := now
    revision := state.revision + 1 }

def finishProvision (token address : String) : BrowserEgressState :=
  let state := currentState region current now
  if state.operationToken ≠ some token ∨ state.status ≠ .provisioning then
    { state with revision := state.revision + 1 }
  else
    let leases := unexpired state.leases now
    { state with
      status := if leases ≠ [] then .ready else .deleting
      leases
      gatewayAddress := some address
      error := none
      updatedAt := now
      revision := state.revision + 1 }

def finishDelete (token : String) : BrowserEgressState :=
  let state := currentState region current now
  if state.operationToken ≠ some token ∨ state.status ≠ .deleting then
    { state with revision := state.revision + 1 }
  else
    { state with
      status := .absent
      leases := unexpired state.leases now
      operationToken := none
      gatewayAddress := none
      error := none
      updatedAt := now
      revision := state.revision + 1 }

/-- `_failed`, with the text of the exception. -/
def operationFailed (token : String) (error : Error) (text : String) : BrowserEgressState :=
  let state := currentState region current now
  if state.operationToken ≠ some token then
    { state with revision := state.revision + 1 }
  else
    { state with
      status := .failed
      operationToken := none
      error := some (String.ofList ((error.className ++ ": " ++ text).toList.take 1024))
      updatedAt := now
      revision := state.revision + 1 }

end

/-- The changes that managers ask for. -/
inductive EgressChange where
  | acquire (leaseId : String) (expiresAt : AwareDatetime) (token : String)
  | release (leaseId token : String)
  | reconcile (token : String)
  | finishProvision (token address : String)
  | finishDelete (token : String)
  | failed (token : String) (error : Error) (text : String)

def EgressChange.apply (change : EgressChange) (region : String) (now : AwareDatetime)
    (current : Option BrowserEgressState) : Except Error BrowserEgressState :=
  match change with
  | .acquire leaseId expiresAt token => requestAcquire region current now leaseId expiresAt token
  | .release leaseId token => .ok (requestRelease region current now leaseId token)
  | .reconcile token => .ok (requestReconcile region current now token)
  | .finishProvision token address => .ok (Browser.finishProvision region current now token address)
  | .finishDelete token => .ok (Browser.finishDelete region current now token)
  | .failed token error text => .ok (operationFailed region current now token error text)

def readEgress : Option BrowserEgressState → Except Error (Option BrowserEgressState)
  | none => .ok none
  | some state => do return some (← state.modelValidate)

/-- A document that is read is the stored one. -/
theorem readEgress_ok {document current : Option BrowserEgressState} (h : readEgress document = .ok current) :
    current = document := by
  cases document with
  | none =>
    cases h
    rfl
  | some stored =>
    simp only [readEgress, bind_ok, pure_ok] at h
    obtain ⟨s, hs, rfl⟩ := h
    rw [BrowserEgressState.modelValidate_ok stored hs]

/-- `FirestoreBrowserEgressStore.update`: the transaction reads the document, changes it and writes it back. -/
def egressUpdate (document : Option BrowserEgressState)
    (change : Option BrowserEgressState → Except Error BrowserEgressState) : Except Error BrowserEgressState := do
  let current ← readEgress document
  let changed ← change current
  let expected := match current with
    | none => 1
    | some state => state.revision + 1
  raiseIf (changed.revision ≠ expected) (.runtime "browser egress update did not advance revision once")
  return changed

def validateDomains (approved required : List String) : Except Error Unit :=
  forEach required fun requested =>
    let domain := if "*.".toList.isPrefixOf requested.toList then String.ofList (requested.toList.drop 2) else requested
    raiseIf (¬ ∃ a ∈ approved, domain = a ∨ ("." ++ a).toList.isSuffixOf domain.toList = true)
      (.connector "browser-egress-domain" s!"browser domain {requested} is outside the approved egress boundary" false)

/-- What a call of `acquire` keeps across its loop. -/
structure AcquireCall where
  leaseId : String
  expiresAt : AwareDatetime
  deadline : AwareDatetime
  deriving DecidableEq, Repr

/-- Where a manager stands, between two accesses to the document. -/
inductive EgressTask where
  | idle
  /-- `acquire` asks for the egress, with a token of its own. -/
  | requesting (call : AcquireCall)
  /-- `acquire` is at the head of its loop, with the state that it has seen. -/
  | looking (call : AcquireCall) (token : String) (state : BrowserEgressState)
  /-- `acquire` sleeps before it reads the document again. -/
  | sleeping (call : AcquireCall) (token : String)
  /-- `_provision` is creating the resources; `acquire` called it, or nobody waits for it. -/
  | provisioning (token : String) (caller : Option AcquireCall)
  /-- `_delete` is deleting the resources. -/
  | deleting (token : String) (caller : Option AcquireCall)

namespace EgressTask

def return_ (token : String) : Option AcquireCall → EgressTask
  | none => .idle
  | some call => .sleeping call token

/-- An operation has raised to its caller: `acquire` goes on after a retryable error of a connector. -/
def raise_ (token : String) (error : Error) : Option AcquireCall → EgressTask
  | some call =>
    match error with
    | .connector _ _ true => .sleeping call token
    | _ => .idle
  | none => .idle

/-- The changes that a task may ask for next. A token of a request is new. -/
def Asks (issued : Set String) : EgressTask → EgressChange → Prop
  | .requesting call, .acquire leaseId expiresAt token =>
    leaseId = call.leaseId ∧ expiresAt = call.expiresAt ∧ token ∉ issued
  | .idle, .release _ token => token ∉ issued
  | .idle, .reconcile token => token ∉ issued
  | .provisioning token _, .finishProvision token' _ => token' = token
  | .provisioning token _, .failed token' _ _ => token' = token
  | .deleting token _, .finishDelete token' => token' = token
  | .deleting token _, .failed token' _ _ => token' = token
  | _, _ => False

def resume : EgressTask → EgressChange → BrowserEgressState → EgressTask
  | .requesting call, .acquire _ _ token, state => .looking call token state
  | _, .release _ token, state =>
    if state.status = .deleting ∧ state.operationToken = some token then .deleting token none else .idle
  | _, .reconcile token, state =>
    if state.operationToken ≠ some token then .idle
    else
      match state.status with
      | .provisioning => .provisioning token none
      | .deleting => .deleting token none
      | _ => .idle
  | .provisioning token caller, .finishProvision _ _, state =>
    if state.status = .deleting ∧ state.operationToken = some token then .deleting token caller
    else return_ token caller
  | .provisioning token caller, .failed _ error _, _ => raise_ token error caller
  | .deleting token caller, .finishDelete _, _ => return_ token caller
  | .deleting token caller, .failed _ error _, _ => raise_ token error caller
  | task, _, _ => task

/-- One round of the loop of `acquire`, up to the operation that it starts or to its sleep. -/
def look (call : AcquireCall) (token : String) (state : BrowserEgressState) (now : AwareDatetime) : EgressTask :=
  if ¬ now < call.deadline then .idle
  else if state.status = .ready then .idle
  else if state.status = .provisioning ∧ state.operationToken = some token then .provisioning token (some call)
  else .sleeping call token

/-- `acquire` reads the document after its sleep. -/
def poll (call : AcquireCall) (token : String) (document : Option BrowserEgressState) (now : AwareDatetime) :
    Except Error EgressTask := do
  match ← readEgress document with
  | none => return .requesting call
  | some current =>
    if current.status = .absent ∨ current.status = .failed ∨ (current.status = .provisioning ∧ current.Stale now) then
      return .requesting call
    else return .looking call token current

def token? : EgressTask → Option String
  | .idle | .requesting _ => none
  | .looking _ token _ | .sleeping _ token | .provisioning token _ | .deleting token _ => some token

/-- The operation that a task is carrying out has this token. -/
def Operates (task : EgressTask) (token : String) : Prop :=
  match task with
  | .provisioning t _ | .deleting t _ => t = token
  | _ => False

/-- The task is carrying out a delete. -/
def Deletes : EgressTask → Prop
  | .deleting _ _ => True
  | _ => False

end EgressTask
end Uumi.Browser
