import Uumi.Contracts.Notification
import Uumi.Foundations.Catalogue

/-! The notification repository: the emission of a notification to the endpoints that want it, and the claims and
completions of its deliveries. -/
namespace Uumi.Storage
open Uumi.Contracts Uumi.Core Uumi.Foundations

/-- Notifications and endpoints are under organisation and id, deliveries under organisation, notification and id. -/
structure NotificationStore where
  notifications : Collection (Identifier × Identifier) Notification
  endpoints : Catalogue (Identifier × Identifier) NotificationEndpoint
  deliveries : Catalogue (Identifier × Identifier × Identifier) NotificationDelivery

/-- A delivery that was claimed, with what it is about. -/
structure NotificationClaim where
  path : Identifier × Identifier × Identifier
  delivery : NotificationDelivery
  notification : Notification
  endpoint : NotificationEndpoint

def identifier (text : String) : Except Error Identifier :=
  if h : identifierAccepts text = true then .ok ⟨text, h⟩ else .error (.validation "the text is not an identifier")

section
variable (sha256 : String → String)

def deliveryId (notification endpoint : Identifier) : Except Error Identifier :=
  identifier ("delivery_" ++
    String.ofList ((sha256 (notification.text ++ "\x00" ++ endpoint.text)).toList.take 40))

/-- `_delivery`. -/
def newDelivery (notification : Notification) (endpoint : NotificationEndpoint) : Except Error NotificationDelivery := do
  let id ← deliveryId sha256 notification.id endpoint.id
  return {
    id
    organisationId := notification.organisationId
    notificationId := notification.id
    endpointId := endpoint.id
    endpointRevision := endpoint.revision
    provider := endpoint.provider
    availableAt := notification.createdAt
    leased := by simp
    lease := by simp
    evidence := by simp
    unsent := by simp }

end

namespace NotificationStore
variable (store : NotificationStore)

def empty : NotificationStore := ⟨Collection.empty, Catalogue.empty, Catalogue.empty⟩

def endpointOrder (row : (Identifier × Identifier) × NotificationEndpoint) : String ×ₗ String :=
  toLex (row.1.1.text, row.1.2.text)

/-- `list_endpoints`: the first hundred endpoints of an organisation. -/
def listEndpoints (organisationId : Identifier) : List NotificationEndpoint :=
  (store.endpoints.query endpointOrder (fun row => row.1.1 = organisationId) 100).map Prod.snd

def registerEndpoint (endpoint : NotificationEndpoint) : Except Error (NotificationEndpoint × NotificationStore) := do
  endpoint.validateProvider
  let reference := (endpoint.organisationId, endpoint.id)
  match store.endpoints.documents reference with
  | none => return (endpoint, { store with endpoints := store.endpoints.set reference endpoint })
  | some current =>
    raiseIf (current ≠ { endpoint with
        createdAt := current.createdAt, updatedAt := current.updatedAt, revision := current.revision })
      (.resourceConflict s!"notification endpoint {endpoint.id.text} already exists")
    return (current, store)

def setEndpointEnabled (organisationId endpointId : Identifier) (expectedRevision : Nat) (enabled : Bool)
    (updatedAt : AwareDatetime) : Except Error (NotificationEndpoint × NotificationStore) := do
  let reference := (organisationId, endpointId)
  let current ← required (store.endpoints.documents reference)
    (.resourceNotFound s!"notification endpoint {endpointId.text} was not found")
  raiseIf (current.revision ≠ expectedRevision)
    (.resourceConflict s!"notification endpoint expected revision {expectedRevision}, found {current.revision}")
  if current.enabled = enabled then return (current, store)
  else
    let changed := { current with enabled, updatedAt, revision := current.revision + 1 }
    return (changed, { store with endpoints := store.endpoints.set reference changed })

def selectEndpoints (notification : Notification) : List NotificationEndpoint :=
  (store.listEndpoints notification.organisationId).filter fun endpoint => endpoint.Wants notification.kind

def currentEndpoint (organisationId : Identifier) (endpoint : NotificationEndpoint) :
    Except Error NotificationEndpoint := do
  let current ← required (store.endpoints.documents (organisationId, endpoint.id))
    (.storageIntegrity "notification endpoint disappeared during emission")
  raiseIf (current ≠ endpoint) (.resourceConflict "notification endpoint changed during event emission; retry safely")
  return current

def emit (sha256 : String → String) (notification : Notification) (selected : List NotificationEndpoint) :
    Except Error ((Notification × Bool) × NotificationStore) := do
  let reference := (notification.organisationId, notification.id)
  match store.notifications reference with
  | some current =>
    raiseIf (current ≠ { notification with
        createdAt := current.createdAt, readAt := current.readAt, revision := current.revision })
      (.resourceConflict s!"notification {notification.id.text} was replayed with changes")
    return ((current, false), store)
  | none =>
    let current ← collect selected (store.currentEndpoint notification.organisationId)
    let created ← collect current (newDelivery sha256 notification)
    let deliveries ← store.deliveries.createAll (fun _ => .alreadyExists "the delivery exists")
      (created.map fun delivery => ((notification.organisationId, notification.id, delivery.id), delivery))
    return ((notification, true),
      { store with notifications := store.notifications.set reference notification, deliveries })

def markRead (organisationId notificationId : Identifier) (expectedRevision : Nat) (readAt : AwareDatetime) :
    Except Error (Notification × NotificationStore) := do
  let reference := (organisationId, notificationId)
  let current ← required (store.notifications reference)
    (.resourceNotFound s!"notification {notificationId.text} was not found")
  if current.readAt ≠ none then return (current, store)
  else
    raiseIf (current.revision ≠ expectedRevision)
      (.resourceConflict s!"notification expected revision {expectedRevision}, found {current.revision}")
    let changed := { current with readAt := some readAt, revision := current.revision + 1 }
    return (changed, { store with notifications := store.notifications.set reference changed })

end NotificationStore

/-- How the sending of a delivery ended. -/
inductive DeliveryOutcome where
  | sent (receipt : Text 1 512) (sentAt : AwareDatetime)
  | failed (error : Text 0 1024) (availableAt : AwareDatetime) (terminal : Bool)

def DeliveryOutcome.receipt : DeliveryOutcome → Option (Text 1 512)
  | .sent receipt _ => some receipt
  | .failed _ _ _ => none

def leaseEnd (now : AwareDatetime) (lease : Nat) : AwareDatetime := { now with instant := now.instant + lease }

end Uumi.Storage

namespace Uumi.Contracts.NotificationDelivery
open Uumi.Storage
variable (delivery : NotificationDelivery)

/-- The delivery waits and is available, or the lease on it has expired. -/
def Claimable (now : AwareDatetime) : Prop :=
  (delivery.state = .pending ∧ delivery.availableAt ≤ now) ∨
    (delivery.state = .sending ∧ ∃ expires, delivery.leaseExpiresAt = some expires ∧ expires ≤ now)

instance (now : AwareDatetime) : Decidable (delivery.Claimable now) :=
  decidable_of_iff ((delivery.state = .pending ∧ delivery.availableAt ≤ now) ∨
    (delivery.state = .sending ∧ ∃ expires ∈ delivery.leaseExpiresAt.toList, expires ≤ now)) <| by
    simp [Claimable]

variable {delivery}

/-- A claimable delivery is not sent. -/
theorem Claimable.not_sent {now : AwareDatetime} (h : delivery.Claimable now) : delivery.state ≠ .sent := by
  rcases h with ⟨h, -⟩ | ⟨h, -⟩ <;> rw [h] <;> nofun

def claimed (delivery : NotificationDelivery) (owner : Identifier) (expires : AwareDatetime)
    (h : delivery.state ≠ .sent) : NotificationDelivery :=
  { delivery with
    state := .sending
    attempts := delivery.attempts + 1
    leaseOwner := some owner
    leaseExpiresAt := some expires
    leased := by simp
    lease := by simp
    evidence := nofun
    unsent := fun _ => delivery.unsent h }

def finished (delivery : NotificationDelivery) : DeliveryOutcome → NotificationDelivery
  | .sent receipt sentAt => { delivery with
      state := .sent
      availableAt := sentAt
      leaseOwner := none
      leaseExpiresAt := none
      sentAt := some sentAt
      providerReceipt := some receipt
      lastError := none
      leased := by simp
      lease := by simp
      evidence := by simp
      unsent := by simp }
  | .failed error availableAt terminal => { delivery with
      state := if terminal then .failed else .pending
      availableAt
      leaseOwner := none
      leaseExpiresAt := none
      sentAt := none
      providerReceipt := none
      lastError := some error
      leased := by cases terminal <;> simp
      lease := by simp
      evidence := by cases terminal <;> simp
      unsent := by simp }

end Uumi.Contracts.NotificationDelivery

namespace Uumi.Storage
open Uumi.Contracts Uumi.Core Uumi.Foundations

namespace NotificationStore
variable (store : NotificationStore)

def claimOne (path : Identifier × Identifier × Identifier) (owner : Identifier) (now : AwareDatetime) (lease : Nat) :
    Except Error (Option NotificationClaim × NotificationStore) := do
  let current ← required (store.deliveries.documents path)
    (.storageIntegrity s!"notification document {path.2.2.text} has no data")
  if h : current.Claimable now then
    match store.notifications (current.organisationId, current.notificationId),
      store.endpoints.documents (current.organisationId, current.endpointId) with
    | some notification, some endpoint =>
      let claimed := current.claimed owner (leaseEnd now lease) h.not_sent
      return (some ⟨path, claimed, notification, endpoint⟩,
        { store with deliveries := store.deliveries.set path claimed })
    | _, _ => .error (.storageIntegrity "notification delivery lost its source records")
  else return (none, store)

/-- The order of a query by `available_at`. Documents of the same time are in the order of their names. -/
def deliveryOrder (row : (Identifier × Identifier × Identifier) × NotificationDelivery) :
    Int ×ₗ String ×ₗ String ×ₗ String :=
  toLex (row.2.availableAt.instant, toLex (row.1.1.text, toLex (row.1.2.1.text, row.1.2.2.text)))

def due (now : AwareDatetime) (row : (Identifier × Identifier × Identifier) × NotificationDelivery) : Bool :=
  (row.2.state = .pending ∨ row.2.state = .sending) ∧ row.2.availableAt ≤ now

def deliveryWindow (limit : Nat) : Nat := min (max (limit * 4) 40) 400

def claimRows (owner : Identifier) (now : AwareDatetime) (lease limit : Nat) :
    List ((Identifier × Identifier × Identifier) × NotificationDelivery) → List NotificationClaim → NotificationStore →
      Except Error (List NotificationClaim × NotificationStore)
  | [], claims, store => return (claims, store)
  | row :: rows, claims, store => do
    let (claim, store) ← store.claimOne row.1 owner now lease
    if (claims ++ claim.toList).length = limit then return (claims ++ claim.toList, store)
    else claimRows owner now lease limit rows (claims ++ claim.toList) store

def claim (owner : Identifier) (now : AwareDatetime) (lease limit : Nat) :
    Except Error (List NotificationClaim × NotificationStore) :=
  claimRows owner now lease limit (store.deliveries.query deliveryOrder (due now) (deliveryWindow limit)) [] store

def finish (path : Identifier × Identifier × Identifier) (owner : Identifier) (outcome : DeliveryOutcome) :
    Except Error NotificationStore := do
  let current ← required (store.deliveries.documents path)
    (.storageIntegrity s!"notification document {path.2.2.text} has no data")
  if current.state = .sent then do
    raiseIf (current.providerReceipt ≠ outcome.receipt)
      (.resourceConflict "notification delivery already has another receipt")
    return store
  else do
    raiseIf (current.state ≠ .sending ∨ current.leaseOwner ≠ some owner)
      (.resourceConflict "notification delivery lease is not owned")
    return { store with deliveries := store.deliveries.set path (current.finished outcome) }

end NotificationStore
end Uumi.Storage
