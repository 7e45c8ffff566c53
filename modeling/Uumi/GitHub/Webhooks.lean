import Uumi.Broker.Validate
import Uumi.Connectors.CloudRun
import Uumi.Foundations.JsonReader
import Uumi.GitHub.Service

/-! The endpoint that GitHub delivers webhooks to: what changes with an installation, and which alerts become events of
the organisation that the installation belongs to. -/
namespace Uumi.GitHub
open Uumi.Broker Uumi.Connectors Uumi.Contracts Uumi.Coordinator Uumi.Core Uumi.Foundations
open Uumi.Foundations.Program (lift)

/-- A request, with the headers that are read. -/
structure Delivery where
  body : List UInt8
  signature : String
  deliveryId : String
  eventType : String

/-- The settings, and the pure functions on bodies and texts from outside. -/
structure GitHubWebhook where
  hashes : Hashes
  /-- The hexadecimal digest of a body under a secret. -/
  hmac : List UInt8 → List UInt8 → String
  /-- `json.loads`. -/
  loads : List UInt8 → Option Json
  /-- `datetime.fromisoformat`: the time, if the text is one, and if it has a timezone. -/
  fromisoformat : String → Option (Option AwareDatetime)
  maxBodyBytes : Nat

/-- The value under a key, if it is an instance of `int`. -/
def intOf (payload : List (String × Json)) (key : String) : Option IntValue :=
  match payload.lookup key with
  | some (.int value) => some (.int value)
  | some (.bool value) => some (.bool value)
  | _ => none

def truthy : Json → Bool
  | .null => false
  | .bool b => b
  | .int n => n != 0
  | .float f => !(Json.float f).equalsInt 0
  | .str text => text != ""
  | .arr items => !items.isEmpty
  | .obj fields => !fields.isEmpty

namespace GitHubWebhook
variable (webhook : GitHubWebhook)

def verify (body : List UInt8) (signature : String) (secret : List UInt8) : Except Error Unit := do
  raiseIf (¬ "sha256=".toList.isPrefixOf signature.toList) (.value "GitHub signature must use sha256")
  raiseIf (signature ≠ "sha256=" ++ webhook.hmac secret body) (.value "GitHub webhook signature is invalid")

def payloadOf (body : List UInt8) : Except Error (List (String × Json)) := do
  let value ← required (webhook.loads body) (.value "webhook body is invalid JSON")
  required (objectOf value) (.value "GitHub webhook payload must be an object")

def datetime (value : Option Json) (fallback : AwareDatetime) : Except Error AwareDatetime :=
  match value with
  | some (.str text) =>
    match webhook.fromisoformat (String.ofList (text.toList.flatMap fun c => if c = 'Z' then "+00:00".toList else [c])) with
    | none => .ok fallback
    | some none => .error (.validation "observed_at should have timezone info")
    | some (some time) => .ok time
  | _ => .ok fallback

def occurrence (alert : List (String × Json)) : Except Error String :=
  let stated := match alert.lookup "updated_at" with
    | some value => if truthy value then some value else alert.lookup "created_at"
    | none => alert.lookup "created_at"
  match stated with
  | some (.str text) => do
    raiseIf (text = "") (.value "GitHub webhook has no stable alert occurrence time")
    return text
  | _ => .error (.value "GitHub webhook has no stable alert occurrence time")

/-- `_id`. -/
def eventId (organisationId source sourceEventId kind : String) : Except Error Identifier :=
  Identifier.build ("ingestion_" ++ (webhook.hashes.checksum (joined [organisationId, source, sourceEventId, kind])).text)

def normalise (organisationId : Identifier) (eventType : String) (payload : List (String × Json))
    (receivedAt : AwareDatetime) (connectionId : Option Identifier) : Except Error IngestionEvent := do
  raiseIf (eventType ≠ "secret_scanning_alert") (.value "GitHub webhook is not a secret scanning alert")
  raiseIf (textOf payload "action" ∉
      [some "created", some "publicly_leaked", some "reopened", some "resolved", some "validated"])
    (.value "GitHub secret scanning action is unsupported")
  let resolved := textOf payload "action" = some "resolved"
  let alert ← required ((payload.lookup "alert").bind objectOf)
    (.value "GitHub webhook is missing alert or repository metadata")
  let repository ← required ((payload.lookup "repository").bind objectOf)
    (.value "GitHub webhook is missing alert or repository metadata")
  let repositoryName ← required (textOf repository "full_name") (.value "GitHub webhook metadata is incomplete")
  let alertUrl ← required (textOf alert "html_url") (.value "GitHub webhook metadata is incomplete")
  let alertNumber ← required (intOf alert "number") (.value "GitHub webhook metadata is incomplete")
  let observedAt ← webhook.datetime (alert.lookup "created_at") receivedAt
  let occurred ← occurrence alert
  let text := s!"{repositoryName}#{alertNumber.text}:{occurred}"
  let word := if resolved then "exposure-resolved" else "credential-exposure-detected"
  let id ← webhook.eventId organisationId.text "github-secret-scanning" text word
  let source ← Text.build 1 64 "source" "github-secret-scanning"
  let sourceEventId ← Text.build 1 256 "source_event_id" text
  let kind ← Text.build 1 96 "kind" word
  let repository ← Text.build 0 256 "repository" repositoryName
  let sourceReference ← Text.build 1 1024 "source_reference" alertUrl
  return {
    id, organisationId, source, sourceEventId, kind, observedAt
    severity := if resolved then .medium else .critical
    confidence := .high
    resource := { connectionId, repository := some repository }
    sourceReference, receivedAt }

def authorizationReference (installationId : Int) : String := s!"oauth://github/installation/{installationId}"

def isIncidentConnection (connection : Connection) (installationId : Int) : Bool :=
  ConnectionRole.incident ∈ connection.roles && connection.platform.value == "github" &&
    connection.authorizationReference == some (authorizationReference installationId)

/-- `_reconcile_github_connection`. -/
def reconcileConnection (installation : GitHubInstallation) : GitHubM Unit := do
  let connections : List Connection ← gitHubCall (.connections installation.organisationId)
  match connections.filter fun connection =>
      connection.archivedAt.isNone && isIncidentConnection connection installation.installationId with
  | [] => return ()
  | [current] =>
    let desired := if installation.ready then .ready else .setupRequired
    if current.status = desired then return ()
    else gitHubCall (.replaceConnection
      { current.toConnectionFields with status := desired, revision := current.revision + 1 } current.revision)
  | _ => lift (.error (.storageIntegrity "GitHub installation resolves to more than one active connection"))

def readyConnection (connections : List Connection) (installationId : Int) (repositoryName : String) :
    Except Error Connection :=
  match connections.filter fun connection =>
      isIncidentConnection connection installationId && connection.status == .ready &&
        connection.allowedResources.contains repositoryName with
  | [connection] => .ok connection
  | _ => .error (.value "GitHub installation does not resolve to one ready connection")

def installationOf (payload : List (String × Json)) : Except Error (IntValue × String) := do
  let incomplete : Error := .value "GitHub webhook installation metadata is incomplete"
  let installation ← required ((payload.lookup "installation").bind objectOf) incomplete
  let installationId ← required (intOf installation "id") incomplete
  let action ← required (textOf payload "action") incomplete
  return (installationId, action)

def repositoryOf (payload : List (String × Json)) : Except Error (IntValue × String) := do
  let incomplete : Error := .value "GitHub webhook repository metadata is incomplete"
  let repository ← required ((payload.lookup "repository").bind objectOf) incomplete
  let repositoryId ← required (intOf repository "id") incomplete
  let repositoryName ← required (textOf repository "full_name") incomplete
  return (repositoryId, repositoryName)

def invalidated (payload : List (String × Json)) (action : String) : Bool :=
  action == "validated" && ((payload.lookup "alert").bind objectOf).any fun alert =>
    textOf alert "validity" != some "active"

def installationEvent (delivery : Delivery) (installationId : IntValue) (action : String) : GitHubM Unit := do
  if action ∈ ["created", "new_permissions_accepted", "unsuspend"] then
    let now : AwareDatetime ← gitHubCall .clock
    let receipt ← lift (GitHubWebhookReceipt.build installationId.number delivery.deliveryId delivery.eventType action now)
    let changed : Option GitHubInstallation ← gitHubCall (.recordReceipt receipt)
    match changed with
    | some installation => reconcileConnection installation
    | none => return ()
  else if action ∈ ["deleted", "suspend"] then
    let now : AwareDatetime ← gitHubCall .clock
    match installationId with
    | .int id => gitHubCall (.deactivate id now (action == "deleted"))
    | .bool _ => return ()
  else return ()

def repositoriesEvent (installationId : IntValue) (action : String) : GitHubM Unit := do
  lift (raiseIf (action ∉ ["added", "removed"]) (.value "GitHub installation repository action is unsupported"))
  let now : AwareDatetime ← gitHubCall .clock
  match installationId with
  | .int id => gitHubCall (.invalidate id now)
  | .bool _ => return ()

def alertEvent (delivery : Delivery) (payload : List (String × Json)) (installationId : IntValue) (action : String) :
    GitHubM (Option IngestionEvent) := do
  if action ∈ ["assigned", "unassigned"] ∨ invalidated payload action then return none
  else
    let (repositoryId, repositoryName) ← lift (repositoryOf payload)
    let routed ← route installationId repositoryId
    match routed with
    | none => return none
    | some (organisationId, repository) => do
      lift (raiseIf (repository.fullName.text ≠ repositoryName) (.value "GitHub webhook repository mapping changed"))
      let connections : List Connection ← gitHubCall (.connections organisationId)
      let connection ← lift (readyConnection connections installationId.number repositoryName)
      let now : AwareDatetime ← gitHubCall .clock
      let event ← lift (webhook.normalise organisationId delivery.eventType payload now (some connection.id))
      return some event

/-- `github`, up to the ingestion of the event that it ends with. -/
def github (delivery : Delivery) : GitHubM (Option IngestionEvent) := do
  lift (raiseIf (webhook.maxBodyBytes < delivery.body.length) (.value "webhook body is too large"))
  let secret : List UInt8 ← gitHubCall .secret
  lift (webhook.verify delivery.body delivery.signature secret)
  let payload ← lift (webhook.payloadOf delivery.body)
  if delivery.eventType = "ping" then return none
  else
    let (installationId, action) ← lift (installationOf payload)
    if delivery.eventType = "installation" then
      installationEvent delivery installationId action
      return none
    else if delivery.eventType = "installation_repositories" then
      repositoriesEvent installationId action
      return none
    else
      lift (raiseIf (delivery.eventType ≠ "secret_scanning_alert") (.value "GitHub webhook event is unsupported"))
      webhook.alertEvent delivery payload installationId action

end GitHubWebhook
end Uumi.GitHub
