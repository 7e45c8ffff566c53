import Mathlib
import Uumi.Contracts.Run

/-! The inventory around a credential: connections to platforms, applications, environments and
the services that consume credentials. -/
namespace Uumi.Contracts
open Uumi.Core Uumi.Foundations

inductive ConnectionRole where
  | provider | secretStore | runtime | telemetry | incident
  deriving DecidableEq

def ConnectionRole.value : ConnectionRole → String
  | .provider => "provider"
  | .secretStore => "secret-store"
  | .runtime => "runtime"
  | .telemetry => "telemetry"
  | .incident => "incident"

inductive ConnectionInterface where
  | api | browser
  deriving DecidableEq

def ConnectionInterface.value : ConnectionInterface → String
  | .api => "api"
  | .browser => "browser"

inductive ConnectionAuthorization where
  | oauth | workloadIdentity | apiKey | browserSession
  deriving DecidableEq

inductive ConnectionStatus where
  | setupRequired | ready | reauthentication | degraded | disabled
  deriving DecidableEq

inductive HttpAuthScheme where
  | bearer | header | basic
  deriving DecidableEq

/-- An operation of a provider's HTTP interface. -/
structure HttpOperation where
  method : String
  path : Text 1 1024
  deriving DecidableEq

/-- What the checks of a connection and the controls read of a declared HTTP interface: its
authentication, and the operation that tests a credential, which comes with its own. -/
structure HttpProviderApi where
  auth : HttpAuthScheme
  testCredential : Option HttpOperation := none
  credentialAuth : Option HttpAuthScheme := none
  test_with_auth : testCredential.isSome = credentialAuth.isSome
  deriving DecidableEq

/-- The fields of a connection before its validator has run. -/
structure ConnectionFields where
  id : Identifier
  organisationId : Identifier
  platform : Text 1 64
  roles : Finset ConnectionRole
  interface : ConnectionInterface
  authorization : ConnectionAuthorization
  authorizationReference : Option String := none
  capabilities : Finset String
  allowedResources : List String
  http : Option HttpProviderApi := none
  playbookId : Option Identifier := none
  playbookVersionId : Option Identifier := none
  status : ConnectionStatus
  authenticatedAt : Option AwareDatetime := none
  authorizationExpiresAt : Option AwareDatetime := none
  archivedAt : Option AwareDatetime := none
  revision : Nat := 0
  deriving DecidableEq

namespace ConnectionFields

def playbookAttached (connection : ConnectionFields) : Prop :=
  connection.playbookId ≠ none ∧ connection.playbookVersionId ≠ none

instance (connection : ConnectionFields) : Decidable connection.playbookAttached := by
  unfold playbookAttached
  infer_instance

def validateAuthentication (connection : ConnectionFields) : Except Error Unit := do
  raiseIf (connection.roles = ∅ ∨ connection.capabilities = ∅ ∨ connection.allowedResources = [])
    (.validation "connection fields are too short")
  raiseIf (connection.status = .ready ∧ connection.authorizationReference.getD "" = "")
    (.validation "a ready connection requires an authorization reference")
  raiseIf (connection.playbookId.isNone ≠ connection.playbookVersionId.isNone)
    (.validation "connection playbook identity and version must be set together")
  raiseIf ((connection.interface = .browser) ≠ (connection.authorization = .browserSession))
    (.validation "browser connections require browser-session authorization")
  raiseIf (connection.interface = .browser ∧ connection.roles ≠ {.provider})
    (.validation "browser connections provide only the provider role")
  raiseIf (connection.interface ≠ .browser ∧ connection.playbookAttached)
    (.validation "only browser connections can attach a playbook")
  raiseIf (connection.interface = .browser ∧ connection.status = .ready ∧ ¬ connection.playbookAttached)
    (.validation "a ready browser connection requires a published playbook")
  raiseIf (connection.http ≠ none ∧ (connection.interface ≠ .api ∨ .provider ∉ connection.roles))
    (.validation "HTTP provider configuration requires an API provider role")
  raiseIf (connection.interface = .api ∧ .provider ∈ connection.roles ∧ connection.http = none)
    (.validation "API provider connections require an HTTP API declaration")
  raiseIf (connection.interface = .api ∧ .provider ∈ connection.roles ∧
      connection.authorization ∉ [.oauth, .apiKey])
    (.validation "HTTP provider connections require OAuth or API-key authorization")
  raiseIf (connection.authorization = .oauth ∧ ∃ http ∈ connection.http, http.auth ≠ .bearer)
    (.validation "OAuth provider connections require bearer request authentication")
  raiseIf (∃ expires ∈ connection.authorizationExpiresAt, ∃ since ∈ connection.authenticatedAt, expires ≤ since)
    (.validation "authorization expiry must follow authentication")

end ConnectionFields

/-- A connection that its model validator accepts. -/
structure Connection extends ConnectionFields where
  accepted : ConnectionFields.validateAuthentication toConnectionFields = .ok ()
  deriving DecidableEq

def underBoundary (resource boundary : String) : Bool :=
  (boundary.toList.rdropWhile (· == '/') ++ ['/']).isPrefixOf resource.toList

structure Application where
  id : Identifier
  organisationId : Identifier
  archivedAt : Option AwareDatetime := none
  revision : Nat := 0
  deriving DecidableEq

structure Environment where
  id : Identifier
  organisationId : Identifier
  applicationId : Identifier
  archivedAt : Option AwareDatetime := none
  revision : Nat := 0
  deriving DecidableEq

/-- A service that uses credentials at run time. Its telemetry connections are unique and its
runtime connection is none of them. -/
structure ConsumerService where
  id : Identifier
  organisationId : Identifier
  applicationId : Identifier
  environmentId : Identifier
  runtimeConnectionId : Identifier
  telemetryConnectionIds : List Identifier := []
  runtimeResource : Text 1 512
  archivedAt : Option AwareDatetime := none
  revision : Nat := 0
  telemetry_unique : telemetryConnectionIds.Nodup
  runtime_distinct : runtimeConnectionId ∉ telemetryConnectionIds
  deriving DecidableEq

end Uumi.Contracts
