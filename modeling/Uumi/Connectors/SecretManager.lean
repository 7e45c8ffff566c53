import Uumi.Connectors.CloudRun

/-! The Secret Manager connector. -/
namespace Uumi.Connectors.SecretManager
open Uumi.Contracts Uumi.Core Uumi.Foundations Uumi.Broker
open Uumi.Foundations.Program (lift)

/-- Requests by their paths. One with an access token is made for a consumer. -/
inductive Call where
  | get (path : String) (accessToken : Option String)
  | post (path : String) (body : Json)
  | mintAccessToken (identity : String)

/-- What a request returns if it does not raise: the fields of a response, or a token and its expiry. -/
abbrev Call.Answer : Call → Type
  | get .. | post .. => List (String × Json)
  | mintAccessToken _ => String × String

abbrev SecretManagerM := Program Call Call.Answer Error

abbrev request (op : Call) : SecretManagerM op.Answer := .perform op

/-- How values are written down: in base64, and by their checksum. -/
structure Codec where
  encode : String → String
  decode : String → Option String
  checksum : String → String

def metadata (response : List (String × Json)) : List (String × Json) :=
  response.filter fun entry => entry.1 ∈ ["name", "state", "createTime", "destroyTime", "etag"]

/-- `_add_version`: the reference is the name that the response gives. -/
def addVersion (codec : Codec) (secret value : String) : SecretManagerM (List (String × Json)) := do
  let response ← request (.post (secret ++ ":addVersion")
    (.obj [("payload", .obj [("data", .str (codec.encode value))])]))
  let name ← lift (required (textOf response "name")
    (.connector "secret-write-failed" "Secret Manager returned no version name" false))
  return merge [("secret_reference", .str name), ("fingerprint", .str (codec.checksum value))] (metadata response)

def lastSegment (path : String) : List Char := (path.toList.splitOn '/').getLastD []

/-- `_secret_version`: the version under the name that the secret is given. -/
def listedVersion (secret : String) (item : List (String × Json)) : Option (List (String × Json)) := do
  let name ← textOf item "name"
  match name.toList.splitOn '/' with
  | [projects, project, secrets, secretId, versions, version] =>
    if projects = "projects".toList ∧ project ≠ [] ∧ secrets = "secrets".toList ∧ secretId = lastSegment secret ∧
        versions = "versions".toList ∧ version ≠ [] then
      some (merge item [("name", .str (secret ++ "/versions/" ++ String.ofList version))])
    else none
  | _ => none

def versions (secret : String) : SecretManagerM (List (List (String × Json))) := do
  lift (raiseIf (¬ "projects/".toList <+: secret.toList ∨ ¬ "/secrets/".toList <:+: secret.toList)
    (.connector "invalid-secret-resource" "a full Secret Manager secret is required" false))
  let response ← request (.get (secret ++ "/versions") none)
  let invalid := Error.connector "secret-list-failed" "Secret Manager returned invalid version metadata" false
  let values ← lift (required (arrayOf ((response.lookup "versions").getD (.arr []))) invalid)
  let items ← lift (required (values.mapM objectOf) invalid)
  let listed ← lift (required (items.mapM (listedVersion secret)) invalid)
  return listed.map metadata

def IsVersion (version : String) : Prop :=
  "projects/".toList <+: version.toList ∧ "/versions/".toList <:+: version.toList

instance (version : String) : Decidable (IsVersion version) := by
  unfold IsVersion
  infer_instance

def disable (version : String) : SecretManagerM (List (String × Json)) := do
  lift (raiseIf (¬ IsVersion version)
    (.connector "invalid-secret-version" "a full Secret Manager version is required" false))
  return metadata (← request (.post (version ++ ":disable") (.obj [])))

def access (codec : Codec) (version : String) (accessToken : Option String) : SecretManagerM String := do
  let response ← request (.get (version ++ ":access") accessToken)
  let data ← lift (required (((response.lookup "payload").bind objectOf).bind (textOf · "data"))
    (.connector "secret-read-failed" "Secret Manager returned no secret payload" false))
  lift (required (codec.decode data)
    (.connector "secret-read-failed" "Secret Manager returned invalid secret data" false))

/-- `secretStore.testConsumerAccess`: the consumer itself reads the version. -/
def testConsumerAccess (codec : Codec) (version : String) (payload : List (String × Json)) :
    SecretManagerM ConnectorResponse := do
  let identity ← lift (stringOf payload "consumer_identity")
  let (token, expiresAt) ← request (.mintAccessToken identity)
  let secret ← access codec version (some token)
  lift (raiseIf (secret = "") (.connector "secret-read-failed" "Secret Manager returned an empty secret" false))
  return {
    result := [("accessible", .bool true), ("consumer_identity", .str identity),
      ("authorization_expires_at", .str expiresAt)] }

def execute (codec : Codec) (tool : String) (payload : List (String × Json)) : SecretManagerM ConnectorResponse := do
  let version ← lift (required ((textOf payload "version").filter fun version => IsVersion version)
    (.connector "invalid-secret-version" "a full Secret Manager version is required" false))
  if tool = "secretStore.getVersion" then
    return { result := metadata (← request (.get version none)) }
  else if tool = "secretStore.testConsumerAccess" then
    testConsumerAccess codec version payload
  else if tool = "secretStore.disableVersion" then
    return { result := metadata (← request (.post (version ++ ":disable") (.obj []))) }
  else if tool = "secretStore.destroyVersion" then
    return { result := metadata (← request (.post (version ++ ":destroy") (.obj []))) }
  else lift (.error (.connector "unsupported-tool" s!"Secret Manager does not support {tool}" false))

end Uumi.Connectors.SecretManager
