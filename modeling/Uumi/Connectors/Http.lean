import Uumi.Broker.Service
import Uumi.Foundations.Serving

/-! The connector of providers with a declared HTTP interface: what it reads of a listed credential, and its calls. -/
namespace Uumi.Connectors.Http
open Uumi.Broker Uumi.Contracts Uumi.Core Uumi.Foundations
open Uumi.Foundations.Program (lift)

/-- `HttpOperation`. -/
structure Operation where
  method : String
  path : String
  successStatuses : List Nat
  query : List (String × String) := []
  body : List (String × Json) := []
  listItems : Option String := none
  providerIdField : Option String := none
  secretField : Option String := none
  nameField : Option String := none
  metadataFields : List (String × String) := []

/-- `HttpProviderApi`, with what its validator demands of the fields. -/
structure ProviderApi where
  baseUrl : String
  listCredentials : Operation
  createCredential : Operation
  revokeCredential : Operation
  create_id : createCredential.providerIdField ≠ none
  create_secret : createCredential.secretField ≠ none
  list_id : listCredentials.providerIdField ≠ none
  revoke_path : "{provider_id}".toList <:+: revokeCredential.path.toList

abbrev Item := List (String × Json)

/-- `item.get(key)`. A missing value is null. -/
def read (item : Item) (key : String) : Json := (item.lookup key).getD .null

def asText : Json → Option String
  | .str value => some value
  | _ => none

def digParts : Json → List (List Char) → Json
  | value, [] => value
  | .obj fields, part :: rest => digParts (read fields (String.ofList part)) rest
  | _, _ :: _ => .null

def dig (value : Json) (path : String) : Json := digParts value (path.toList.splitOn '.')

def truthy (field : Option String) : Option String := field.filter (· ≠ "")

/-- The metadata of a listed credential. -/
structure Metadata where
  providerId : String
  name : Option String
  fields : List (String × Json)

def invalidResponse (message : String) : Error := .connector "invalid-provider-response" message false

def isTexts : Json → Bool
  | .arr items => items.all fun item => (asText item).isSome
  | _ => false

def metadataValue (name : String) (value : Json) : Except Error Json :=
  let accepted : Bool := match value with
    | .bool _ => name = "disabled"
    | .str text => name ≠ "disabled" ∧ name ≠ "scopes" ∧ text.length ≤ 512
    | value => name = "scopes" ∧ isTexts value
  if accepted then .ok value
  else .error (invalidResponse s!"provider metadata field {name} has an invalid type")

def metadataId (operation : Operation) (item : Item) : Except Error String :=
  match dig (.obj item) (operation.providerIdField.getD "") with
  | .str id => if id = "" then .error (invalidResponse "provider metadata has no credential identifier") else .ok id
  | _ => .error (invalidResponse "provider metadata has no credential identifier")

def metadataName (operation : Operation) (item : Item) : Except Error (Option String) :=
  match operation.nameField with
  | none => .ok none
  | some field =>
    match dig (.obj item) field with
    | .null => .ok none
    | .str name => .ok (if name = "" then none else some name)
    | _ => .error (invalidResponse "provider credential name is not a string")

def metadataFields (item : Item) : List (String × String) → Except Error (List (String × Json))
  | [] => .ok []
  | (canonical, path) :: rest =>
    match dig (.obj item) path with
    | .null => metadataFields item rest
    | value => do
      let value ← metadataValue canonical value
      return (canonical, value) :: (← metadataFields item rest)

/-- `_metadata`. -/
def credentialMetadata (operation : Operation) (item : Item) : Except Error Metadata := do
  let providerId ← metadataId operation item
  let name ← metadataName operation item
  let fields ← metadataFields item operation.metadataFields
  return { providerId, name, fields }

section
variable (api : ProviderApi)

def idKey : Option String := truthy api.listCredentials.providerIdField

def nameKey : Option String := (truthy api.listCredentials.nameField).or (truthy api.createCredential.nameField)

def textUnder (key : Option String) (item : Item) : Option String := key.bind fun key => asText (read item key)

/-- `provider.getCredentialStatus`, on the listed items. -/
def credentialStatus (items : List Item) (id : String) : Except Error (Bool × Option Metadata) :=
  match items.find? fun item => textUnder (idKey api) item = some id with
  | none => .ok (false, none)
  | some found => do return (true, some (← credentialMetadata api.listCredentials found))

/-- The ids that `prepare` records. -/
def preparedIds (items : List Item) : List String :=
  (items.filterMap (textUnder (idKey api))).insertionSort (· ≤ ·)

def idsBefore (items : List Item) : List String := items.filterMap (textUnder api.listCredentials.providerIdField)

/-- The items that `reconcile` may clean up. -/
def reconcileCandidates (items : List Item) (name : String) (before : List String) : List Item :=
  items.filter fun item => textUnder (nameKey api) item = some name ∧
    ∃ id ∈ textUnder (idKey api) item, id ∉ before

/-- `str(value)`, from the texts of values that are no texts. -/
def display (other : Json → String) : Json → String
  | .str value => value
  | value => other value

def orphanCandidates (other : Json → String) (items : List Item) (name : String) (before : List String) : List Item :=
  items.filter fun item => textUnder (nameKey api) item = some name ∧
    ∃ key ∈ idKey api, display other (read item key) ∉ before

end

structure HttpRequest where
  method : String
  url : String
  headers : List (String × String)
  query : List (String × String)
  body : Option Json

/-- A response whose body may be no JSON. -/
structure HttpReply where
  status : Nat
  json : Option Json

/-- What a request ends with: a response, a timeout, or another error of the connection. -/
inductive HttpAnswer where
  | reply (reply : HttpReply)
  | timedOut
  | failed (message : String)

def HttpAnswer.received : HttpAnswer → Except Error HttpReply
  | .reply response => .ok response
  | .timedOut => .error (.runtime "TimeoutException")
  | .failed message => .error (.runtime message)

abbrev HttpM := Program HttpRequest (fun _ => HttpAnswer) Error

/-- The parts of an URL that say where it leads. -/
structure Origin where
  scheme : String
  hostname : Option String
  port : Option Nat
  username : Option String
  password : Option String
  deriving DecidableEq

/-- What the connector uses of the standard library: quoting, joining and splitting of URLs, and the texts of values. -/
structure Library where
  quote : String → String
  urljoin : String → String → String
  urlsplit : String → Origin
  display : Json → String

section
variable (library : Library)

def parameterOf (payload : Item) (key : List Char) : Except Error (List Char) := do
  return (library.quote (← stringOf payload (String.ofList key))).toList

/-- The rest of a path, with its placeholders replaced. The first argument is the name of a placeholder that has begun,
backwards. -/
def renderRest (payload : Item) : Option (List Char) → List Char → Except Error (List Char)
  | none, [] => .ok []
  | some name, [] => .ok ('{' :: name.reverse)
  | none, c :: rest => if c = '{' then renderRest payload (some []) rest else do return c :: (← renderRest payload none rest)
  | some name, c :: rest =>
    if c = '}' ∧ name ≠ [] then do return (← parameterOf library payload name.reverse) ++ (← renderRest payload none rest)
    else if c.isAlpha ∨ (name ≠ [] ∧ (c.isDigit ∨ c = '_')) then renderRest payload (some (c :: name)) rest
    else if c = '{' then do return '{' :: name.reverse ++ (← renderRest payload (some []) rest)
    else do return '{' :: name.reverse ++ c :: (← renderRest payload none rest)

def renderPath (path : String) (payload : Item) : Except Error String := do
  return String.ofList (← renderRest library payload none path.toList)

def operationUrl (api : ProviderApi) (path : String) : Except Error String := do
  let base := library.urlsplit api.baseUrl
  let url := library.urljoin (String.ofList (api.baseUrl.toList.rdropWhile (· = '/')) ++ "/")
    (String.ofList (path.toList.dropWhile (· = '/')))
  let target := library.urlsplit url
  raiseIf (target.scheme ≠ base.scheme ∨ target.hostname ≠ base.hostname ∨ target.port ≠ base.port ∨
      target.username ≠ none ∨ target.password ≠ none)
    (.connector "invalid-provider-api" "provider operation resolved outside its configured origin" false)
  return url

def placeholder (text : String) : Option String :=
  match text.toList with
  | '$' :: '{' :: rest =>
    if rest.getLast? = some '}' then some (String.ofList rest.dropLast) else none
  | _ => none

mutual

def renderValue (payload : Item) : Json → Json
  | .str text =>
    match placeholder text with
    | some key => read payload key
    | none => .str text
  | .arr items => .arr (renderItems payload items)
  | .obj fields => .obj (renderBody payload fields)
  | value => value

def renderItems (payload : Item) : List Json → List Json
  | [] => []
  | item :: rest => renderValue payload item :: renderItems payload rest

def renderBody (payload : Item) : List (String × Json) → List (String × Json)
  | [] => []
  | (key, value) :: rest => (key, renderValue payload value) :: renderBody payload rest

end

/-- What `_call` sends. -/
def httpRequest (api : ProviderApi) (operation : Operation) (headers : List (String × String)) (payload : Item) :
    Except Error HttpRequest := do
  let url ← operationUrl library api (← renderPath library operation.path payload)
  return {
    method := operation.method
    url
    headers
    query := operation.query
    body := if operation.body.isEmpty then none else some (.obj (renderBody payload operation.body)) }

/-- `_call`. -/
def callOperation (api : ProviderApi) (operation : Operation) (headers : List (String × String)) (payload : Item) :
    HttpM HttpAnswer := do
  let request ← lift (httpRequest library api operation headers payload)
  .perform request

def expected (reply : HttpReply) (statuses : List Nat) : Except Error Unit :=
  raiseIf (reply.status ∉ statuses) (.connector "provider-api-error" s!"provider returned HTTP {reply.status}"
    (reply.status ∈ [408, 429, 500, 502, 503, 504]))

/-- `response.json()`. -/
def jsonOf (reply : HttpReply) : Except Error Json := required reply.json (.value "Expecting value")

def asItem : Json → Option Item
  | .obj fields => some fields
  | _ => none

def asItems : Json → Option (List Item)
  | .arr items => items.mapM asItem
  | _ => none

def listedItems (operation : Operation) (value : Json) : Option (List Item) :=
  match truthy operation.listItems with
  | none => asItems value
  | some path => (asItem value).bind fun fields => asItems (dig (.obj fields) path)

/-- What `_list` takes from an answer. -/
def listed (operation : Operation) (answer : HttpAnswer) : Except Error (List Item) := do
  let reply ← answer.received
  expected reply operation.successStatuses
  required (listedItems operation (← jsonOf reply)) (invalidResponse "provider returned invalid key metadata")

def list (api : ProviderApi) (headers : List (String × String)) : HttpM (List Item) := do
  let answer ← callOperation library api api.listCredentials headers []
  lift (listed api.listCredentials answer)

def revokeFound (api : ProviderApi) (headers : List (String × String)) (id : String) : HttpM Unit := do
  let answer ← callOperation library api api.revokeCredential headers [("provider_id", .str id)]
  let reply ← lift answer.received
  lift (expected reply (404 :: api.revokeCredential.successStatuses))

def reconcileAmbiguous (api : ProviderApi) (name : String) (before : List String) (headers : List (String × String)) :
    HttpM Unit := do
  let after ← list library api headers
  match orphanCandidates api library.display after name before with
  | [orphan] =>
    let id ← lift (required (textUnder (idKey api) orphan) (.ambiguousMutation "provider orphan has no provider ID"))
    revokeFound library api headers id
  | _ => lift (.error (.ambiguousMutation "provider create outcome could not be attributed to exactly one orphan"))

def createdKey (operation : Operation) (reply : HttpReply) : Except Error (String × String) := do
  expected reply operation.successStatuses
  let value ← jsonOf reply
  let fields ← required (asItem value) (invalidResponse "provider create returned a non-object")
  let missing := invalidResponse "provider returned no key ID or secret"
  match operation.providerIdField, operation.secretField with
  | some idField, some secretField =>
    return (← required (asText (dig (.obj fields) idField)) missing,
      ← required (asText (dig (.obj fields) secretField)) missing)
  | _, _ => .error (.connector "invalid-provider-api" "create declaration is incomplete" false)

def scopesOf (payload : Item) : Json :=
  match read payload "scopes" with
  | .arr items => .arr items
  | _ => .arr []

/-- `_create`. Its declarations are complete, as the interface is accepted. -/
def create (api : ProviderApi) (payload : Item) (headers : List (String × String)) : HttpM ConnectorResponse := do
  let name ← lift (stringOf payload "name")
  let before := idsBefore api (← list library api headers)
  match ← callOperation library api api.createCredential headers payload with
  | .timedOut =>
    reconcileAmbiguous library api name before headers
    lift (.error (.ambiguousMutation "provider create timed out and was reconciled"))
  | answer =>
    let reply ← lift answer.received
    let (id, secret) ← lift (createdKey api.createCredential reply)
    return {
      result := [("provider_id", .str id), ("name", .str name), ("scopes", scopesOf payload)]
      secret := some secret }

/-- `prepare`, for a creation. -/
def prepareCreation (api : ProviderApi) (payload : Item) (headers : List (String × String)) : HttpM Parameters := do
  let before := preparedIds api (← list library api headers)
  let name ← lift (stringOf payload "name")
  return [("name", .text name), ("before_ids", .texts before)]

def recordedIds (state : Parameters) (name : String) : Option (List String) :=
  match state.lookup "name", state.lookup "before_ids" with
  | some (.text recorded), some (.texts before) => if recorded = name then some before else none
  | _, _ => none

/-- `reconcile`, for a creation. -/
def reconcileCreation (api : ProviderApi) (payload : Item) (state : Parameters) (headers : List (String × String)) :
    HttpM Unit := do
  let name ← lift (stringOf payload "name")
  let before ← lift (required (recordedIds state name)
    (.ambiguousMutation "provider reconciliation checkpoint is invalid"))
  let after ← list library api headers
  match reconcileCandidates api after name before with
  | [] => return
  | [found] =>
    let id ← lift (required (textUnder (idKey api) found) (.runtime "AssertionError"))
    revokeFound library api headers id
  | _ => lift (.error (.ambiguousMutation "stale provider create has multiple attributable cleanup candidates"))

def getCredentialStatus (api : ProviderApi) (payload : Item) (headers : List (String × String)) :
    HttpM (Bool × Option Metadata) := do
  let id ← lift (stringOf payload "provider_id")
  let items ← list library api headers
  lift (credentialStatus api items id)

end
end Uumi.Connectors.Http
