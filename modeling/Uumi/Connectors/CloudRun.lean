import Uumi.Broker.Service

/-! The Cloud Run connector. A tool is a program that reads the service, patches it, and waits for operations; every
one of these requests may raise. -/
namespace Uumi.Connectors
open Uumi.Contracts Uumi.Core Uumi.Foundations Uumi.Broker
open Uumi.Foundations.Program (lift)

/-- An entry of the traffic of a service. One without a revision goes to the latest ready one. -/
structure TrafficTarget where
  kind : Option String := none
  revision : Option String
  percent : Option Int
  tag : Option String := none
  deriving DecidableEq

/-- A service, as a request returns it. An operation that returns no service leaves everything out. -/
structure ServiceView where
  name : Option String := none
  latestReadyRevision : Option String := none
  latestCreatedRevision : Option String := none
  reconciling : Bool := false
  template : Option Json := none
  traffic : List TrafficTarget := []
  trafficStatuses : Json := .arr []
  etag : Option Nat := none

/-- What a request changes of a service. -/
inductive UpdateMask where
  | template | traffic
  deriving DecidableEq

/-- The body of a change. -/
structure ServicePatch where
  name : String
  template : Option Json := none
  traffic : List TrafficTarget
  etag : Option Nat

inductive CloudRunCall where
  | get (service : String)
  | patch (service : String) (mask : UpdateMask) (body : ServicePatch)
  | waitOperation (operation : String)

abbrev CloudRunCall.Answer : CloudRunCall → Type
  | get _ | waitOperation _ => ServiceView
  | patch .. => Option String

abbrev CloudRunM := Program CloudRunCall CloudRunCall.Answer Error

abbrev request (op : CloudRunCall) : CloudRunM op.Answer := .perform op

/-- `_operation`. -/
def operationName (operation : Option String) : Except Error String :=
  required operation (.connector "operation-missing" "Cloud Run returned no operation name" false)

def serviceName (value : String) : Except Error String := do
  raiseIf (¬ "projects/".toList <+: value.toList ∨ ¬ "/locations/".toList <:+: value.toList ∨
      ¬ "/services/".toList <:+: value.toList)
    (.connector "invalid-service" "a full Cloud Run service resource is required" false)
  return value

/-- `_service`. -/
def serviceOf (payload : List (String × Json)) : Except Error String := do
  serviceName (← stringOf payload "service")

def optionalText (value : Option String) : Json := (value.map Json.str).getD .null

def TrafficTarget.json (target : TrafficTarget) : Json :=
  .obj ([("revision", optionalText target.revision), ("percent", (target.percent.map Json.int).getD .null)] ++
    (target.tag.map fun tag => ("tag", Json.str tag)).toList)

def named (revision : String) (percent : Int) (tag : Option String) : TrafficTarget :=
  { revision := some revision, percent := some percent, tag }

def patchTraffic (service : String) (view : ServiceView) (targets : List TrafficTarget) :
    CloudRunM ConnectorResponse := do
  let operation ← request (.patch service .traffic { name := service, traffic := targets, etag := view.etag })
  let operation ← lift (operationName operation)
  let result ← request (.waitOperation operation)
  return {
    result := [("service", .str service), ("traffic", .arr (targets.map TrafficTarget.json)),
      ("latest_ready_revision", optionalText result.latestReadyRevision), ("reconciling", .bool result.reconciling)] }

/-- `_pin_current`: all traffic to one revision by its name, unless it is so. -/
def pinCurrent (service : String) (view : ServiceView) (revision : String) : CloudRunM Unit :=
  match view.traffic with
  | [target] =>
    if target.revision = some revision ∧ target.percent = some 100 ∧ target.kind.getD "" = "" then return
    else do let _ ← patchTraffic service view [named revision 100 none]
  | _ => do let _ ← patchTraffic service view [named revision 100 none]

def percentOf (payload : List (String × Json)) : Option Int :=
  match payload.lookup "percent" with
  | some (.int n) => some n
  | some (.bool b) => some b.toInt
  | _ => none

/-- `_traffic`. -/
def shiftTraffic (service : String) (view : ServiceView) (payload : List (String × Json)) :
    CloudRunM ConnectorResponse := do
  let candidate ← lift (stringOf payload "candidate_revision")
  let rollback ← lift (stringOf payload "rollback_revision")
  let invalid := Error.connector "invalid-traffic" "traffic percent must be between 0 and 100" false
  let percent ← lift (required (percentOf payload) invalid)
  lift (raiseIf (percent < 0 ∨ 100 < percent) invalid)
  patchTraffic service view [named rollback (100 - percent) none, named candidate percent none]

def objectOf : Json → Option (List (String × Json))
  | .obj fields => some fields
  | _ => none

def arrayOf : Json → Option (List Json)
  | .arr items => some items
  | _ => none

def setEnv (env : List Json) (name : String) (key : String) (value : Json) : List Json :=
  env.filter (fun item => (objectOf item).bind (textOf · "name") ≠ some name) ++
    [.obj [("name", .str name), (key, value)]]

def withSecret (payload container : List (String × Json)) : Except Error (List (String × Json)) := do
  let secretEnv ← stringOf payload "secret_env"
  let secretName ← stringOf payload "secret_name"
  let secretVersion ← stringOf payload "secret_version"
  let generationId ← stringOf payload "generation_id"
  let env ← required (arrayOf ((container.lookup "env").getD (.arr [])))
    (.connector "runtime-invalid" "Cloud Run environment configuration is invalid" false)
  let env := setEnv env secretEnv "valueSource"
    (.obj [("secretKeyRef", .obj [("secret", .str secretName), ("version", .str secretVersion)])])
  let env := setEnv env "UUMI_GENERATION_ID" "value" (.str generationId)
  return merge container [("env", .arr env)]

def changeContainer (name : String) (change : List (String × Json) → Except Error (List (String × Json))) :
    List (List (String × Json)) → Except Error (List (List (String × Json)))
  | [] => .error (.connector "container-not-found" s!"container {name} not found in Cloud Run template" false)
  | container :: rest =>
    if name = "" ∨ textOf container "name" = some name then do
      return (← change container) :: rest
    else do
      return container :: (← changeContainer name change rest)

def containerName (payload : List (String × Json)) : Except Error String :=
  match payload.lookup "container_name" with
  | none | some .null => .ok ""
  | some (.str name) => .ok name
  | some _ => .error (.connector "invalid-parameter" "container_name must be a string" false)

def candidateTemplate (payload : List (String × Json)) (template : Option Json) : Except Error Json := do
  let template ← required (template.bind objectOf)
    (.connector "runtime-invalid" "Cloud Run service has no revision template" false)
  let unsupported := Error.connector "runtime-unsupported" "Cloud Run template must contain valid containers" false
  let containers ← required ((template.lookup "containers").bind arrayOf) unsupported
  raiseIf (containers = []) unsupported
  let containers ← required (containers.mapM objectOf) unsupported
  let name ← containerName payload
  let containers ← changeContainer name (withSecret payload) containers
  let generationId ← stringOf payload "generation_id"
  let labels ← required (objectOf ((template.lookup "labels").getD (.obj [])))
    (.connector "runtime-invalid" "Cloud Run revision labels are invalid" false)
  let labels := merge labels [("uumi-generation", .str generationId)]
  return .obj (merge template [("containers", .arr (containers.map .obj)), ("labels", .obj labels)])

def Differs (previous : String) (candidate : Option String) : Prop := ∃ revision ∈ candidate, revision ≠ previous

instance (previous : String) (candidate : Option String) : Decidable (Differs previous candidate) := by
  unfold Differs
  infer_instance

def newRevision (service previous : String) (result : ServiceView) : CloudRunM String := do
  let candidate ← (if Differs previous result.latestReadyRevision then return result.latestReadyRevision
    else do return (← request (.get service)).latestReadyRevision : CloudRunM (Option String))
  let notReady := Error.connector "candidate-not-ready" "Cloud Run created no candidate revision" false
  lift (raiseIf (¬ Differs previous candidate) notReady)
  lift (required candidate notReady)

def deploy (service : String) (view : ServiceView) (payload : List (String × Json)) : CloudRunM ConnectorResponse := do
  let previous ← lift (required view.latestReadyRevision
    (.connector "runtime-not-ready" "Cloud Run service has no ready revision" false))
  pinCurrent service view previous
  let current ← request (.get service)
  let template ← lift (candidateTemplate payload current.template)
  let generationId ← lift (stringOf payload "generation_id")
  let operation ← request (.patch service .template
    { name := service, template := some template, traffic := current.traffic, etag := current.etag })
  let operation ← lift (operationName operation)
  let result ← request (.waitOperation operation)
  let candidate ← newRevision service previous result
  let tagged ← request (.get service)
  let tag ← lift (stringOf payload "tag")
  let _ ← patchTraffic service tagged [named previous 100 none, named candidate 0 (some tag)]
  return {
    result := [("service", .str service), ("candidate_revision", .str candidate), ("rollback_revision", .str previous),
      ("generation_id", .str generationId)] }

def iterated : Json → Except Error (List Json)
  | .arr items => .ok items
  | .str _ | .obj _ => .ok []
  | _ => .error (.runtime "object is not iterable")

def environments (template : Option (List (String × Json))) : Except Error (List (List (String × Json))) := do
  let containers := (arrayOf ((template.bind (·.lookup "containers")).getD (.arr []))).getD []
  let envs ← (containers.filterMap objectOf).mapM fun container =>
    iterated ((container.lookup "env").getD (.arr []))
  return envs.flatten.filterMap objectOf

def inspect (view : ServiceView) : Except Error ConnectorResponse := do
  let template := view.template.bind objectOf
  let env ← environments template
  let bindings := env.filterMap fun item => (item.lookup "valueSource").map fun source =>
    Json.obj [("name", (item.lookup "name").getD .null), ("valueSource", source)]
  let generations := env.filterMap fun item =>
    if textOf item "name" = some "UUMI_GENERATION_ID" then textOf item "value" else none
  return {
    result := [("name", optionalText view.name), ("latest_ready_revision", optionalText view.latestReadyRevision),
      ("latest_created_revision", optionalText view.latestCreatedRevision), ("reconciling", .bool view.reconciling),
      ("traffic", view.trafficStatuses), ("secret_bindings", .arr bindings),
      ("generation_id", optionalText generations.getLast?),
      ("service_account", (template.bind (·.lookup "serviceAccount")).getD .null)] }

/-- `CloudRunConnector.execute`. -/
def executeCloudRun (tool : String) (payload : List (String × Json)) : CloudRunM ConnectorResponse := do
  let service ← lift (serviceOf payload)
  let view ← request (.get service)
  if tool = "runtime.inspectSecretBindings" then
    lift (inspect view)
  else if tool = "runtime.deployCandidate" then
    deploy service view payload
  else if tool = "runtime.shiftTraffic" then
    shiftTraffic service view payload
  else if tool = "runtime.rollback" then do
    let rollback ← lift (stringOf payload "rollback_revision")
    patchTraffic service view [named rollback 100 none]
  else lift (.error (.connector "unsupported-tool" s!"Cloud Run does not support {tool}" false))

end Uumi.Connectors
