import AppServiceOperator.Cluster.ExecChannel
import AppServiceOperator.Cluster.Recorder
import AppServiceOperator.Desired.Database
import AppServiceOperator.Text.UrlEncoding
/-!
# The client

How the calls of the operator are carried out over the wire: one request for each call, whose
answer is read and whose failure is classified.

| here | in the operator |
| --- | --- |
| `create`, `fetch`, `patch` | `KubeResourceStore::create`, `KubeResourceStore::get`, `KubeResourceStore::patch` |
| `fetchApp`, `replaceApp`, `writeStatus` | `KubeAppServiceStore::get`, `KubeAppServiceStore::replace`, `KubeAppServiceStore::replace_status` |
| `listPods`, `exec` | `KubeDatabasePods::list`, `KubeDatabasePods::exec` |
| `publish` | `KubeEventPublisher::publish` |
| `checked`, `valueOf`, `failureOf`, `sessionOf` and the requests | the client library below these |
-/
namespace AppServiceOperator.Client

/-! ## Requests -/

/-- The name under which the operator owns fields. -/
def fieldManager : String := "gramola-operator"

def ownedQuery : String := "?&fieldManager=" ++ fieldManager

def jsonType : String := "application/json"

def mergePatchType : String := "application/merge-patch+json"

/-- The request with a target that is known to be one. -/
def checked (r : Request) : Except ClientError Request :=
  match Text.Url.target r.target with
  | .ok target => .ok { r with target }
  | .error fault => .error (.request (.target fault))

/-- The path of an object, which must have a name. -/
def objectPath (path name : String) : Except ClientError String :=
  if name = "" then .error (.request .emptyName) else .ok (path ++ "/" ++ name)

def postRequest (path query : String) (body : Json) : Except ClientError Request :=
  checked { method := .post, target := path ++ query, contentType := some jsonType, body := some body }

def getRequest (path name : String) : Except ClientError Request := do
  checked { method := .get, target := ← objectPath path name }

def putRequest (path name : String) (body : Json) : Except ClientError Request := do
  checked { method := .put, target := (← objectPath path name) ++ ownedQuery,
            contentType := some jsonType, body := some body }

/-- A merge patch of an object, or of the part of it that `part` names. -/
def patchRequest (path name part query : String) (body : Json) : Except ClientError Request := do
  checked { method := .patch, target := (← objectPath path name) ++ part ++ query,
            contentType := some mergePatchType, body := some body }

def listRequest (path selector : String) : Except ClientError Request :=
  checked { method := .get, target := path ++ "?&labelSelector=" ++ Text.Url.encodeForm selector }

/-- The protocol of command sessions. -/
def execProtocol : String := "v4.channel.k8s.io"

def execQuery (command : List String) : String :=
  "?&stdout=true&stderr=true&container=" ++ Text.Url.encodeForm Desired.databaseContainer ++
    String.join (command.map fun word => "&command=" ++ Text.Url.encodeForm word)

def execRequest (path name : String) (command : List String) : Except ClientError Request := do
  checked { method := .get, target := (← objectPath path name) ++ "/exec" ++ execQuery command,
            protocol := some execProtocol }

/-! ## Answers -/

/-- The failure that a server reports. -/
def apiFailure? (j : Json) : Option ApiFailure := do
  let [status, message, reason, code] ← j.fields? ["status", "message", "reason", "code"] | none
  let code ← code.bind Json.nat?
  if 65535 < code then none else
  return {
    status := ← status.bind Json.str?
    message := ← Json.defaulted "" Json.str? message
    reason := ← Json.defaulted "" Json.str? reason
    code := code.toUInt16 }

/-- The failure of an answer with a status of failure. -/
def failureOf (status : Nat) (body : Body) : ClientError :=
  match body.text, body.json? with
  | .error fault, _ | _, .error fault => .notUtf8 fault
  | .ok text, .ok j => .api ((j.bind apiFailure?).getD (.ofBody status.toUInt16 text))

/-- The value of an answer. -/
def valueOf : Response → Except ClientError Json
  | .broken text => .error (.service text)
  | .session _ => .error .undecodable
  | .answer status body =>
    if HttpStatus.isClientError status || HttpStatus.isServerError status then
      .error (failureOf status body)
    else match body.json? with
      | .error fault => .error (.notUtf8 fault)
      | .ok none => .error .undecodable
      | .ok (some j) => .ok j

def objectOf {α : Type} (read : Json → Option α) (r : Response) : Except ClientError α :=
  (valueOf r).bind fun j =>
    match read j with
    | some a => .ok a
    | none => .error .undecodable

/-- Make a request and read its answer. -/
def exchange {α : Type} (read : Json → Option α) : Except ClientError Request → Exchange (Except ClientError α)
  | .error e => return .error e
  | .ok r => do return objectOf read (← Exchange.send r)

/-- No object is no failure. -/
def unlessMissing {α : Type} : Except ClientError α → Except ClientError (Option α)
  | .ok a => .ok (some a)
  | .error (.api f) => if f.reason = "NotFound" then .ok none else .error (.api f)
  | .error e => .error e

def classified {α : Type} (kind name : String) : Except ClientError α → Except OperatorError α
  | .ok a => .ok a
  | .error e => .error (.ofClient kind name e)

/-! ## Objects of any kind -/

/-- The members that name the kind of an object, where both are texts. A version that is none hides
the kind from the reader, which then stays among the other members. -/
def kindMembers (members : Members) : Members :=
  match members.get? "apiVersion", members.get? "kind" with
  | some (.str _), some (.str _) => members
  | some (.str _), _ | none, _ => Dictionary.erase "kind" (Dictionary.erase "apiVersion" members)
  | some _, _ => Dictionary.erase "apiVersion" members

/-- An object of any kind: its metadata in normal form, and all other members as they are. -/
def dynamicObject? : Json → Option Json
  | .obj members =>
    let metadata := match Dictionary.get? members "metadata" with
      | none => some (Json.obj [])
      | some j => Shape.objectMeta.read j
    metadata.map fun m => .obj (Dictionary.insert "metadata" m (kindMembers members))
  | _ => none

/-- The path of the objects of the kind of a resource, which must have a namespace. -/
def resourcePath (r : ManagedResource) : Except OperatorError String :=
  match r.ns with
  | none => .error (.internal "converge" (r.kind.name ++ " " ++ r.name ++ " has no namespace"))
  | some ns => .ok (r.kind.api.path ns)

/-- The manifest of a resource as an object of any kind. -/
def dynamicManifest (r : ManagedResource) : Except OperatorError Json :=
  match dynamicObject? r.toJson with
  | none => .error (.serialization "metadata is not that of an object" (some r.kind.name))
  | some object => .ok object

def create (r : ManagedResource) : Exchange (Except OperatorError Unit) := do
  match dynamicManifest r, resourcePath r with
  | .error e, _ | _, .error e => return .error e
  | .ok object, .ok path =>
    let answer ← exchange dynamicObject? (postRequest path ownedQuery object)
    return (classified r.kind.name r.name answer).map fun _ => ()

def fetch (r : ManagedResource) : Exchange (Except OperatorError (Option Json)) := do
  match resourcePath r with
  | .error e => return .error e
  | .ok path =>
    let answer ← exchange dynamicObject? (getRequest path r.name)
    return classified r.kind.name r.name (unlessMissing answer)

def patch (r : ManagedResource) (body : Json) : Exchange (Except OperatorError Unit) := do
  match resourcePath r with
  | .error e => return .error e
  | .ok path =>
    let answer ← exchange dynamicObject? (patchRequest path r.name "" ownedQuery body)
    return (classified r.kind.name r.name answer).map fun _ => ()

/-! ## AppServices -/

def appKind : String := ApiResource.appServices.kind

def fetchApp (ns name : String) : Exchange (Except OperatorError (Option AppService)) := do
  let answer ← exchange AppService.ofJson? (getRequest (ApiResource.appServices.path ns) name)
  return classified appKind name (unlessMissing answer)

def appPath (app : AppService) : Except OperatorError String :=
  match app.ns with
  | none => .error (.validation OperatorError.unknownResource "AppService must be namespaced" none)
  | some ns => .ok (ApiResource.appServices.path ns)

def replaceApp (app : AppService) : Exchange (Except OperatorError AppService) := do
  match appPath app with
  | .error e => return .error e
  | .ok path =>
    return classified appKind app.name
      (← exchange AppService.ofJson? (putRequest path app.name app.toJson))

/-- The patch that writes a status. The version in it is a condition: a write on top of another
version is a conflict. -/
def statusPatch (app : AppService) : Json :=
  .obj [("metadata", .obj [("resourceVersion", .ofOption (app.metadata.resourceVersion.map .str))]),
    ("status", .ofOption (app.status.map (·.toJson)))]

def writeStatus (app : AppService) : Exchange (Except OperatorError AppService) := do
  match appPath app with
  | .error e => return .error e
  | .ok path =>
    return classified appKind app.name
      (← exchange AppService.ofJson? (patchRequest path app.name "/status" ownedQuery (statusPatch app)))

/-! ## Pods -/

/-- The pods of a list. -/
def podList? : Json → Option (List Pod)
  | .obj members => do
    let _ ← match Dictionary.get? members "metadata" with
      | none => some (.obj [])
      | some j => Shape.listMeta.read j
    match ← Dictionary.get? members "items" with
    | .null => return []
    | items => Json.list? Pod.ofJson? items
  | _ => none

def listPods (ns selector : String) : Exchange (Except OperatorError (List Pod)) := do
  let answer ← exchange podList? (listRequest (ApiResource.pods.path ns) selector)
  return classified "Pod" selector answer

/-- The session that an answer opens. -/
def sessionOf : Response → Except ClientError Session
  | .broken text => .error (.service text)
  | .answer status _ =>
    .error (.upgrade (if status = 101 then .noUpgradeHeader else .status status))
  | .session s => if s.protocol = execProtocol then .ok s else .error (.upgrade .protocolMismatch)

/-- What the session of a command in a pod comes to; none where it does not end. -/
def execResult (pod : String) (r : Response) : Option (Except OperatorError ExecOutput) :=
  match sessionOf r with
  | .error e => some (.error (.ofClient "Pod" pod e))
  | .ok s =>
    match s.outcome with
    | .ended session => some (.ok session.output)
    | .faulty fault =>
      some (.error (.internal "exec" ("exec session in " ++ pod ++ " failed: " ++ fault.message)))
    | .pending => none

def exec (ns pod : String) (command : List String) (timeoutSeconds : Nat) :
    Exchange (Option (Except OperatorError ExecOutput)) := do
  match execRequest (ApiResource.pods.path ns) pod command with
  | .error e => return some (.error (.ofClient "Pod" pod e))
  | .ok r =>
    match ← Exchange.sendWithin r timeoutSeconds with
    | none => return none
    | some response => return execResult pod response

/-! ## Events -/

/-- Whether a value is an event. -/
def isEvent (j : Json) : Bool :=
  ((ApiResource.events.manifest? j).bind fun _ => Shape.event.read j).isSome

def eventRequest (reporter : Reporter) (e : Event) : Except ClientError Request :=
  let path := ApiResource.events.path (e.about.ns.getD "default")
  let body := e.toJson reporter
  match e.series with
  | none => postRequest path "?" body
  | some _ => patchRequest path e.name "" "?" body

/-- Write an event. One that could not be written is dropped, and not remembered. -/
def publish (about : ObjectReference) (notice : Notice) (r : Recorder) : Exchange (Unit × Recorder) := do
  let now ← Exchange.now
  let r := r.forgetOld now
  let e := r.next about notice now
  match ← exchange (fun j => if isEvent j then some () else none) (eventRequest r.reporter e) with
  | .ok () => return ((), r.remember e)
  | .error _ => return ((), r)

/-! ## All calls -/

def unchanged {α : Type} (r : Recorder) (p : Exchange α) : Exchange (α × Recorder) := do
  return (← p, r)

/-- Carry out a call. -/
def handle : (c : Call) → Recorder → Exchange (c.Answer × Recorder)
  | .fetchApp ns name, r => unchanged r (fetchApp ns name)
  | .replaceApp app, r => unchanged r (replaceApp app)
  | .writeStatus app, r => unchanged r (writeStatus app)
  | .create resource, r => unchanged r (create resource)
  | .fetch resource, r => unchanged r (fetch resource)
  | .patch resource body, r => unchanged r (patch resource body)
  | .listPods ns selector, r => unchanged r (listPods ns selector)
  | .exec ns pod command timeoutSeconds, r => unchanged r (exec ns pod command timeoutSeconds)
  | .publish about notice, r => publish about notice r
  | .now, r => unchanged r Exchange.now

/-- Carry out a program of the operator. -/
def carryOut {α : Type} (p : Operation α) (r : Recorder) : Exchange (α × Recorder) :=
  p.interpretWith handle r

end AppServiceOperator.Client
