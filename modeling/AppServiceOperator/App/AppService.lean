import AppServiceOperator.App.Spec
import AppServiceOperator.App.Status
import AppServiceOperator.Manifest.ApiResource
/-!
# AppServices

The object that a user creates to get one instance of the application.

| here | in the operator |
| --- | --- |
| `AppService.currentStatus`, `AppService.mapStatus` | reading and writing through `AppService::status_mut` |
| `AppService.migration` | `AppService::migration_status` |
| `AppService.reference`, `AppService.controllerReference?` | `object_ref` and `controller_owner_ref` of the client library |
-/
namespace AppServiceOperator

structure AppService where
  metadata : ObjectMeta
  spec : Spec
  status : Option Status := none
  deriving Repr

/-- A reference to an object in events about it. -/
structure ObjectReference where
  apiVersion : String
  kind : String
  name : Option String
  ns : Option String
  uid : Option String
  deriving DecidableEq, Repr

namespace ObjectReference

def toJson (r : ObjectReference) : Json :=
  .ofOptional [("apiVersion", some (.str r.apiVersion)), ("kind", some (.str r.kind)),
    ("name", r.name.map .str), ("namespace", r.ns.map .str),
    ("uid", r.uid.map .str)]

end ObjectReference

namespace AppService

def toJson (app : AppService) : Json :=
  ApiResource.appServices.manifest app.metadata
    (Json.putFields [("spec", some app.spec.toJson), ("status", app.status.map (·.toJson))] [])

/-- As an array a manifest has all three fields. -/
def ofJson? (j : Json) : Option AppService := do
  if j.arr?.any (·.length ≠ 3) then none else
  let [metadata, spec, status] ← j.fields? ["metadata", "spec", "status"] | none
  return {
    metadata := ← metadata.bind ObjectMeta.ofJson?
    spec := ← spec.bind Spec.ofJson?
    status := ← Json.optional Status.ofJson? status }

def name (app : AppService) : String := app.metadata.anyName

/-- The namespace. -/
def ns (app : AppService) : Option String := app.metadata.ns

/-- The status, or that of an AppService that no pass has worked on yet. -/
def currentStatus (app : AppService) : Status := app.status.getD {}

def migration (app : AppService) : MigrationStatus := app.currentStatus.migration

/-- The AppService with its status changed. -/
def mapStatus (f : Status → Status) (app : AppService) : AppService :=
  { app with status := some (f app.currentStatus) }

/-- The reference under which events about the AppService are published. -/
def reference (app : AppService) : ObjectReference where
  apiVersion := ApiResource.appServices.apiVersion
  kind := ApiResource.appServices.kind
  name := app.metadata.name
  ns := app.metadata.ns
  uid := app.metadata.uid

/-- The reference by which the AppService controls what is created for it; none without a uid. -/
def controllerReference? (app : AppService) : Option OwnerReference :=
  match app.metadata.name, app.metadata.uid with
  | some name, some uid =>
    some { apiVersion := ApiResource.appServices.apiVersion, kind := ApiResource.appServices.kind,
           name, uid, controller := some true, blockOwnerDeletion := none }
  | _, _ => none

end AppService

end AppServiceOperator
