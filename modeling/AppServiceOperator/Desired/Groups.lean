import AppServiceOperator.Desired.Web
/-!
# Service groups

The fourteen objects of an AppService in three groups, in the order in which they are brought
about: the database with the events backend, the gateway in front of it, and the frontend.

| here | in the operator |
| --- | --- |
| `Group`, `GroupName` | `ServiceGroup`, `GroupName` |
| `eventsGroup`, `nodeGroup`, `gatewayGroup`, `frontendGroup` | `events_group`, `node_group`, `gateway_group`, `frontend_group` |
| `groups` | `service_groups` |
| `databaseSelector` | `database_pod_selector` |
-/
namespace AppServiceOperator

inductive GroupName where
  | events | gateway | frontend
  deriving DecidableEq, Repr

instance : Enumeration GroupName where
  values := [.events, .gateway, .frontend]
  spelling
    | .events => "events"
    | .gateway => "gateway"
    | .frontend => "frontend"

structure Group where
  name : GroupName
  resources : List ManagedResource

namespace Desired

/-! ## Names -/

def events : String := "events"

/-- The name of the database; the migration runs in the pods of this component. -/
def eventsDatabase : String := "events-database"

def eventsScripts : String := "events-database-scripts"

def gateway : String := "gateway"

def frontend : String := "frontend"

def gatewayImage : String := "quay.io/cvicensa/gramola-gateway:0.0.2"

def frontendImage : String := "quay.io/cvicensa/gramola-frontend:0.0.2"

def databaseStorage : String := "512Mi"

/-- The label selector of the database pods. -/
def databaseSelector : String := Labels.componentKey ++ "=" ++ eventsDatabase

/-! ## Groups -/

def eventsGroup (ctx : Context) : Group where
  name := .events
  resources := [
    secret ctx eventsDatabase {},
    scripts ctx eventsScripts ctx.script,
    claim ctx eventsDatabase databaseStorage,
    databaseDeployment ctx eventsDatabase ⟨eventsDatabase, eventsScripts, eventsDatabase⟩,
    service ctx eventsDatabase [("postgresql", databasePort)],
    eventsDeployment ctx events ⟨eventsDatabase, eventsDatabase, databasePort⟩,
    service ctx events [("http", httpPort)],
    route ctx events events httpPort]

/-- A node tier with its service and its route. -/
def nodeGroup (ctx : Context) (group : GroupName) (name image stem backend : String) : Group where
  name := group
  resources := [
    webDeployment ctx (nodeWorkload name image stem ⟨backend, httpPort⟩),
    service ctx name [("http", httpPort)],
    route ctx name name httpPort]

def gatewayGroup (ctx : Context) : Group :=
  nodeGroup ctx .gateway gateway gatewayImage "EVENTS_API" events

def frontendGroup (ctx : Context) : Group :=
  nodeGroup ctx .frontend frontend frontendImage "GATEWAY_API" gateway

/-- All groups, in order. -/
def groups (ctx : Context) : List Group := [eventsGroup ctx, gatewayGroup ctx, frontendGroup ctx]

/-- All objects of an AppService, in order. -/
def resources (ctx : Context) : List ManagedResource := (groups ctx).flatMap (·.resources)

end Desired

end AppServiceOperator
