import AppServiceOperator.Desired.Access
import AppServiceOperator.Desired.Database
/-!
# Web tiers

Deployments that answer HTTP requests: the events backend, which reads the database, and the node
tiers, each of which calls the service of the tier behind it.

| here | in the operator |
| --- | --- |
| `WebWorkload`, `EventsNeeds`, `Backend` | `WebWorkload`, `EventsRefs`, `Upstream` |
| `webDeployment`, `webContainer` | `web_deployment`: the deployment and its container |
| `eventsDeployment`, `eventsWorkload` | `events_deployment`: the deployment and the workload it is made from |
| `nodeWorkload` | `node_workload` |
-/
namespace AppServiceOperator.Desired

structure WebWorkload where
  /-- The name of the deployment and of its container. -/
  name : String
  image : String
  /-- What a console shows as the runtime. -/
  runtime : String
  env : List EnvVar
  /-- The path that the probes ask for. -/
  probePath : String
  memoryRequest : String
  memoryLimit : String
  /-- The service that the workload talks to. -/
  connectsTo : Option String
  deriving Repr

def webContainer (w : WebWorkload) : Json :=
  .obj [
    ("env", .arr (w.env.map (·.toJson))),
    ("image", .str w.image),
    ("imagePullPolicy", .str "IfNotPresent"),
    ("livenessProbe", httpProbe w.probePath httpPort 120 3),
    ("name", .str w.name),
    ("ports", .arr [containerPort "http" httpPort]),
    ("readinessProbe", httpProbe w.probePath httpPort 60 5),
    ("resources", memory w.memoryRequest w.memoryLimit)]

def webDeployment (ctx : Context) (w : WebWorkload) : ManagedResource :=
  deployment ctx w.name ((ctx.labels w.name).add Labels.runtimeKey w.runtime)
    (workloadAnnotations w.connectsTo) "RollingUpdate" [webContainer w] none

/-! ## The events backend -/

def eventsImage : String :=
  "image-registry.openshift-image-registry.svc:5000/gramola-operator-project/events-s2i"

/-- The names of what the events backend reads and calls. -/
structure EventsNeeds where
  secret : String
  databaseService : String
  databasePort : Int
  deriving DecidableEq, Repr

def eventsWorkload (name : String) (needs : EventsNeeds) : WebWorkload where
  name
  image := eventsImage
  runtime := "java"
  env := [.ofSecret "DB_USERNAME" needs.secret databaseUserKey,
    .ofSecret "DB_PASSWORD" needs.secret databasePasswordKey,
    .ofSecret "DB_NAME" needs.secret databaseNameKey,
    .plain "DB_SERVICE_NAME" needs.databaseService,
    .plain "DB_SERVICE_PORT" (toString needs.databasePort),
    .plain "JAVA_OPTIONS" "-Dspring.profiles.active=openshift"]
  probePath := "/api/events"
  memoryRequest := "512Mi"
  memoryLimit := "512Mi"
  connectsTo := some needs.databaseService

def eventsDeployment (ctx : Context) (name : String) (needs : EventsNeeds) : ManagedResource :=
  webDeployment ctx (eventsWorkload name needs)

/-! ## Node tiers -/

/-- A service that a tier calls. -/
structure Backend where
  service : String
  port : Int
  deriving DecidableEq, Repr

/-- A tier that finds its backend in two variables whose names begin with `stem`. -/
def nodeWorkload (name image stem : String) (backend : Backend) : WebWorkload where
  name
  image
  runtime := "nodejs"
  env := [.plain "NODE_ENV" "production",
    .plain (stem ++ "_HOST") backend.service,
    .plain (stem ++ "_PORT") (toString backend.port)]
  probePath := "/api/health"
  memoryRequest := "200Mi"
  memoryLimit := "256Mi"
  connectsTo := some backend.service

end AppServiceOperator.Desired
