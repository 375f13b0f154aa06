import AppServiceOperator.Desired.Context
import AppServiceOperator.Manifest.ManagedResource
/-!
# Services and routes

How the pods of a component are reached: a service in front of them, and a route to the service.

| here | in the operator |
| --- | --- |
| `service`, `route` | the functions of the same names |
-/
namespace AppServiceOperator.Desired

/-- The port that every web tier listens on. -/
def httpPort : Int := 8080

def servicePort (name : String) (port : Int) : Json :=
  .obj [("name", .str name), ("port", .int port), ("protocol", .str "TCP")]

/-- The service of that name in front of the pods of the component of that name. -/
def service (ctx : Context) (name : String) (ports : List (String × Int)) : ManagedResource where
  kind := .service
  metadata := ctx.metadata name (ctx.labels name) []
  body := [("spec", .obj [("ports", .arr (ports.map fun p => servicePort p.1 p.2)),
    ("selector", .ofTexts (ctx.labels name).selector)])]
  nullFree_body := by
    simp [Json.nullFreeMembers_iff, Json.nullFree, Json.settable_ofTexts _ |>.1,
      Json.settable_ofTexts _ |>.2]

/-- A route to a port of a service. -/
def route (ctx : Context) (name service : String) (port : Int) : ManagedResource :=
  .ofRoute (ctx.metadata name (ctx.labels name) [])
    { host := none, target := ⟨"Service", service⟩, port := some (.number port) }

end AppServiceOperator.Desired
