import AppServiceOperator.Desired.Context
import AppServiceOperator.Manifest.ManagedResource
import AppServiceOperator.Manifest.Shape.Container
/-!
# Containers and deployments

The parts that the workloads are put together from: variables of the environment, probes, memory,
and the deployment around a pod.

| here | in the operator |
| --- | --- |
| `EnvVar.plain`, `EnvVar.ofSecret` | `plain_env`, `secret_env` |
| `memory`, `execProbe`, `httpProbe` | `memory`, `exec_probe`, `http_probe` |
| `deployment` | `deployment` |
-/
namespace AppServiceOperator

/-- A variable of the environment of a container. -/
structure EnvVar where
  name : String
  value : Option String := none
  /-- Where the value is taken from, in normal form. -/
  source : Option Json := none
  deriving Repr

namespace EnvVar

def plain (name value : String) : EnvVar := { name, value := some value }

/-- A variable with the value of a key of a secret. -/
def ofSecret (name secret key : String) : EnvVar where
  name
  source := some (.obj [("secretKeyRef", .obj [("key", .str key), ("name", .str secret)])])

def toJson (e : EnvVar) : Json :=
  .ofOptional [("name", some (.str e.name)), ("value", e.value.map .str), ("valueFrom", e.source)]

def ofJson? (j : Json) : Option EnvVar :=
  (Shape.envVar.read j).map fun v =>
    ⟨(v.textAt? "name").getD "", v.textAt? "value", v.get? "valueFrom"⟩

end EnvVar

namespace Desired

/-- The same memory key in requests and limits. -/
def memory (request limit : String) : Json :=
  .obj [("limits", .obj [("memory", .str limit)]), ("requests", .obj [("memory", .str request)])]

def containerPort (name : String) (port : Int) : Json :=
  .obj [("containerPort", .int port), ("name", .str name), ("protocol", .str "TCP")]

def texts (xs : List String) : Json := .arr (xs.map .str)

def execProbe (command : List String) (initialDelay timeout : Int) : Json :=
  .obj [("exec", .obj [("command", texts command)]), ("failureThreshold", .int 3),
    ("initialDelaySeconds", .int initialDelay), ("timeoutSeconds", .int timeout)]

def httpProbe (path : String) (port initialDelay failureThreshold : Int) : Json :=
  .obj [("failureThreshold", .int failureThreshold),
    ("httpGet", .obj [("path", .str path), ("port", .int port), ("scheme", .str "HTTP")]),
    ("initialDelaySeconds", .int initialDelay), ("periodSeconds", .int 10),
    ("successThreshold", .int 1), ("timeoutSeconds", .int 1)]

/-- What a pod runs, and the volumes that its containers mount. -/
def podSpec (containers : List Json) (volumes : Option (List Json)) : Json :=
  .ofOptional [("containers", some (.arr containers)), ("volumes", volumes.map .arr)]

theorem settable_podSpec (containers : List Json) (volumes : Option (List Json)) :
    (podSpec containers volumes).Settable := by
  refine Json.settable_ofOptional fun m hm v hv => ?_
  simp only [List.mem_cons, List.not_mem_nil, or_false] at hm
  rcases hm with rfl | rfl
  · cases hv
    simp [Json.Settable, Json.nullFree]
  · obtain ⟨vs, -, rfl⟩ := Option.map_eq_some_iff.1 hv
    simp [Json.Settable, Json.nullFree]

/-- The deployment of a component. Its pods carry all labels, and it finds them by the selector. -/
def deployment (ctx : Context) (name : String) (labels : Labels) (annotations : Dictionary String)
    (strategy : String) (containers : List Json) (volumes : Option (List Json)) : ManagedResource where
  kind := .deployment
  metadata := ctx.metadata name labels annotations
  body := [("spec", .obj [("selector", .obj [("matchLabels", .ofTexts labels.selector)]),
    ("strategy", .obj [("type", .str strategy)]),
    ("template", .obj [("metadata", .obj [("labels", .ofTexts labels.toMap)]),
      ("spec", podSpec containers volumes)])])]
  nullFree_body := by
    have h (t : Dictionary String) := Json.settable_ofTexts t
    have hp := settable_podSpec containers volumes
    simp [Json.nullFreeMembers_iff, Json.nullFree, (h _).1, (h _).2, hp.1, hp.2]

end Desired

end AppServiceOperator
