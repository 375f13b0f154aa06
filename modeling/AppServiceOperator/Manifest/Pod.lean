import AppServiceOperator.Manifest.ApiResource
import AppServiceOperator.Manifest.Shape.Pod
/-!
# Pods

A pod with what its node reports of it. Of the status the phase and the readiness of the
containers are typed; everything else is carried along.
-/
namespace AppServiceOperator

structure ContainerStatus where
  name : String
  ready : Bool
  /-- All other fields, in normal form. -/
  rest : Members := []
  deriving Repr

structure PodStatus where
  phase : Option String := none
  containers : Option (List ContainerStatus) := none
  /-- All other fields, in normal form. -/
  rest : Members := []
  deriving Repr

structure Pod where
  metadata : ObjectMeta := {}
  status : Option PodStatus := none
  /-- What the pod is to run, in normal form. -/
  spec : Option Json := none
  deriving Repr

namespace ContainerStatus

def toJson (c : ContainerStatus) : Json :=
  .obj (Json.putFields [("name", some (.str c.name)), ("ready", some (.bool c.ready))] c.rest)

/-- The container status of a normal form. -/
def ofNormal (j : Json) : ContainerStatus where
  name := (j.textAt? "name").getD ""
  ready := (j.flagAt? "ready").getD false
  rest := Json.others ["name", "ready"] (j.obj?.getD [])

end ContainerStatus

namespace PodStatus

def toJson (s : PodStatus) : Json :=
  .obj (Json.putFields [("containerStatuses", s.containers.map fun cs => .arr (cs.map (·.toJson))),
    ("phase", s.phase.map .str)] s.rest)

/-- The status of a normal form. -/
def ofNormal (j : Json) : PodStatus where
  phase := j.textAt? "phase"
  containers := ((j.get? "containerStatuses").bind (·.arr?)).map (·.map .ofNormal)
  rest := Json.others ["containerStatuses", "phase"] (j.obj?.getD [])

end PodStatus

namespace Pod

def toJson (p : Pod) : Json :=
  ApiResource.pods.manifest p.metadata
    (Json.putFields [("spec", p.spec), ("status", p.status.map (·.toJson))] [])

/-- A pod of its metadata and of the members of its manifest. -/
def ofMembers? (metadata : ObjectMeta) (members : Members) : Option Pod :=
  (Shape.pod.read (.obj members)).map fun body =>
    ⟨metadata, (body.get? "status").map .ofNormal, body.get? "spec"⟩

def ofJson? (j : Json) : Option Pod :=
  (ApiResource.pods.manifest? j).bind fun (metadata, members) => ofMembers? metadata members

def phase? (p : Pod) : Option String := p.status.bind (·.phase)

/-- The container statuses that are reported. -/
def containers (p : Pod) : List ContainerStatus := (p.status.bind (·.containers)).getD []

end Pod

end AppServiceOperator
