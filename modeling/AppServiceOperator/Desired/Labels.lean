import AppServiceOperator.Dictionary
/-!
# Labels and annotations

Every managed object carries the labels of its component. The well-known labels are fixed and win
over extra ones of the same key. The selector is the part of them that cannot change once an
object was created.

| here | in the operator |
| --- | --- |
| `Labels` | `AppLabels` |
| `Labels.add`, `Labels.selector`, `Labels.toMap` | `AppLabels::with`, `AppLabels::selector`, `AppLabels::to_map` |
| `workloadAnnotations` | `workload_annotations` |
-/
namespace AppServiceOperator

/-- Labels of a component of the AppService that `instanceName` names. -/
structure Labels where
  component : String
  instanceName : String
  /-- Labels besides the well-known ones. -/
  extra : Dictionary String := []
  deriving DecidableEq, Repr

namespace Labels

def appValue : String := "gramola"

/-- The key that names the component. -/
def componentKey : String := "component"

/-- The key that names the AppService. -/
def instanceKey : String := "app.kubernetes.io/instance"

/-- The key of the runtime that a console shows. -/
def runtimeKey : String := "app.kubernetes.io/name"

def partOfKey : String := "app.kubernetes.io/part-of"

/-- One more extra label. -/
def add (l : Labels) (key value : String) : Labels := { l with extra := l.extra.insert key value }

/-- The labels that pods are found by. -/
def selector (l : Labels) : Dictionary String := [("app", appValue), (componentKey, l.component)]

def toMap (l : Labels) : Dictionary String :=
  (((l.extra.insert "app" appValue).insert componentKey l.component).insert
    instanceKey l.instanceName).insert partOfKey appValue

end Labels

/-! ## Annotations -/

/-- The key of the service that a workload talks to. -/
def connectsToKey : String := "app.openshift.io/connects-to"

/-- Annotations of a workload, which may talk to a service. -/
def workloadAnnotations (connectsTo : Option String) : Dictionary String :=
  let source := [("app.openshift.io/vcs-ref", "master"),
    ("app.openshift.io/vcs-uri", "https://github.com/cvicens/gramola")]
  match connectsTo with
  | some service => (connectsToKey, service) :: source
  | none => source

end AppServiceOperator
