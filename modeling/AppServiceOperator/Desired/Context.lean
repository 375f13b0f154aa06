import AppServiceOperator.App.AppService
import AppServiceOperator.Desired.Labels
/-!
# What an AppService determines

All objects of an AppService are functions of four things: its name, its namespace, the reference
that makes it their owner, and the migration script that the operator ships.

| here | in the operator |
| --- | --- |
| `Context`, `Script` | `TemplateContext`, `MigrationScript` |
| `Context.ofApp` | `TemplateContext::for_app` |
| `Context.labels`, `Context.metadata` | `TemplateContext::labels`, `TemplateContext::metadata` |
-/
namespace AppServiceOperator

/-- A script and the name of its file. -/
structure Script where
  name : String
  body : String
  deriving DecidableEq, Repr

/-- What the objects of one AppService are made from. -/
structure Context where
  /-- The name of the AppService. -/
  instanceName : String
  /-- The namespace of all its objects. -/
  ns : String
  owner : OwnerReference
  script : Option Script
  deriving DecidableEq, Repr

namespace Context

/-- The context of an AppService. One that was never stored has no namespace or no uid. -/
def ofApp (app : AppService) (script : Option Script) : Except OperatorError Context :=
  match app.ns with
  | none => .error (.validation app.name "AppService must be namespaced" (some "metadata.namespace"))
  | some ns =>
    match app.controllerReference? with
    | none => .error (.internal "template" ("AppService " ++ app.name ++ " has no uid"))
    | some owner => .ok ⟨app.name, ns, owner, script⟩

def labels (ctx : Context) (component : String) : Labels := { component, instanceName := ctx.instanceName }

/-- The metadata of an object. -/
def metadata (ctx : Context) (name : String) (labels : Labels) (annotations : Dictionary String) :
    ObjectMeta where
  name := some name
  ns := some ctx.ns
  labels := some labels.toMap
  annotations := if annotations.isEmpty then none else some annotations
  ownerReferences := some [ctx.owner]

end Context

end AppServiceOperator
