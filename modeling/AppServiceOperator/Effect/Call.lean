import AppServiceOperator.App.AppService
import AppServiceOperator.Effect.Program
import AppServiceOperator.Manifest.ManagedResource
import AppServiceOperator.Manifest.Pod
import AppServiceOperator.Migration.Session
/-!
# The calls of the operator

Everything that a pass asks of the world around it: reads and writes of the AppService and of the
managed objects, the pods of the database, events, and the clock.

| here | in the operator |
| --- | --- |
| `Call.fetchApp`, `Call.replaceApp`, `Call.writeStatus` | `AppServiceStore::get`, `AppServiceStore::replace`, `AppServiceStore::replace_status` |
| `Call.create`, `Call.fetch`, `Call.patch` | `ResourceStore::create`, `ResourceStore::get`, `ResourceStore::patch` |
| `Call.listPods`, `Call.exec` | `DatabasePods::list`, and `DatabasePods::exec` under the deadline that `run` sets |
| `Call.publish` | `EventPublisher::publish` |
| `Call.now` | the clock, read by the passes |
-/
namespace AppServiceOperator

inductive NoticeType where
  | normal | warning
  deriving DecidableEq, Repr

instance : Enumeration NoticeType where
  values := [.normal, .warning]
  spelling
    | .normal => "Normal"
    | .warning => "Warning"

/-- What an event says about an object. -/
structure Notice where
  type : NoticeType
  reason : String
  action : String
  note : Option String
  deriving DecidableEq, Repr

inductive Call where
  | fetchApp (ns name : String)
  /-- Replace metadata and spec, if nobody wrote the AppService since it was read. -/
  | replaceApp (app : AppService)
  /-- Write the status, if nobody wrote the AppService since it was read. -/
  | writeStatus (app : AppService)
  | create (resource : ManagedResource)
  /-- The live object of the kind, namespace and name of the resource. -/
  | fetch (resource : ManagedResource)
  /-- Merge a patch into the live object. -/
  | patch (resource : ManagedResource) (body : Json)
  | listPods (ns selector : String)
  /-- Run a command in the database container of a pod, for so many seconds at most. -/
  | exec (ns pod : String) (command : List String) (timeoutSeconds : Nat)
  | publish (about : ObjectReference) (notice : Notice)
  | now

/-- What a call is answered with. A command that does not end in time has no answer. -/
abbrev Call.Answer : Call → Type
  | .fetchApp .. => Except OperatorError (Option AppService)
  | .replaceApp _ | .writeStatus _ => Except OperatorError AppService
  | .create _ | .patch .. => Except OperatorError Unit
  | .fetch _ => Except OperatorError (Option Json)
  | .listPods .. => Except OperatorError (List Pod)
  | .exec .. => Option (Except OperatorError ExecOutput)
  | .publish .. => Unit
  | .now => Instant

/-- A program of the operator. -/
abbrev Operation (α : Type) := Program Call.Answer α

namespace Operation

/-! ## One call each -/

abbrev fetchApp (ns name : String) : Operation (Except OperatorError (Option AppService)) :=
  .call (.fetchApp ns name) .done

abbrev replaceApp (app : AppService) : Operation (Except OperatorError AppService) :=
  .call (.replaceApp app) .done

abbrev writeStatus (app : AppService) : Operation (Except OperatorError AppService) :=
  .call (.writeStatus app) .done

abbrev create (resource : ManagedResource) : Operation (Except OperatorError Unit) :=
  .call (.create resource) .done

abbrev fetch (resource : ManagedResource) : Operation (Except OperatorError (Option Json)) :=
  .call (.fetch resource) .done

abbrev patch (resource : ManagedResource) (body : Json) : Operation (Except OperatorError Unit) :=
  .call (.patch resource body) .done

abbrev listPods (ns selector : String) : Operation (Except OperatorError (List Pod)) :=
  .call (.listPods ns selector) .done

abbrev exec (ns pod : String) (command : List String) (timeoutSeconds : Nat) :
    Operation (Option (Except OperatorError ExecOutput)) :=
  .call (.exec ns pod command timeoutSeconds) .done

abbrev publish (about : ObjectReference) (notice : Notice) : Operation Unit :=
  .call (.publish about notice) .done

abbrev now : Operation Instant := .call .now .done

end Operation

end AppServiceOperator
