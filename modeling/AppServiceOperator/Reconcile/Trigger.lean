import AppServiceOperator.Migration.Run
/-!
# What triggers a pass

An event about a pod may make a migration possible. Only the phase and the readiness of the
containers count, so a pod is boiled down to a key of exactly these, and an event that leaves the
key as it is triggers nothing.

| here | in the operator |
| --- | --- |
| `Pod.triggersMigration` | `pod_triggers_migration` |
| `Pod.readinessKey?` | the bytes that `pod_readiness_fingerprint` hashes |
| `Pod.appKey?` | `app_service_for_pod` |
-/
namespace AppServiceOperator

/-- The name and the namespace of an AppService. -/
structure AppKey where
  name : String
  ns : String
  deriving DecidableEq, Repr

namespace Pod

/-- Whether an event about the pod may make a migration possible. -/
def triggersMigration (p : Pod) : Bool :=
  Text.hasPart Desired.eventsDatabase.toList p.metadata.anyName.toList &&
    (p.phase? = some "Running" || p.phase? = some "Succeeded")

/-- A text as bytes that end with one that no text holds. -/
def keyOfText (s : String) : List UInt8 := Text.Utf8.encode s ++ [0xFF]

/-- A choice as its number in eight bytes. -/
def keyOfChoice (n : UInt8) : List UInt8 := [n, 0, 0, 0, 0, 0, 0, 0]

def keyOfPhase : Option String → List UInt8
  | none => keyOfChoice 0
  | some phase => keyOfChoice 1 ++ keyOfText phase

def keyOfContainer (c : ContainerStatus) : List UInt8 := keyOfText c.name ++ [if c.ready then 1 else 0]

/-- The phase and the readiness of every container, in bytes; none without a status. -/
def readinessKey? (p : Pod) : Option (List UInt8) :=
  p.status.map fun s => keyOfPhase s.phase ++ (s.containers.getD []).flatMap keyOfContainer

/-- The AppService that the pod belongs to. -/
def appKey? (p : Pod) : Option AppKey :=
  match p.metadata.label? Labels.instanceKey, p.metadata.ns with
  | some name, some ns => some ⟨name, ns⟩
  | _, _ => none

end Pod

end AppServiceOperator
