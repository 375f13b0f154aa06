import AppServiceOperator.App.Condition
/-!
# The status of an AppService

What the operator reports: the outcome of the last pass, the sticky state of the migration with
every attempt at it, and the conditions. Fields that are empty are not written, except that the
delay of the last outcome is written as null, so that a merge patch clears it.

| here | in the operator |
| --- | --- |
| `Status` | `AppServiceStatus` |
| `ReconcileState`, `ReconcileStatus`, `MigrationStatus`, `MigrationRun`, `LastAction` | the types of the same names |
-/
namespace AppServiceOperator

/-- The outcome of a pass. -/
inductive ReconcileState where
  | converged
  | notConverged
  | failed
  /-- No pass has come to an end yet. -/
  | unknown
  deriving DecidableEq, Repr

instance : Enumeration ReconcileState where
  values := [.converged, .notConverged, .failed, .unknown]
  spelling
    | .converged => "True"
    | .notConverged => "False"
    | .failed => "Failed"
    | .unknown => "Unknown"

structure ReconcileStatus where
  status : ReconcileState
  /-- When the outcome was recorded; never moves backwards. -/
  lastUpdate : Instant
  /-- Why the pass failed; empty otherwise. -/
  reason : String
  /-- The delay asked for after the last failure. -/
  retryAfterSeconds : Option UInt64
  deriving DecidableEq, Repr

inductive MigrationStatus where
  | succeeded
  | failed
  /-- Not attempted yet. -/
  | unknown
  deriving DecidableEq, Repr

instance : Enumeration MigrationStatus where
  values := [.succeeded, .failed, .unknown]
  spelling
    | .succeeded => "Succeeded"
    | .failed => "Failed"
    | .unknown => "Unknown"

/-- One attempt at the migration. -/
structure MigrationRun where
  scriptName : String
  status : MigrationStatus
  deriving DecidableEq, Repr

/-- What the last successful pass ended with. -/
inductive LastAction where
  /-- The migration script ran in the pass. -/
  | migrationStarted
  /-- The database is not ready yet. -/
  | requeueEvent
  /-- Nothing besides convergence. -/
  | noAction
  deriving DecidableEq, Repr

instance : Enumeration LastAction where
  values := [.migrationStarted, .requeueEvent, .noAction]
  spelling
    | .migrationStarted => "MigrationStarted"
    | .requeueEvent => "RequeueEvent"
    | .noAction => "NoAction"

structure Status where
  reconcile : Option ReconcileStatus := none
  migration : MigrationStatus := .unknown
  /-- Every attempt at the migration, the oldest first. -/
  migrationRuns : List MigrationRun := []
  lastAction : Option LastAction := none
  conditions : List Condition := []
  deriving DecidableEq, Repr

/-! ## JSON -/

namespace ReconcileStatus

def toJson (s : ReconcileStatus) : Json :=
  .obj [("lastUpdate", Timestamp.toJson s.lastUpdate), ("reason", .str s.reason),
    ("retryAfterSeconds", .ofOption (s.retryAfterSeconds.map fun n => .int n.toNat)),
    ("status", Enumeration.toJson s.status)]

def ofJson? (j : Json) : Option ReconcileStatus := do
  let [status, lastUpdate, reason, retryAfterSeconds] ←
    j.fields? ["status", "lastUpdate", "reason", "retryAfterSeconds"] | none
  return {
    status := ← status.bind Enumeration.ofJson?
    lastUpdate := ← lastUpdate.bind Timestamp.ofJson?
    reason := ← Json.defaulted "" Json.str? reason
    retryAfterSeconds := ← Json.optional Json.word? retryAfterSeconds }

end ReconcileStatus

namespace MigrationRun

def toJson (r : MigrationRun) : Json :=
  .obj [("scriptName", .str r.scriptName), ("status", Enumeration.toJson r.status)]

def ofJson? (j : Json) : Option MigrationRun := do
  let [scriptName, status] ← j.fields? ["scriptName", "status"] | none
  return ⟨← scriptName.bind Json.str?, ← status.bind Enumeration.ofJson?⟩

end MigrationRun

namespace Status

/-- A list that is not written when it is empty. -/
def unlessEmpty (items : List Json) : Option Json := if items.isEmpty then none else some (.arr items)

def toJson (s : Status) : Json :=
  .ofOptional [("conditions", unlessEmpty (s.conditions.map (·.toJson))),
    ("lastAction", s.lastAction.map Enumeration.toJson),
    ("migrationRuns", unlessEmpty (s.migrationRuns.map (·.toJson))),
    ("migrationStatus", some (Enumeration.toJson s.migration)),
    ("reconcileStatus", s.reconcile.map (·.toJson))]

def ofJson? (j : Json) : Option Status := do
  let [reconcile, migration, migrationRuns, lastAction, conditions] ←
    j.fields? ["reconcileStatus", "migrationStatus", "migrationRuns", "lastAction", "conditions"] | none
  return {
    reconcile := ← Json.optional ReconcileStatus.ofJson? reconcile
    migration := ← Json.defaulted .unknown Enumeration.ofJson? migration
    migrationRuns := ← Json.defaulted [] (Json.list? MigrationRun.ofJson?) migrationRuns
    lastAction := ← Json.optional Enumeration.ofJson? lastAction
    conditions := ← Json.defaulted [] (Json.list? Condition.ofJson?) conditions }

end Status

end AppServiceOperator
