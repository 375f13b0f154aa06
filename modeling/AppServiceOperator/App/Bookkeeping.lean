import AppServiceOperator.App.Status
/-!
# Bookkeeping of passes

How outcomes are written into the status. Failures back off: the first one after a success waits
for the initial delay, each further one twice as long as the one before, up to six hours. The
delay is kept in the status, so that the sequence goes on after a restart. The time of the last
update never moves backwards, and a migration that succeeded once stays so.

| here | in the operator |
| --- | --- |
| `initialRetryDelay`, `maxRetryDelay` | `INITIAL_RETRY_DELAY`, `MAX_RETRY_DELAY` |
| `nextRetryDelay` | `next_retry_delay` |
| `Status.updateTime` | `monotonic` |
| `Status.recordFailure`, `Status.nextDelay` | `record_failure`: the status it leaves and the delay it returns |
| `Status.recordSuccess`, `Status.successCondition` | `record_success` |
| `Status.recordMigration` | `AppServiceStatus::record_migration` |
-/
namespace AppServiceOperator

/-! ## Delays -/

/-- Seconds to wait after the first failure since a success. -/
def initialRetryDelay : UInt64 := 1

/-- No failure waits longer, in seconds. -/
def maxRetryDelay : UInt64 := 21600

/-- Twice the number, or the largest number where that does not fit. -/
def saturatingDouble (n : UInt64) : UInt64 := if n < 0x8000000000000000 then n * 2 else 0xFFFFFFFFFFFFFFFF

/-- The delay after a failure, from the outcome recorded before it. -/
def nextRetryDelay : Option ReconcileStatus → UInt64
  | some { status := .failed, retryAfterSeconds := some delay, .. } => min (saturatingDouble delay) maxRetryDelay
  | _ => initialRetryDelay

/-! ## Records -/

namespace PromotedReason

/-- The database is not ready yet. -/
def waiting : String := "Waiting"

/-- Everything converged. -/
def succeeded : String := "Succeeded"

/-- The last pass failed. -/
def failed : String := "Failed"

end PromotedReason

namespace Status

/-- The name of the condition that others wait for. -/
def promoted : String := "Promoted"

/-- The clock reading, unless the last update was later. -/
def updateTime (s : Status) (now : Instant) : Instant :=
  match s.reconcile with
  | none => now
  | some previous => previous.lastUpdate.latest now

/-- The delay that a failure recorded now would ask for. -/
def nextDelay (s : Status) : UInt64 := nextRetryDelay s.reconcile

def recordFailure (s : Status) (reason : String) (now : Instant) : Status :=
  let time := s.updateTime now
  { s with
    reconcile := some ⟨.failed, time, reason, some s.nextDelay⟩
    conditions := Condition.put ⟨promoted, .isFalse, PromotedReason.failed, reason, time⟩ s.conditions }

/-- The condition after a success: a pass that waits for the database has not promoted yet. -/
def successCondition (action : LastAction) (time : Instant) : Condition :=
  match action with
  | .requeueEvent =>
    ⟨promoted, .unknown, PromotedReason.waiting, "waiting for the events database to become ready", time⟩
  | .migrationStarted | .noAction => ⟨promoted, .isTrue, PromotedReason.succeeded, "", time⟩

def recordSuccess (s : Status) (action : LastAction) (now : Instant) : Status :=
  let time := s.updateTime now
  { s with
    reconcile := some ⟨.converged, time, "", none⟩
    lastAction := some action
    conditions := Condition.put (successCondition action time) s.conditions }

def recordMigration (s : Status) (script : String) (outcome : MigrationStatus) : Status :=
  { s with
    migrationRuns := s.migrationRuns ++ [⟨script, outcome⟩]
    migration := if s.migration = .succeeded then .succeeded else outcome }

/-- Set any condition. -/
def setCondition (s : Status) (c : Condition) : Status := { s with conditions := c.put s.conditions }

end Status

end AppServiceOperator
