import AppServiceOperator.Migration.Run
import AppServiceOperator.Reconcile.Action
import AppServiceOperator.Reconcile.Ensure
/-!
# Passes

One pass over an AppService: it reads the AppService afresh, marks it on first sight, brings about
its objects in order, runs the migration once they all stand, and records how it went. A failure
after the read is recorded in the status and asks for a delay that grows with every failure in a
row; a failure of the read is the failure of the pass.

| here | in the operator |
| --- | --- |
| `PassSettings`, `Progress` | `Context` without its stores, and `Pass` |
| `Pass.publish` | `Context::publish` |
| `Pass.converge`, `Pass.convergenceNotice?` | `converge_group`, over the resources of all groups at once |
| `Pass.migrate`, `Pass.storeMigration` | `migrate`: all of it, and its branch for a clean run |
| `Pass.drive`, `Pass.markInitialized` | `drive`: all of it, and its branch for an AppService that is not initialized |
| `Pass.writeStatus`, `Pass.reportStatusNotWritten` | `write_status`, `status_write_failed` |
| `Pass.commitSuccess`, `Pass.commitFailure` | `commit_success`, `commit_failure` |
| `Pass.reconcile`, `Pass.work`, `Pass.commit` | `reconcile`: up to the read, from there on, and its match on the result of `drive` |
| `Pass.errorAction` | `error_policy` |
-/
namespace AppServiceOperator

/-- What all passes share. -/
structure PassSettings where
  migration : MigrationSettings := {}
  /-- The script that is shipped to the database, where one was found. -/
  script : Option Script := none
  /-- Seconds until a database that is not ready is looked at again. -/
  migrationRequeue : Nat := 10
  deriving DecidableEq, Repr

/-- How far a pass got that did not fail. -/
inductive Progress where
  /-- The AppService was marked; the change it makes brings on the next pass. -/
  | initialized
  | converged (action : LastAction) (requeue : Option Nat)
  /-- The result of the migration could not be stored. -/
  | statusNotWritten
  deriving DecidableEq, Repr

namespace Reason

def initialized : String := "Initialized"

def resourceCreated : String := "ResourceCreated"

def resourcePatched : String := "ResourcePatched"

def migrationSucceeded : String := "MigrationSucceeded"

def migrationFailed : String := "MigrationFailed"

def processingError : String := "ProcessingError"

def statusUpdateFailed : String := "StatusUpdateFailed"

end Reason

namespace Pass

/-! ## Events -/

def publish (app : AppService) (notice : Notice) : Operation Unit :=
  Operation.publish app.reference notice

def reconcileAction : String := "Reconcile"

def convergeAction : String := "Converge"

def migrateAction : String := "Migrate"

def reportStatusNotWritten (app : AppService) (e : OperatorError) : Operation Unit :=
  publish app ⟨.warning, Reason.statusUpdateFailed, reconcileAction, some e.message⟩

/-! ## Convergence -/

/-- The event about what was done to an object, if anything. -/
def convergenceNotice? (r : ManagedResource) : Convergence → Option Notice
  | .created => some ⟨.normal, Reason.resourceCreated, convergeAction, some (r.kind.name ++ " " ++ r.name)⟩
  | .patched => some ⟨.normal, Reason.resourcePatched, convergeAction, some (r.kind.name ++ " " ++ r.name)⟩
  | .unchanged => none

/-- Bring about the objects in order, up to the first failure. -/
def converge (app : AppService) : List ManagedResource → Operation (Except OperatorError Unit)
  | [] => return .ok ()
  | r :: rs => do
    match ← r.ensure with
    | .error e => return .error e
    | .ok c =>
      match convergenceNotice? r c with
      | some notice => publish app notice
      | none => pure ()
      converge app rs

/-! ## Migration -/

/-- Store the result of a clean run at once, so that no later failure of the pass can make the
script run again. -/
def storeMigration (settings : PassSettings) (app : AppService) (pod : String) :
    Operation (AppService × Except OperatorError Progress) := do
  let script := settings.migration.scriptName
  let app := app.mapStatus (·.recordMigration script .succeeded)
  match ← Operation.writeStatus app with
  | .error e =>
    reportStatusNotWritten app e
    return (app, .ok .statusNotWritten)
  | .ok stored =>
    publish stored ⟨.normal, Reason.migrationSucceeded, migrateAction, some (script ++ " ran in " ++ pod)⟩
    return (stored, .ok (.converged .migrationStarted none))

def migrate (settings : PassSettings) (app : AppService) :
    Operation (AppService × Except OperatorError Progress) := do
  match ← Migration.run (app.ns.getD "") settings.migration with
  | .ok .notReady => return (app, .ok (.converged .requeueEvent (some settings.migrationRequeue)))
  | .ok (.completed pod _) => storeMigration settings app pod
  | .error e =>
    let app := app.mapStatus (·.recordMigration settings.migration.scriptName .failed)
    publish app ⟨.warning, Reason.migrationFailed, migrateAction, some e.message⟩
    return (app, .error e)

/-! ## From the read to the outcome -/

/-- Mark an AppService that is seen for the first time. -/
def markInitialized (app : AppService) : Operation (AppService × Except OperatorError Progress) := do
  let marked := { app with spec := { app.spec with initialized := true } }
  match ← Operation.replaceApp marked with
  | .error e => return (marked, .error e)
  | .ok stored =>
    publish stored ⟨.normal, Reason.initialized, reconcileAction, none⟩
    return (stored, .ok .initialized)

/-- Bring about everything that an AppService asks for. The AppService that comes back is the one
to record the outcome in. -/
def drive (settings : PassSettings) (app : AppService) :
    Operation (AppService × Except OperatorError Progress) := do
  match app.spec.validate app.name with
  | .error e => return (app, .error e)
  | .ok () =>
    if !app.spec.initialized then markInitialized app
    else match Context.ofApp app settings.script with
      | .error e => return (app, .error e)
      | .ok ctx =>
        match ← converge app (Desired.resources ctx) with
        | .error e => return (app, .error e)
        | .ok () =>
          if app.migration = .succeeded then return (app, .ok (.converged .noAction none))
          else migrate settings app

/-- Write the status; whether that worked. -/
def writeStatus (app : AppService) : Operation Bool := do
  match ← Operation.writeStatus app with
  | .ok _ => return true
  | .error e =>
    reportStatusNotWritten app e
    return false

def commitSuccess (app : AppService) (action : LastAction) (requeue : Option Nat) : Operation PassOutcome := do
  let now ← Operation.now
  if ← writeStatus (app.mapStatus (·.recordSuccess action now)) then
    return match requeue with
      | some seconds => .requeue seconds
      | none => .done
  else return .requeueImmediate

def commitFailure (app : AppService) (e : OperatorError) : Operation PassOutcome := do
  let now ← Operation.now
  let delay := app.currentStatus.nextDelay
  let app := app.mapStatus (·.recordFailure e.message now)
  publish app ⟨.warning, Reason.processingError, reconcileAction, some e.message⟩
  if ← writeStatus app then return .requeue delay.toNat else return .requeueImmediate

/-- Record how a pass went. -/
def commit : AppService × Except OperatorError Progress → Operation PassOutcome
  | (_, .ok .initialized) => return .done
  | (_, .ok .statusNotWritten) => return .requeueImmediate
  | (app, .ok (.converged action requeue)) => commitSuccess app action requeue
  | (app, .error e) => commitFailure app e

/-- A pass over an AppService that was just read. -/
def work (settings : PassSettings) (app : AppService) : Operation Action :=
  if app.spec.enabled then do
    return (← commit (← drive settings app)).action
  else return .awaitChange

/-- One pass. The AppService that is handed in only names the one to read. -/
def reconcile (settings : PassSettings) (key : AppService) : Operation (Except OperatorError Action) :=
  match key.ns with
  | none => return .ok .awaitChange
  | some ns => do
    match ← Operation.fetchApp ns key.name with
    | .error e => return .error e
    | .ok none => return .ok .awaitChange
    | .ok (some app) => return .ok (← work settings app)

/-- What follows a pass that failed before there was anything to record it in. -/
def errorAction : Action := .requeue immediateRequeue

end Pass

end AppServiceOperator
