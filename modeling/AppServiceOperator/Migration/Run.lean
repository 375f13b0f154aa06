import AppServiceOperator.Effect.Call
import AppServiceOperator.Migration.Script
/-!
# Running the migration

The script runs in the first listed pod whose database is ready. Anything on the error stream
besides white space is a failure, and so is every exit status but success. Nothing is remembered
here: whether the script has run before is for the caller to know.

| here | in the operator |
| --- | --- |
| `Pod.isReadyDatabase` | `is_ready_database` |
| `Migration.run`, `Migration.runIn`, `Migration.outcome` | `run`: the choice of the pod, the command in it, and what its output amounts to |
-/
namespace AppServiceOperator

/-- Whether the pod is running with its database container ready. -/
def Pod.isReadyDatabase (p : Pod) : Bool :=
  p.phase? = some "Running" &&
    p.containers.any fun c => c.name = Desired.databaseContainer && c.ready

/-- How an attempt that did not fail ended. -/
inductive MigrationOutcome where
  /-- No database is ready yet. -/
  | notReady
  | completed (pod stdout : String)
  deriving DecidableEq, Repr

namespace Migration

/-- What the output of the script in a pod amounts to. -/
def outcome (pod : String) (output : ExecOutput) : Except OperatorError MigrationOutcome :=
  let stderr := Text.trim output.stderr
  if stderr ≠ "" then .error (.migration pod stderr)
  else match output.failure with
    | some failure => .error (.migration pod failure)
    | none => .ok (.completed pod output.stdout)

/-- Run the script in a pod. -/
def runIn (ns pod : String) (settings : MigrationSettings) :
    Operation (Except OperatorError MigrationOutcome) := do
  match ← Operation.exec ns pod settings.command settings.timeoutSeconds with
  | none => return .error (.execTimeout pod settings.timeoutSeconds)
  | some (.error e) => return .error e
  | some (.ok output) => return outcome pod output

/-- Run the script in the first pod that is ready. -/
def run (ns : String) (settings : MigrationSettings) :
    Operation (Except OperatorError MigrationOutcome) := do
  match ← Operation.listPods ns Desired.databaseSelector with
  | .error e => return .error e
  | .ok pods =>
    match pods.find? Pod.isReadyDatabase with
    | none => return .ok .notReady
    | some pod => runIn ns pod.metadata.anyName settings

end Migration

end AppServiceOperator
