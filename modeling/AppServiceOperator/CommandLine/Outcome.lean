import AppServiceOperator.App.Definition
import AppServiceOperator.CommandLine.Invocation
import AppServiceOperator.Connection.Endpoint
import AppServiceOperator.Yaml.Writer
/-!
# What a run of the program comes to

A run ends at once where it is asked for a text or cannot be understood. Otherwise it looks for the
cluster, and either fails to or knows where its watch would begin.

| here | in the operator |
| --- | --- |
| `outcome` | `main` and `run_controller`, up to the client |
-/
namespace AppServiceOperator.CommandLine

/-- The end of a run. -/
structure Ending where
  exitCode : UInt8
  stdout : String := ""
  stderr : String := ""
  deriving DecidableEq, Repr

namespace Ending

/-- The end of a run that printed what it was asked for. -/
def printed (text : String) : Ending := { exitCode := 0, stdout := text }

def hint : String := "\n\nFor more information, try '--help'.\n"

def ofStop : Stop → Ending
  | .usage e => { exitCode := 2, stderr := e.message ++ hint }
  | .help text => printed text
  | .version => printed Command.versionText

def ofFailure (e : OperatorError) : Ending := { exitCode := 1, stderr := "Error: " ++ e.message ++ "\n" }

/-- The definition of the resource, with an empty line behind it. -/
def definition : Ending := printed (Yaml.write AppService.definition ++ "\n")

end Ending

/-- What a run comes to. -/
inductive Outcome where
  | ended (e : Ending)
  /-- The cluster is known, and the controller can start. -/
  | ready (settings : Settings) (endpoint : Connection.Endpoint)

/-- The outcome of a run with these words. -/
def outcome (host : Connection.Host) (words : List String) : Outcome :=
  match Command.operator.read host.env words with
  | .error stop => .ended (.ofStop stop)
  | .ok invocation =>
    if invocation.printsDefinition then .ended .definition else
    match Connection.endpoint host invocation.settings.kubeconfig with
    | .error e => .ended (.ofFailure e)
    | .ok endpoint => .ready invocation.settings endpoint

/-- The variables that a run looks at. -/
def variableNames : List String := Setting.all.filterMap (·.variableName) ++ Connection.variableNames

/-- The files that a run looks at, as far as the kubeconfigs that can be read tell. -/
def files (host : Connection.Host) (words : List String) : List String :=
  match Command.operator.read host.env words with
  | .error _ => []
  | .ok invocation =>
    if invocation.printsDefinition then [] else Connection.files host invocation.settings.kubeconfig

end AppServiceOperator.CommandLine
