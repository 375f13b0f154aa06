import AppServiceOperator.CommandLine.Outcome
import Std.Time.DateTime.Timestamp
/-!
# The program

Gathers what a run looks at, prints what it comes to and ends with its exit code. The files are
gathered in two rounds, because only a kubeconfig tells which others it needs. Watching the cluster
is not part of this program: with a cluster at hand it names it and ends.
-/
namespace AppServiceOperator.Main

/-- What is found at a path. -/
def content (path : String) : IO FileContent := do
  try
    return .bytes (← IO.FS.readBinFile path).toList
  catch
    | .noFileOrDirectory .. => return .missing
    | _ => return .directory

/-- The host with these files. -/
def withFiles (host : Connection.Host) (paths : List String) : IO Connection.Host := do
  let contents ← paths.mapM fun path => return (path, ← content path)
  return { host with file := fun path => (contents.lookup path).getD .missing }

/-- What a run with these words looks at. -/
def host (words : List String) : IO Connection.Host := do
  let given ← CommandLine.variableNames.filterMapM fun name => do
    return (← IO.getEnv name).map (name, ·)
  let now ← Std.Time.Timestamp.now
  let host : Connection.Host := {
    file := fun _ => .missing
    env := fun name => given.lookup name
    home := ← IO.getEnv "HOME"
    now := ⟨now.toSecondsSinceUnixEpoch.val, 0⟩ }
  let host ← withFiles host (CommandLine.files host words)
  withFiles host (CommandLine.files host words)

end AppServiceOperator.Main

open AppServiceOperator in
def main (words : List String) : IO UInt32 := do
  match CommandLine.outcome (← Main.host words) words with
  | .ended e =>
    IO.print e.stdout
    IO.eprint e.stderr
    return e.exitCode.toUInt32
  | .ready settings endpoint =>
    IO.println (endpoint.server ++ " " ++ settings.watchedNamespace.getD "")
    return 0
