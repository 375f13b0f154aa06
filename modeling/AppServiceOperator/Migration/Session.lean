import AppServiceOperator.Text.Blank
import AppServiceOperator.Text.Utf8
/-!
# Output of remote commands

A command in a pod ends with the bytes of its two streams and, where the session got so far, with
an exit status. Only a reported success counts as one.

| here | in the operator |
| --- | --- |
| `exitFailure` | `exit_failure` |
| `ExecSession.output` | the end of `KubeDatabasePods::exec`: both streams by `read_stream`, and the exit status |
-/
namespace AppServiceOperator

structure ExitStatus where
  status : Option String := none
  message : Option String := none
  reason : Option String := none
  deriving DecidableEq, Repr

/-- Why the command failed; none where it reported success. -/
def exitFailure : Option ExitStatus → Option String
  | none => some "exec session ended without an exit status"
  | some s =>
    if s.status = some "Success" then none
    else some ((s.message.or s.reason).getD "command exited with a failure status")

/-- What a session left behind. -/
structure ExecSession where
  stdout : List UInt8
  stderr : List UInt8
  status : Option ExitStatus
  deriving DecidableEq, Repr

/-- The output of a command as text. -/
structure ExecOutput where
  stdout : String := ""
  stderr : String := ""
  failure : Option String := none
  deriving DecidableEq, Repr

def ExecSession.output (s : ExecSession) : ExecOutput where
  stdout := Text.Utf8.decodeLossy s.stdout
  stderr := Text.Utf8.decodeLossy s.stderr
  failure := exitFailure s.status

end AppServiceOperator
