import AppServiceOperator.Cluster.Http
import AppServiceOperator.Manifest.Shape.Metadata
import AppServiceOperator.Migration.Session
/-!
# The channels of a command session

The frames of a session carry the two output streams and, at the end, the exit status. The status
ends the session. Texts, empty frames and other channels mean nothing.
-/
namespace AppServiceOperator.Session

def stdoutChannel : UInt8 := 1

def stderrChannel : UInt8 := 2

def statusChannel : UInt8 := 3

/-- Why the end of a session is no end of the command. -/
inductive Fault where
  | unreadableStatus
  | reset
  deriving DecidableEq, Repr

def Fault.message : Fault → String
  | .unreadableStatus => "failed to deserialize status object"
  | .reset => "failed to receive a WebSocket message: WebSocket protocol error: " ++
      "Connection reset without closing handshake"

/-- What a session comes to. -/
inductive Outcome where
  | ended (s : ExecSession)
  | faulty (f : Fault)
  /-- The session does not end. -/
  | pending
  deriving DecidableEq, Repr

/-- Whether a status report says of itself, where it says anything, that it is one. -/
def isStatusReport (members : Members) : Bool :=
  (members.get? "apiVersion").all (·.same (.str "v1")) && (members.get? "kind").all (·.same (.str "Status"))

/-- The exit status of a report. -/
def exitStatus? (j : Json) : Option ExitStatus :=
  match j with
  | .obj members =>
    if isStatusReport members then
      (Shape.statusAnswer.read j).map fun v =>
        ⟨v.textAt? "status", v.textAt? "message", v.textAt? "reason"⟩
    else none
  | _ => none

def exitStatusOf? (payload : List UInt8) : Option ExitStatus :=
  match Text.Utf8.decode payload with
  | .ok s => (Json.read? s).bind exitStatus?
  | .error _ => none

/-- What the rest of the frames and the end come to, after the streams read so far. -/
def outcomeFrom (stdout stderr : List UInt8) (ending : SessionEnd) : List Frame → Outcome
  | [] =>
    match ending with
    | .close => .ended ⟨stdout, stderr, none⟩
    | .drop => .faulty .reset
    | .hang => .pending
  | .binary channel (b :: bs) :: frames =>
    if channel = stdoutChannel then outcomeFrom (stdout ++ (b :: bs)) stderr ending frames
    else if channel = stderrChannel then outcomeFrom stdout (stderr ++ (b :: bs)) ending frames
    else if channel = statusChannel then
      match exitStatusOf? (b :: bs) with
      | some status => .ended ⟨stdout, stderr, some status⟩
      | none => .faulty .unreadableStatus
    else outcomeFrom stdout stderr ending frames
  | .binary _ [] :: frames | .text _ :: frames => outcomeFrom stdout stderr ending frames

def outcome (s : Session) : Outcome := outcomeFrom [] [] s.ending s.frames

end AppServiceOperator.Session
