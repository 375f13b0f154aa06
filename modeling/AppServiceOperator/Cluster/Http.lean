import AppServiceOperator.Effect.Program
import AppServiceOperator.Json.Printer
import AppServiceOperator.Json.Reader
import AppServiceOperator.Text.Utf8
import AppServiceOperator.Time.Instant
/-!
# Requests and answers

What goes over the wire between the operator and the server. A body is given by its bytes, or by
the value that they are the text of. A request may also open a session, over which the server
sends frames until one side ends it.
-/
namespace AppServiceOperator

inductive Method where
  | get | post | put | patch
  deriving DecidableEq, Repr

def Method.name : Method → String
  | .get => "GET"
  | .post => "POST"
  | .put => "PUT"
  | .patch => "PATCH"

structure Request where
  method : Method
  /-- The path with the query. -/
  target : String
  contentType : Option String := none
  /-- The protocol that a session is to follow. -/
  protocol : Option String := none
  body : Option Json := none
  deriving Repr

inductive Body where
  | json (j : Json)
  | bytes (bs : List UInt8)
  deriving Repr

namespace Body

/-- The text of a body. -/
def text : Body → Except Text.Utf8.Fault String
  | .json j => .ok j.compact
  | .bytes bs => Text.Utf8.decode bs

/-- The value of a body that is text; none where the text is not that of a value. -/
def json? : Body → Except Text.Utf8.Fault (Option Json)
  | .json j => .ok (some j)
  | .bytes bs => (Text.Utf8.decode bs).map Json.read?

end Body

/-- A message of a session. -/
inductive Frame where
  /-- The first byte of a binary message is the channel. -/
  | binary (channel : UInt8) (payload : List UInt8)
  | text (s : String)
  deriving Repr

/-- What happens after the last frame. -/
inductive SessionEnd where
  | close
  /-- The connection ends without a word. -/
  | drop
  /-- Nothing happens any more. -/
  | hang
  deriving DecidableEq, Repr

structure Session where
  protocol : String
  frames : List Frame
  ending : SessionEnd
  deriving Repr

inductive Response where
  | answer (status : Nat) (body : Body)
  /-- The server agrees to a session. -/
  | session (s : Session)
  /-- The connection fails. -/
  | broken (text : String)
  deriving Repr

/-- What the client asks of the network and of the clock. -/
inductive Wire where
  | send (r : Request)
  /-- A request that is given up when there is no answer within so many seconds. -/
  | sendWithin (r : Request) (seconds : Nat)
  | now

abbrev Wire.Answer : Wire → Type
  | .send _ => Response
  | .sendWithin .. => Option Response
  | .now => Instant

/-- A program of the client. -/
abbrev Exchange (α : Type) := Program Wire.Answer α

namespace Exchange

abbrev send (r : Request) : Exchange Response := .call (.send r) .done

abbrev sendWithin (r : Request) (seconds : Nat) : Exchange (Option Response) :=
  .call (.sendWithin r seconds) .done

abbrev now : Exchange Instant := .call .now .done

end Exchange

end AppServiceOperator
