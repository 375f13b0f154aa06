import AppServiceOperator.Failure.HttpStatus
import AppServiceOperator.Text.Quoted
import AppServiceOperator.Text.UrlEncoding
/-!
# Failures of requests

Why a request to the server did not yield an object: the server refused it, the connection broke,
the answer could not be read, or the request could not be made at all.
-/
namespace AppServiceOperator

/-- The error that a server reports. -/
structure ApiFailure where
  status : String
  message : String
  reason : String
  code : UInt16
  deriving DecidableEq, Repr

namespace ApiFailure

/-- All fields, each text quoted. -/
def fieldsText (f : ApiFailure) : String :=
  "ErrorResponse \x7b status: " ++ Text.quoted f.status ++ ", message: " ++ Text.quoted f.message ++
    ", reason: " ++ Text.quoted f.reason ++ ", code: " ++ toString f.code.toNat ++ " \x7d"

/-- The failure of an answer whose body is no error report: the whole body is the message. -/
def ofBody (code : UInt16) (body : String) : ApiFailure :=
  ⟨HttpStatus.text code.toNat, Text.quoted body, "Failed to parse error data", code⟩

end ApiFailure

/-- Why a request is not one that can be sent. -/
inductive RequestFault where
  | target (fault : Text.Url.TargetFault)
  | emptyName
  deriving DecidableEq, Repr

def RequestFault.message : RequestFault → String
  | .target fault => "failed to build request: " ++ fault.message
  | .emptyName => "failed to validate request: A non-empty name is required"

/-- Why an answer does not open a session. -/
inductive UpgradeFault where
  | status (code : Nat)
  | noUpgradeHeader
  | protocolMismatch
  deriving DecidableEq, Repr

def UpgradeFault.message : UpgradeFault → String
  | .status code => "failed to switch protocol: " ++ HttpStatus.text code
  | .noUpgradeHeader => "upgrade header was not set to websocket"
  | .protocolMismatch => "Sec-WebSocket-Protocol mismatched"

inductive ClientError where
  | api (failure : ApiFailure)
  /-- The connection failed. -/
  | service (text : String)
  | readEvents (text : String)
  | unendedLine
  | tlsRequired
  | missingKind (text : String)
  /-- The body of the answer is not UTF-8. -/
  | notUtf8 (fault : Text.Utf8.Fault)
  /-- The body of the answer is not the object that was asked for. -/
  | undecodable
  | request (fault : RequestFault)
  | upgrade (fault : UpgradeFault)
  deriving DecidableEq, Repr

def ClientError.message : ClientError → String
  | .api f => "ApiError: " ++ f.message ++ ": " ++ f.reason ++ " (" ++ f.fieldsText ++ ")"
  | .service text => "ServiceError: " ++ text
  | .readEvents text => "Error reading events stream: " ++ text
  | .unendedLine => "Error finding newline character"
  | .tlsRequired => "TLS required but no TLS stack selected"
  | .missingKind text => "Error from discovery: Missing Kind: " ++ text
  | .notUtf8 fault => "UTF-8 Error: " ++ fault.message
  | .undecodable => "Error deserializing response"
  | .request fault => "Failed to build request: " ++ fault.message
  | .upgrade fault => "failed to upgrade to a WebSocket connection: " ++ fault.message

end AppServiceOperator
