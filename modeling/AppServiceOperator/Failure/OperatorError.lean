import AppServiceOperator.Failure.ClientError
import AppServiceOperator.Json.Record
/-!
# Failures of the operator

Why a pass or a part of it failed. `OperatorError.ofClient` classifies the failure of a request
where it leaves the client, so that the rest of the operator can tell an object that is already
there from a lost race and from an object that the server will never accept.

| here | in the operator |
| --- | --- |
| `OperatorError`, `OperatorError.message` | `Error` and its text |
| `OperatorError.ofClient` | `Error::from_kube` |
| `OperatorError.failureClass` | `Error::class` |
| `OperatorError.isRetryable` | `Error::is_retryable` |
| `OperatorError.isConflict` | `Error::is_conflict` |
-/
namespace AppServiceOperator

/-- The coarse classes of failures. -/
inductive FailureClass where
  /-- The spec of the AppService cannot be accepted. -/
  | validation
  /-- Expected to clear up without an edit. -/
  | transientStore
  /-- The server refused a generated object. -/
  | permanentSpec
  /-- The migration script reported errors. -/
  | migration
  deriving DecidableEq, Repr

instance : Enumeration FailureClass where
  values := [.validation, .transientStore, .permanentSpec, .migration]
  spelling
    | .validation => "Validation"
    | .transientStore => "TransientStore"
    | .permanentSpec => "PermanentSpec"
    | .migration => "Migration"

inductive OperatorError where
  /-- The failure of a request that needs no closer name. -/
  | client (source : ClientError)
  | alreadyExists (kind name : String)
  | notFound (kind name : String)
  | conflict (kind name message : String)
  | invalidSpec (kind name message : String)
  | validation (resource message : String) (field : Option String)
  | migration (pod message : String)
  | execTimeout (pod : String) (seconds : Nat)
  | serialization (message : String) (kind : Option String)
  | internal (context message : String)
  deriving DecidableEq, Repr

namespace OperatorError

def message : OperatorError → String
  | .client source => "kubernetes error: " ++ source.message
  | .alreadyExists kind name => kind ++ " " ++ name ++ " already exists"
  | .notFound kind name => kind ++ " " ++ name ++ " not found"
  | .conflict kind name message => "conflict writing " ++ kind ++ " " ++ name ++ ": " ++ message
  | .invalidSpec kind name message => "invalid " ++ kind ++ " " ++ name ++ ": " ++ message
  | .validation resource message _ => "validation error for " ++ resource ++ ": " ++ message
  | .migration pod message => "migration failed in pod " ++ pod ++ ": " ++ message
  | .execTimeout pod seconds => "exec in pod " ++ pod ++ " timed out after " ++ toString seconds ++ "s"
  | .serialization message _ => "serialization error: " ++ message
  | .internal context message => "internal error [" ++ context ++ "]: " ++ message

/-- The resource of a validation failure that belongs to none. -/
def unknownResource : String := "unknown"

/-- The failure of a request about an object. -/
def ofClient (kind name : String) : ClientError → OperatorError
  | .api f =>
    if f.code = 409 then
      if f.reason = "AlreadyExists" then .alreadyExists kind name else .conflict kind name f.message
    else if f.code = 404 then .notFound kind name
    else if f.code = 400 ∨ f.code = 422 then .invalidSpec kind name f.message
    else .client (.api f)
  | e => .client e

def failureClass : OperatorError → FailureClass
  | .validation .. => .validation
  | .invalidSpec .. | .serialization .. => .permanentSpec
  | .migration .. => .migration
  | .client _ | .alreadyExists .. | .notFound .. | .conflict .. | .execTimeout .. | .internal .. =>
    .transientStore

/-- Whether the failure may clear up without an edit of the spec. -/
def isRetryable : OperatorError → Bool
  | .client (.api f) => !HttpStatus.isClientError f.code.toNat
  | .validation .. | .invalidSpec .. | .serialization .. => false
  | _ => true

/-- Whether another writer was faster. -/
def isConflict : OperatorError → Bool
  | .conflict .. => true
  | _ => false

end OperatorError

end AppServiceOperator
