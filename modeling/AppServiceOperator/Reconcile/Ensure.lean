import AppServiceOperator.Effect.Call
import AppServiceOperator.Json.Contains
/-!
# Bringing an object about

`ensure` makes the server hold an object that contains what the operator owns of it: it creates
the object where there is none, patches it where it drifted, and leaves it alone otherwise. It
never tries again, since a later pass does.

| here | in the operator |
| --- | --- |
| `ManagedResource.ensure`, `ManagedResource.amend` | `ensure`: up to the live object, and from there on |
-/
namespace AppServiceOperator

/-- What was done to an object. -/
inductive Convergence where
  | created | patched | unchanged
  deriving DecidableEq, Repr

instance : Enumeration Convergence where
  values := [.created, .patched, .unchanged]
  spelling
    | .created => "Created"
    | .patched => "Patched"
    | .unchanged => "Unchanged"

namespace ManagedResource

/-- The failure where the object was there for the creation and gone for the fetch. -/
def vanished (r : ManagedResource) : OperatorError :=
  .conflict r.kind.name r.name "deleted while converging"

/-- Patch the live object unless it contains what the operator owns. -/
def amend (r : ManagedResource) (live : Json) : Operation (Except OperatorError Convergence) :=
  if live.contains r.ownedFields then return .ok .unchanged
  else do
    match ← Operation.patch r r.ownedFields with
    | .ok () => return .ok .patched
    | .error e => return .error e

/-- Make the server hold the object. -/
def ensure (r : ManagedResource) : Operation (Except OperatorError Convergence) := do
  match ← Operation.create r with
  | .ok () => return .ok .created
  | .error (.alreadyExists ..) =>
    match ← Operation.fetch r with
    | .error e => return .error e
    | .ok none => return .error r.vanished
    | .ok (some live) => r.amend live
  | .error e => return .error e

end ManagedResource

end AppServiceOperator
