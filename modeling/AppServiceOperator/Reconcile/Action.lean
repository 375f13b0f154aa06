import AppServiceOperator.App.Bookkeeping
/-!
# What follows a pass

A pass ends with a wish: to wait for a change, or to be run again after a delay.

| here | in the operator |
| --- | --- |
| `immediateRequeue` | `IMMEDIATE_REQUEUE` |
| `PassOutcome.action` | the conversion of a `PassOutcome` into an `Action` |
-/
namespace AppServiceOperator

/-- What the queue of passes is told. -/
inductive Action where
  | awaitChange
  | requeue (seconds : Nat)
  deriving DecidableEq, Repr

/-- The delay of a pass that lost a race and is to read afresh, in seconds. -/
def immediateRequeue : Nat := 1

/-- How a pass ended. -/
inductive PassOutcome where
  | requeue (seconds : Nat)
  | requeueImmediate
  | done
  deriving DecidableEq, Repr

def PassOutcome.action : PassOutcome → Action
  | .requeue seconds => .requeue seconds
  | .requeueImmediate => .requeue immediateRequeue
  | .done => .awaitChange

end AppServiceOperator
