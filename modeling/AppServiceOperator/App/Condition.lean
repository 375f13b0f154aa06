import AppServiceOperator.Json.Record
import AppServiceOperator.Time.Rfc3339
/-!
# Conditions

A status holds one condition for each type. Setting a condition replaces the first of its type,
or is put at the end where there is none; while the status stays the same, so does the time of
the last transition.

| here | in the operator |
| --- | --- |
| `Condition`, `ConditionStatus` | the types of the same names |
| `Condition.put`, `Condition.succeed` | `set_condition`: the walk over the conditions, and what it makes of the one it meets |
-/
namespace AppServiceOperator

inductive ConditionStatus where
  | isTrue | isFalse | unknown
  deriving DecidableEq, Repr

instance : Enumeration ConditionStatus where
  values := [.isTrue, .isFalse, .unknown]
  spelling
    | .isTrue => "True"
    | .isFalse => "False"
    | .unknown => "Unknown"

namespace Timestamp

def toJson (t : Instant) : Json := .str (write t)

def ofJson? : Json → Option Instant
  | .str s => read? s
  | _ => none

end Timestamp

structure Condition where
  type : String
  status : ConditionStatus
  /-- For machines. -/
  reason : String
  /-- For people. -/
  message : String
  lastTransition : Instant
  deriving DecidableEq, Repr

namespace Condition

def toJson (c : Condition) : Json :=
  .obj [("lastTransitionTime", Timestamp.toJson c.lastTransition), ("message", .str c.message),
    ("reason", .str c.reason), ("status", Enumeration.toJson c.status), ("type", .str c.type)]

def ofJson? (j : Json) : Option Condition := do
  let [type, status, reason, message, lastTransition] ←
    j.fields? ["type", "status", "reason", "message", "lastTransitionTime"] | none
  return {
    type := ← type.bind Json.str?
    status := ← status.bind Enumeration.ofJson?
    reason := ← reason.bind Json.str?
    message := ← message.bind Json.str?
    lastTransition := ← lastTransition.bind Timestamp.ofJson? }

/-- The condition that takes the place of an earlier one of its type. -/
def succeed (c earlier : Condition) : Condition :=
  if earlier.status = c.status then { c with lastTransition := earlier.lastTransition } else c

/-- Set a condition among the others. -/
def put (c : Condition) : List Condition → List Condition
  | [] => [c]
  | earlier :: rest => if earlier.type = c.type then c.succeed earlier :: rest else earlier :: c.put rest

end Condition

end AppServiceOperator
