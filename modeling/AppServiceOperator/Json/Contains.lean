import AppServiceOperator.Json.Basic
/-!
# Containment

A value contains a desired one when every field of the desired value is in it with the same
value. Members that only the current value has are ignored, arrays must agree element by element,
and an empty desired object is met by an absent member, since a server may drop empty maps.

| here | in the operator |
| --- | --- |
| `contains`, `containsItems`, `containsMembers` | `contains`, its two walks as functions of their own |
-/
namespace AppServiceOperator.Json

def isEmptyObj : Json → Bool
  | .obj [] => true
  | _ => false

mutual
/-- Whether every field of the desired value is in the current one. -/
def contains (current : Json) : Json → Bool
  | .obj ds =>
    match current with
    | .obj cs => containsMembers cs ds
    | _ => false
  | .arr ds =>
    match current with
    | .arr cs => containsItems cs ds
    | _ => false
  | desired => current.same desired

def containsItems (current : List Json) : List Json → Bool
  | [] => current.isEmpty
  | d :: ds =>
    match current with
    | c :: cs => contains c d && containsItems cs ds
    | [] => false

def containsMembers (current : Members) : List (String × Json) → Bool
  | [] => true
  | (k, d) :: ds =>
    (match Dictionary.get? current k with
      | some c => contains c d
      | none => isEmptyObj d) && containsMembers current ds
end

end AppServiceOperator.Json
