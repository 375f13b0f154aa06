import AppServiceOperator.Dictionary
import AppServiceOperator.Number.Binary64
/-!
# JSON values

A value distinguishes whole numbers from doubles. The members of an object are kept in ascending
order of their keys, each key once; `Json.ofMembers` and `Dictionary.insert` are the ways to build
one. `Json.WellFormed` states that order, and insertion and erasure keep it.
-/
namespace AppServiceOperator

/-- A JSON value; `int` holds whole numbers and `double` all other numbers. -/
inductive Json where
  | null
  | bool (b : Bool)
  | int (n : Int)
  | double (d : Binary64)
  | str (s : String)
  | arr (items : List Json)
  | obj (members : List (String × Json))
  deriving Inhabited, Repr

/-- The members of an object, by ascending key. -/
abbrev Members := Dictionary Json

namespace Json

/-- An object of the given members, in whatever order they are listed. -/
def ofMembers (ms : List (String × Json)) : Json := .obj (Dictionary.ofList ms)

/-- An object of the members that are given a value. -/
def ofOptional (ms : List (String × Option Json)) : Json :=
  ofMembers (ms.filterMap fun (k, v) => v.map (k, ·))

/-- The member at a key; none where the value is no object. -/
def get? (j : Json) (k : String) : Option Json :=
  match j with
  | .obj ms => Dictionary.get? ms k
  | _ => none

def str? : Json → Option String
  | .str s => some s
  | _ => none

def bool? : Json → Option Bool
  | .bool b => some b
  | _ => none

def int? : Json → Option Int
  | .int n => some n
  | _ => none

/-- A whole number that is not negative. -/
def nat? : Json → Option Nat
  | .int (.ofNat n) => some n
  | _ => none

def arr? : Json → Option (List Json)
  | .arr xs => some xs
  | _ => none

def obj? : Json → Option Members
  | .obj ms => some ms
  | _ => none

def isObj : Json → Bool
  | .obj _ => true
  | _ => false

/-- The member at a key, an explicit null counting as none. -/
def given? (j : Json) (k : String) : Option Json :=
  match j.get? k with
  | some .null => none
  | v => v

instance : Coe String Json := ⟨.str⟩

def ofOption (v : Option Json) : Json := v.getD .null

mutual
/-- Equality of values: doubles by their number, everything else by its parts. A whole number
never equals a double. -/
def same : Json → Json → Bool
  | .null, .null => true
  | .bool a, .bool b => a == b
  | .int a, .int b => a == b
  | .double a, .double b => a.same b
  | .str a, .str b => a == b
  | .arr a, .arr b => sameItems a b
  | .obj a, .obj b => sameMembers a b
  | _, _ => false

def sameItems : List Json → List Json → Bool
  | [], [] => true
  | a :: as, b :: bs => same a b && sameItems as bs
  | _, _ => false

def sameMembers : List (String × Json) → List (String × Json) → Bool
  | [], [] => true
  | (k, a) :: as, (l, b) :: bs => k == l && same a b && sameMembers as bs
  | _, _ => false
end

mutual
theorem same_refl : (j : Json) → j.same j = true
  | .null => rfl
  | .bool _ => by simp [same]
  | .int _ => by simp [same]
  | .double _ => by simp [same, Binary64.same_refl]
  | .str _ => by simp [same]
  | .arr items => by simp [same, sameItems_refl items]
  | .obj members => by simp [same, sameMembers_refl members]

theorem sameItems_refl : (xs : List Json) → sameItems xs xs = true
  | [] => rfl
  | x :: xs => by simp [sameItems, same_refl x, sameItems_refl xs]

theorem sameMembers_refl : (ms : List (String × Json)) → sameMembers ms ms = true
  | [] => rfl
  | (_, v) :: ms => by simp [sameMembers, same_refl v, sameMembers_refl ms]
end

mutual
/-- Every object inside the value has ascending keys, each once. -/
def WellFormed : Json → Prop
  | .arr items => WellFormedItems items
  | .obj members => Dictionary.Sorted members ∧ WellFormedMembers members
  | _ => True

def WellFormedItems : List Json → Prop
  | [] => True
  | x :: xs => WellFormed x ∧ WellFormedItems xs

def WellFormedMembers : List (String × Json) → Prop
  | [] => True
  | (_, v) :: ms => WellFormed v ∧ WellFormedMembers ms
end

end Json

end AppServiceOperator
