import AppServiceOperator.Json.Basic
/-!
# Records in JSON

A plain record is written as an object by the names of its fields, or as an array in the order of
its fields, whose end may be missing. Unknown members of the object are ignored; an array with
more elements than fields is refused. An enumeration is written as the name of its value, or as an
object with that name as its only member and null behind it.
-/
namespace AppServiceOperator

/-- A type of finitely many values, each with a name. -/
class Enumeration (α : Type) where
  values : List α
  spelling : α → String

namespace Enumeration

variable {α : Type} [Enumeration α]

/-- The value of a name. -/
def ofSpelling? (s : String) : Option α := (values : List α).find? (spelling · == s)

def toJson (a : α) : Json := .str (spelling a)

def ofJson? : Json → Option α
  | .str s => ofSpelling? s
  | .obj [(s, .null)] => ofSpelling? s
  | _ => none

end Enumeration

namespace Json

/-- What is given for each of the named fields, in their order. -/
def fields? (names : List String) : Json → Option (List (Option Json))
  | .obj members => some (names.map fun name => Dictionary.get? members name)
  | .arr items =>
    if items.length ≤ names.length then
      some (items.map some ++ List.replicate (names.length - items.length) none)
    else none
  | _ => none

/-- A field that may be absent or null. -/
def optional {α : Type} (read : Json → Option α) : Option Json → Option (Option α)
  | none | some .null => some none
  | some j => (read j).map some

/-- A field that has a default where it is absent; a null is refused unless it can be read. -/
def defaulted {α : Type} (default : α) (read : Json → Option α) : Option Json → Option α
  | none => some default
  | some j => read j

/-- The items of an array. -/
def list? {α : Type} (read : Json → Option α) : Json → Option (List α)
  | .arr items => items.mapM read
  | _ => none

/-- A whole number of 64 bits without sign. -/
def word? : Json → Option UInt64
  | .int (.ofNat n) => if n < 0x10000000000000000 then some n.toUInt64 else none
  | _ => none

/-- The text at a key. -/
def textAt? (j : Json) (key : String) : Option String := (j.get? key).bind str?

/-- The truth value at a key. -/
def flagAt? (j : Json) (key : String) : Option Bool := (j.get? key).bind bool?

/-- An object of texts. -/
def ofTexts (texts : Dictionary String) : Json := .obj (texts.map fun t => (t.1, .str t.2))

/-- The texts of an object. -/
def texts? : Json → Option (Dictionary String)
  | .obj members => members.mapM fun m => m.2.str?.map fun s => (m.1, s)
  | _ => none

/-- Put the fields that are given among other members. -/
def putFields (fields : List (String × Option Json)) (others : Members) : Members :=
  fields.foldl (fun ms field => match field.2 with
    | some v => Dictionary.insert field.1 v ms
    | none => ms) others

/-- The members that none of the names denotes. -/
def others (names : List String) (members : Members) : Members :=
  members.filter fun m => !names.contains m.1

end Json

end AppServiceOperator
