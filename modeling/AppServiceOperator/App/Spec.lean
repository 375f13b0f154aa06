import AppServiceOperator.Failure.OperatorError
/-!
# The spec of an AppService

What a user asks for. The alias is a flavour of the application; an empty alias is the same as
none, and any other text than the two flavours makes the spec invalid.

| here | in the operator |
| --- | --- |
| `Spec`, `Alias` | `AppServiceSpec`, `Alias` |
| `Alias.ofText` | `Alias::from_str` |
| `Spec.flavour` | `AppServiceSpec::parsed_alias` |
| `Spec.validate` | `AppServiceSpec::validate` |
-/
namespace AppServiceOperator

/-- The flavours of the application. -/
inductive Alias where
  | gramola | gramophone
  deriving DecidableEq, Repr

instance : Enumeration Alias where
  values := [.gramola, .gramophone]
  spelling
    | .gramola => "Gramola"
    | .gramophone => "Gramophone"

namespace Alias

def unsupported (text : String) : String :=
  "alias '" ++ text ++ "' is not supported, expected one of: Gramola, Gramophone"

/-- The flavour of a text, or why it is none. -/
def ofText (text : String) : Except String Alias :=
  match (Enumeration.ofSpelling? text : Option Alias) with
  | some a => .ok a
  | none => .error (unsupported text)

end Alias

structure Spec where
  /-- A disabled AppService is left alone. -/
  enabled : Bool := true
  /-- Set by the operator on first admission. -/
  initialized : Bool := false
  /-- The flavour asked for, as it was given. -/
  flavourText : Option String := none
  deriving DecidableEq, Repr

namespace Spec

def toJson (s : Spec) : Json :=
  .ofOptional [("alias", s.flavourText.map .str), ("enabled", some (.bool s.enabled)),
    ("initialized", some (.bool s.initialized))]

def ofJson? (j : Json) : Option Spec := do
  let [enabled, initialized, text] ← j.fields? ["enabled", "initialized", "alias"] | none
  return {
    enabled := ← Json.defaulted true Json.bool? enabled
    initialized := ← Json.defaulted false Json.bool? initialized
    flavourText := ← Json.optional Json.str? text }

/-- The flavour asked for, if any. -/
def flavour (s : Spec) : Except String (Option Alias) :=
  match s.flavourText with
  | none | some "" => .ok none
  | some text => some <$> Alias.ofText text

/-- Whether the spec of the AppService of that name can be accepted. -/
def validate (s : Spec) (name : String) : Except OperatorError Unit :=
  match s.flavour with
  | .ok _ => .ok ()
  | .error message => .error (.validation name message (some "spec.alias"))

end Spec

end AppServiceOperator
