import AppServiceOperator.Text.Terminal
/-!
# Usage errors

Why a command line, or a variable that stands in for an option, is not understood. `label` is the
option as the help shows it, with the place of its value.
-/
namespace AppServiceOperator.CommandLine

inductive UsageError where
  /-- The value cannot be read. -/
  | invalidValue (label value reason : String)
  /-- The value is none of those to choose from. -/
  | unknownChoice (label value : String)
  | missingValue (label : String)
  /-- A flag that takes no value has one. -/
  | excessValue (label value : String)
  | repeated (label : String)
  | unexpectedArgument (word : String)
  | unknownCommand (word : String)
  deriving DecidableEq, Repr

def UsageError.wording : UsageError → String
  | .invalidValue label value reason =>
    "error: invalid value '" ++ value ++ "' for '" ++ label ++ "': " ++ reason
  | .unknownChoice label value => "error: invalid value '" ++ value ++ "' for '" ++ label ++ "'"
  | .missingValue label => "error: a value is required for '" ++ label ++ "' but none was supplied"
  | .excessValue label value =>
    "error: unexpected value '" ++ value ++ "' for '" ++ label ++ "' found; no more were expected"
  | .repeated label => "error: the argument '" ++ label ++ "' cannot be used multiple times"
  | .unexpectedArgument word => "error: unexpected argument '" ++ word ++ "' found"
  | .unknownCommand word => "error: unrecognized subcommand '" ++ word ++ "'"

/-- The wording as it is shown. -/
def UsageError.message (e : UsageError) : String := Text.withoutSteering e.wording

end AppServiceOperator.CommandLine
