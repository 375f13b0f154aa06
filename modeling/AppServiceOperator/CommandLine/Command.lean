import AppServiceOperator.CommandLine.Settings
/-!
# Commands and flags

The commands of the program and the flags that each of them knows. `operator` is the program
itself, `run` and `help` are its subcommands, and `settings` is the operator's own set of options
on their own.

| here | in the operator |
| --- | --- |
| `Command`, `Flag` | `Cli` and `Commands`, with the commands and flags that the option library adds |
-/
namespace AppServiceOperator.CommandLine

inductive Flag where
  /-- Print the definition of the resource. -/
  | definition
  | setting (s : Setting)
  | help
  | version
  deriving DecidableEq, Repr

namespace Flag

/-- The name behind the two dashes. -/
def name : Flag → String
  | .definition => "crd"
  | .setting s => s.name
  | .help => "help"
  | .version => "version"

/-- The letter behind a single dash. -/
def letter? : Flag → Option Char
  | .help => some 'h'
  | .version => some 'V'
  | .definition | .setting _ => none

/-- The flag with the place of its value. -/
def label : Flag → String
  | .setting s => s.label
  | f => "--" ++ f.name

end Flag

inductive Command where
  | operator | run | help | settings
  deriving DecidableEq, Repr

namespace Command

def program : String := "gramola-operator"

def versionText : String := program ++ " 0.1.0\n"

/-- The word that calls a subcommand. -/
def word : Command → String
  | .operator | .settings => program
  | .run => "run"
  | .help => "help"

def subcommands : Command → List Command
  | .operator => [.run, .help]
  | .run | .help | .settings => []

/-- The flags in the order in which the help lists them. -/
def flags : Command → List Flag
  | .operator => .definition :: Setting.all.map .setting ++ [.help, .version]
  | .settings => Setting.all.map .setting ++ [.help]
  | .run => [.help]
  | .help => []

def subcommand? (c : Command) (word : String) : Option Command :=
  c.subcommands.find? (·.word = word)

def flag? (c : Command) (name : String) : Option Flag := c.flags.find? (·.name = name)

def letterFlag? (c : Command) (letter : Char) : Option Flag :=
  c.flags.find? (·.letter? = some letter)

/-- A command that takes words but no such word complains of a command, if it has any. -/
def refusal (c : Command) (word : String) : UsageError :=
  if c.subcommands.isEmpty then .unexpectedArgument word else .unknownCommand word

end Command

end AppServiceOperator.CommandLine
