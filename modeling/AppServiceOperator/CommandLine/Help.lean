import AppServiceOperator.CommandLine.Command
/-!
# Help texts

What `-h` and `--help` print. The long form gives each flag a paragraph of its own, with the
variable, the default and the choices below each other; the short form has them on one line. Where
a text would not fit beside the flags in a hundred columns, all texts stand below their flags.
-/
namespace AppServiceOperator.CommandLine

/-- One value to choose from, with what it means. -/
structure Choice where
  value : String
  meaning : Option String := none

namespace Setting

def description : Setting → String
  | .ns => "Only watch this namespace (all namespaces when empty)"
  | .scriptsDirectory => "Directory containing `db/<script>`"
  | .execTimeout => "Upper bound for the migration exec"
  | .migrationRequeue => "Delay before re-checking a database that is not ready yet"
  | .concurrency => "Maximum number of AppServices reconciled in parallel"
  | .logFormat => "Log output format"
  | .installDefinition => "Apply the AppService CRD with server-side apply on startup"
  | .kubeconfig => "Path to a kubeconfig; in-cluster or default config otherwise"

def choices : Setting → List Choice
  | .logFormat =>
    [⟨"text", some "Human readable lines"⟩, ⟨"json", some "One JSON object per line"⟩]
  | .installDefinition => [⟨"true", none⟩, ⟨"false", none⟩]
  | _ => []

end Setting

namespace Flag

/-- The choices that the long help explains. -/
def explained : Flag → List Choice
  | .setting s => if s.choices.any (·.meaning.isSome) then s.choices else []
  | _ => []

/-- Notes in brackets: the variable with its value, the default, the choices that are not
explained. -/
def notes (long : Bool) (env : String → Option String) : Flag → List String
  | .setting s =>
    let source := s.variableName.map fun v => "[env: " ++ v ++ "=" ++ (env v).getD "" ++ "]"
    let default := (s.text? {}).map fun t => "[default: " ++ (if t = "" then "\"\"" else t) ++ "]"
    let listed := !s.choices.isEmpty && (!long || (explained (.setting s)).isEmpty)
    let choices := if listed then
      some ("[possible values: " ++ ", ".intercalate (s.choices.map (·.value)) ++ "]") else none
    [source, default, choices].filterMap id
  | _ => []

/-- The flag as the first column of the help shows it. -/
def shown (f : Flag) : String :=
  (match f.letter? with
    | some c => String.ofList ['-', c, ',', ' ']
    | none => "    ") ++ f.label

end Flag

namespace Command

def about : Command → String
  | .operator =>
    "Kubernetes operator that converges the Gramola application topology from an AppService resource"
  | .run => "Run the AppService controller (default mode)"
  | .help => "Print this message or the help of the given subcommand(s)"
  | .settings => "Settings for the controller process"

def usage : Command → String
  | .operator => program ++ " [OPTIONS] [COMMAND]"
  | .settings => program ++ " [OPTIONS]"
  | .run => program ++ " run"
  | .help => program ++ " help [COMMAND]..."

/-- Whether the long help says more than the short one. -/
def hasLongHelp (c : Command) : Bool := c.flags.any fun f => !f.explained.isEmpty

def description (c : Command) (long : Bool) : Flag → String
  | .definition => "Print the AppService CRD manifest and exit"
  | .setting s => s.description
  | .version => "Print version"
  | .help =>
    if !c.hasLongHelp then "Print help"
    else if long then "Print help (see a summary with '-h')"
    else "Print help (see more with '--help')"

def spaces (n : Nat) : String := String.ofList (List.replicate n ' ')

/-- The columns of a screen. -/
def screenWidth : Nat := 100

/-- The indentation of a text below its flag. -/
def textIndent : String := spaces 10

/-- The text beside or below a flag in the short help. -/
def shortText (c : Command) (env : String → Option String) (f : Flag) : String :=
  " ".intercalate (c.description false f :: f.notes false env)

/-- The width of the column of flags. -/
def flagWidth (c : Command) : Nat := (c.flags.map (·.shown.length)).foldl max 0

/-- Whether the short help has its texts below the flags: some text does not fit beside them, and
the flags take more than two fifths of the screen. -/
def isStacked (c : Command) (env : String → Option String) : Bool :=
  let taken := c.flagWidth + 4
  40 < taken && taken ≤ screenWidth &&
    c.flags.any fun f => screenWidth - taken < (c.shortText env f).length

def shortLine (c : Command) (env : String → Option String) (f : Flag) : String :=
  let gap := if c.isStacked env then "\n" ++ textIndent
    else spaces (c.flagWidth + 2 - f.shown.length)
  "  " ++ f.shown ++ gap ++ c.shortText env f ++ "\n"

/-- The explained choices of the long help. -/
def choiceLines (f : Flag) : String :=
  if f.explained.isEmpty then "" else
    "\n\n" ++ textIndent ++ "Possible values:" ++
      String.join (f.explained.map fun choice =>
        "\n" ++ textIndent ++ "- " ++ choice.value ++ (choice.meaning.elim "" (": " ++ ·)))

def longParagraph (c : Command) (env : String → Option String) (f : Flag) : String :=
  let notes := f.notes true env
  "  " ++ f.shown ++ "\n" ++ textIndent ++ c.description true f ++ choiceLines f ++
    (if notes.isEmpty then "" else
      "\n" ++ textIndent ++ "\n" ++ textIndent ++ ("\n" ++ textIndent).intercalate notes) ++ "\n"

/-- The lines of the subcommands, their texts in one column. -/
def commandLines (c : Command) : List String :=
  let width := (c.subcommands.map (·.word.length)).foldl max 0
  c.subcommands.map fun s =>
    "  " ++ s.word ++ spaces (width + 2 - s.word.length) ++ s.about ++ "\n"

/-- A part of the help under a heading, left out where it is empty. -/
def part (heading separator : String) (items : List String) : String :=
  if items.isEmpty then "" else "\n" ++ heading ++ ":\n" ++ separator.intercalate items

/-- The words that a command takes besides its flags. -/
def arguments : Command → List String
  | .help => ["  [COMMAND]...  Print help for the subcommand(s)\n"]
  | .operator | .run | .settings => []

/-- The help of a command, given the variables of the environment. -/
def helpText (c : Command) (env : String → Option String) (long : Bool) : String :=
  let options :=
    if long && c.hasLongHelp then part "Options" "\n" (c.flags.map (c.longParagraph env))
    else part "Options" "" (c.flags.map (c.shortLine env))
  c.about ++ "\n\nUsage: " ++ c.usage ++ "\n" ++ part "Commands" "" c.commandLines ++
    part "Arguments" "" c.arguments ++ options

end Command

end AppServiceOperator.CommandLine
