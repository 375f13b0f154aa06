import AppServiceOperator.CommandLine.Help
/-!
# Reading a command line

The words are read from the left. A value that follows its option as a word of its own is checked
only when the next option is met or the words end, so a word that cannot be understood is reported
before it. Variables of the environment come after all words and in the order of the settings; one
whose option was given is not looked at.
-/
namespace AppServiceOperator.CommandLine

/-- What a word looks like. -/
inductive Word where
  | long (name : String) (value : Option String)
  | short (letter : Char)
  | plain

def Word.ofString (word : String) : Word :=
  match word.toList with
  | '-' :: '-' :: cs =>
    let name := String.ofList (cs.takeWhile (· ≠ '='))
    match cs.dropWhile (· ≠ '=') with
    | _ :: value => .long name (some (String.ofList value))
    | [] => .long name none
  | '-' :: c :: _ => .short c
  | _ => .plain

/-- Why the reading of a command line ends before the program runs. -/
inductive Stop where
  | usage (e : UsageError)
  | help (text : String)
  | version
  deriving DecidableEq, Repr

/-- What was read so far. -/
structure Reading where
  given : List Flag := []
  settings : Settings := {}
  /-- An option whose value is not checked yet, or not even met. -/
  pending : Option (Setting × Option String) := none

namespace Reading

/-- Note a flag, which must not have been given before. -/
def note (r : Reading) (f : Flag) : Except Stop Reading :=
  if f ∈ r.given then .error (.usage (.repeated f.label)) else .ok { r with given := f :: r.given }

/-- Check and take a value. -/
def take (r : Reading) (s : Setting) (value : String) : Except Stop Reading := do
  let r ← r.note (.setting s)
  let settings ← (s.assign value r.settings).mapError .usage
  return { r with settings }

/-- Check and take the pending value. -/
def settle (r : Reading) : Except Stop Reading :=
  match r.pending with
  | none => .ok r
  | some (s, none) => .error (.usage (.missingValue s.label))
  | some (s, some value) => { r with pending := none }.take s value

/-- The option whose value is still to come. -/
def awaiting? (r : Reading) : Option Setting :=
  match r.pending with
  | some (s, none) => some s
  | _ => none

/-- A flag that was met without a value. -/
def meet (c : Command) (env : String → Option String) (long : Bool) (r : Reading) (f : Flag) :
    Except Stop Reading := do
  let r ← r.settle
  match f with
  | .definition => r.note .definition
  | .setting s => return { r with pending := some (s, none) }
  | .help => .error (.help (c.helpText env long))
  | .version => .error .version

/-- A flag that was met with a value attached. -/
def meetWith (r : Reading) (f : Flag) (value : String) : Except Stop Reading :=
  match f with
  | .setting s => do (← r.settle).take s value
  | f => .error (.usage (.excessValue f.label value))

/-- Read one word that neither calls a subcommand nor ends the flags. -/
def step (c : Command) (env : String → Option String) (word : String) (r : Reading) :
    Except Stop Reading :=
  match Word.ofString word with
  | .long name none =>
    match c.flag? name with
    | some f => r.meet c env true f
    | none => .error (.usage (.unexpectedArgument ("--" ++ name)))
  | .long name (some value) =>
    match c.flag? name with
    | some f => r.meetWith f value
    | none => .error (.usage (.unexpectedArgument ("--" ++ name)))
  | .short letter =>
    match c.letterFlag? letter with
    | some f => r.meet c env false f
    | none => .error (.usage (.unexpectedArgument (String.ofList ['-', letter])))
  | .plain =>
    match r.awaiting? with
    | some s => .ok { r with pending := some (s, some word) }
    | none => .error (.usage (c.refusal word))

/-- The subcommand that a word calls; a word that an option waits for calls none. -/
def called? (c : Command) (r : Reading) (word : String) : Option Command :=
  if r.awaiting?.isSome then none else c.subcommand? word

/-- The complaint about a word behind the two dashes that end the flags: no command takes one. -/
def complaint (c : Command) (word : String) : UsageError :=
  if (c.subcommand? word).isSome then .unexpectedArgument word else c.refusal word

/-- Read words up to the end or to a subcommand, which is given with the words behind it. -/
def run (c : Command) (env : String → Option String) :
    Reading → List String → Except Stop (Reading × Option (Command × List String))
  | r, [] => .ok (r, none)
  | r, word :: words =>
    match called? c r word with
    | some sub => .ok (r, some (sub, words))
    | none =>
      if word = "--" then
        match words with
        | [] => .ok (r, none)
        | next :: _ => .error (.usage (complaint c next))
      else
        match r.step c env word with
        | .error stop => .error stop
        | .ok r => run c env r words

/-- Take the variables of the settings that were not given. -/
def takeVariables (env : String → Option String) (r : Reading) : Except Stop Reading :=
  Setting.all.foldlM (fun r s =>
    if .setting s ∈ r.given then .ok r else
    match s.variableName.bind env with
    | some value => r.take s value
    | none => .ok r) r

end Reading

/-- The command that words behind `help` name. -/
def Command.named (c : Command) : List String → Except UsageError Command
  | [] => .ok c
  | word :: words =>
    match c.subcommand? word with
    | some sub => sub.named words
    | none => .error (.unknownCommand word)

/-- What a command line asks for. -/
structure Invocation where
  settings : Settings
  /-- Whether to print the definition of the resource and do nothing else. -/
  printsDefinition : Bool
  deriving DecidableEq, Repr

/-- Read the words behind a subcommand. -/
def readSubcommand (env : String → Option String) (words : List String) : Command → Except Stop Unit
  | .help =>
    match Command.operator.named words with
    | .ok c => .error (.help (c.helpText env true))
    | .error e => .error (.usage e)
  | c => do
    let (r, _) ← Reading.run c env {} words
    discard r.settle

/-- Read the words of a command, given the variables of the environment. -/
def Command.read (c : Command) (env : String → Option String) (words : List String) :
    Except Stop Invocation := do
  let (r, sub) ← Reading.run c env {} words
  match sub with
  | some (sub, words) => readSubcommand env words sub
  | none => pure ()
  let r ← r.settle
  let r ← r.takeVariables env
  return { settings := r.settings, printsDefinition := .definition ∈ r.given }

end AppServiceOperator.CommandLine
