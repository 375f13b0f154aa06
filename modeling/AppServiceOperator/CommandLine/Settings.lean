import AppServiceOperator.CommandLine.UsageError
import AppServiceOperator.Json.Record
import AppServiceOperator.Migration.Script
import AppServiceOperator.Number.Numeral
import AppServiceOperator.Text.Blank
/-!
# Settings of the controller

Every setting has an option on the command line and a default, and most have a variable of the
environment. `Setting.assign` reads a text into the settings and refuses one that the setting
cannot have.

| here | in the operator |
| --- | --- |
| `Settings`, `Setting` | `OperatorConfig`, and its fields as options |
| `Settings.watchedNamespace`, `Settings.migration` | `OperatorConfig::watch_namespace`, `OperatorConfig::migration_settings` |
-/
namespace AppServiceOperator.CommandLine

/-- How log lines are written. -/
inductive LogFormat where
  | text | json
  deriving DecidableEq, Repr

instance : Enumeration LogFormat where
  values := [.text, .json]
  spelling
    | .text => "text"
    | .json => "json"

structure Settings where
  /-- The namespace to watch, as it was given. -/
  ns : String := ""
  scriptsDirectory : String := "/"
  execTimeoutSeconds : UInt64 := 30
  migrationRequeueSeconds : UInt64 := 10
  concurrency : UInt16 := 4
  logFormat : LogFormat := .text
  installDefinition : Bool := true
  kubeconfig : Option String := none
  deriving DecidableEq, Repr

namespace Settings

/-- The namespace to watch; none for the whole cluster. -/
def watchedNamespace (s : Settings) : Option String :=
  let ns := Text.trim s.ns
  if ns = "" then none else some ns

def migration (s : Settings) : MigrationSettings := { timeoutSeconds := s.execTimeoutSeconds.toNat }

end Settings

inductive Setting where
  | ns | scriptsDirectory | execTimeout | migrationRequeue | concurrency | logFormat
  | installDefinition | kubeconfig
  deriving DecidableEq, Repr

namespace Setting

/-- All settings, in the order in which the help lists them. -/
def all : List Setting :=
  [.ns, .scriptsDirectory, .execTimeout, .migrationRequeue, .concurrency, .logFormat,
    .installDefinition, .kubeconfig]

/-- The name of the option. -/
def name : Setting → String
  | .ns => "namespace"
  | .scriptsDirectory => "scripts-dir"
  | .execTimeout => "exec-timeout-secs"
  | .migrationRequeue => "migration-requeue-secs"
  | .concurrency => "concurrency"
  | .logFormat => "log-format"
  | .installDefinition => "install-crd"
  | .kubeconfig => "kubeconfig"

/-- The variable that stands in for the option. -/
def variableName : Setting → Option String
  | .ns => some "WATCH_NAMESPACE"
  | .scriptsDirectory => some "DB_SCRIPTS_BASE_DIR"
  | .execTimeout => some "EXEC_TIMEOUT_SECS"
  | .migrationRequeue => some "MIGRATION_REQUEUE_SECS"
  | .concurrency => some "RECONCILE_CONCURRENCY"
  | .logFormat => some "LOG_FORMAT"
  | .installDefinition => some "INSTALL_CRD"
  | .kubeconfig => none

/-- The place of the value: the name in capitals with underscores. -/
def placeholder (s : Setting) : String :=
  String.ofList (s.name.toList.map fun c => if c = '-' then '_' else c.toUpper)

/-- The option with the place of its value. -/
def label (s : Setting) : String := "--" ++ s.name ++ " <" ++ s.placeholder ++ ">"

/-- A value that is read as a whole number. -/
def number {α : Type} (s : Setting) (value : String) (r : Except NumeralFault α) : Except UsageError α :=
  r.mapError fun fault => .invalidValue s.label value fault.message

/-- A path, which is never empty. -/
def path (s : Setting) (value : String) : Except UsageError String :=
  if value = "" then .error (.missingValue s.label) else .ok value

/-- One of the values to choose from. -/
def choice {α : Type} (s : Setting) (value : String) (chosen : Option α) : Except UsageError α :=
  match chosen with
  | some a => .ok a
  | none => .error (if value = "" then .missingValue s.label else .unknownChoice s.label value)

/-- A whole number of 16 bits. A number outside that range is named in the error. -/
def small (s : Setting) (value : String) : Except UsageError UInt16 := do
  let n ← s.number value (Numeral.integer value)
  if 0 ≤ n ∧ n < 0x10000 then return UInt16.ofNat n.toNat
  else throw (.invalidValue s.label value (toString n ++ " is not in 0..=65535"))

def truth? : String → Option Bool
  | "true" => some true
  | "false" => some false
  | _ => none

/-- The settings with the value of this one read from a text. -/
def assign (s : Setting) (value : String) (into : Settings) : Except UsageError Settings :=
  match s with
  | .ns => return { into with ns := value }
  | .scriptsDirectory => return { into with scriptsDirectory := ← s.path value }
  | .execTimeout => return { into with execTimeoutSeconds := ← s.number value (Numeral.word value) }
  | .migrationRequeue =>
    return { into with migrationRequeueSeconds := ← s.number value (Numeral.word value) }
  | .concurrency => return { into with concurrency := ← s.small value }
  | .logFormat => return { into with logFormat := ← s.choice value (Enumeration.ofSpelling? value) }
  | .installDefinition => return { into with installDefinition := ← s.choice value (truth? value) }
  | .kubeconfig => return { into with kubeconfig := ← s.path value }

/-- The value of this setting as a text that can be given for it. -/
def text? (s : Setting) (settings : Settings) : Option String :=
  match s with
  | .ns => some settings.ns
  | .scriptsDirectory => some settings.scriptsDirectory
  | .execTimeout => some (toString settings.execTimeoutSeconds)
  | .migrationRequeue => some (toString settings.migrationRequeueSeconds)
  | .concurrency => some (toString settings.concurrency)
  | .logFormat => some (Enumeration.spelling settings.logFormat)
  | .installDefinition => some (toString settings.installDefinition)
  | .kubeconfig => settings.kubeconfig

end Setting

end AppServiceOperator.CommandLine
