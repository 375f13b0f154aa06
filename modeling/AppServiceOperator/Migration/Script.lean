import AppServiceOperator.Desired.Groups
import AppServiceOperator.Text.Occurrence
import AppServiceOperator.Text.Utf8
/-!
# The migration script

The script is read from a file of the operator, and the name of the database user is put in where
the script asks for it. In the pod it is run from the place where the scripts are mounted.

| here | in the operator |
| --- | --- |
| `Script.fileName`, `Script.placeholder` | `SCRIPT_NAME`, `USERNAME_PLACEHOLDER` |
| `Script.ofFile`, `Script.path` | `MigrationScript::load` |
| `MigrationSettings.command` | `MigrationSettings::command` |
-/
namespace AppServiceOperator

/-- What reading a file yields. -/
inductive FileContent where
  | bytes (bs : List UInt8)
  | directory
  | missing
  deriving DecidableEq, Repr

namespace FileContent

/-- The text of a file, or why there is none. -/
def text : FileContent → Except String String
  | .missing => .error "No such file or directory (os error 2)"
  | .directory => .error "Is a directory (os error 21)"
  | .bytes bs =>
    match Text.Utf8.decode bs with
    | .ok s => .ok s
    | .error _ => .error "stream did not contain valid UTF-8"

end FileContent

namespace Script

/-- The file name of the script. -/
def fileName : String := "events-database-update-0.0.1.sql"

/-- Stands in a script for the database user. -/
def placeholder : String := "\x7b\x7bDB_USERNAME\x7d\x7d"

/-- The script of a text, with the user in place of every placeholder. -/
def ofText (text user : String) : Script := ⟨fileName, Text.replaced placeholder user text⟩

/-- The path of the script below a directory. -/
def path (directory : String) : String :=
  directory ++ (if directory.endsWith "/" then "" else "/") ++ "db/" ++ fileName

/-- The script of the file at a path. -/
def ofFile (path : String) (content : FileContent) (user : String) : Except OperatorError Script :=
  match content.text with
  | .ok text => .ok (ofText text user)
  | .error e => .error (.internal "migration" ("failed to read " ++ path ++ ": " ++ e))

end Script

/-- How the migration is run. -/
structure MigrationSettings where
  /-- The file name of the script in the pod. -/
  scriptName : String := Script.fileName
  /-- The command may take so many seconds. -/
  timeoutSeconds : Nat := 30
  deriving DecidableEq, Repr

/-- The command that runs the script in the database container. -/
def MigrationSettings.command (s : MigrationSettings) : List String :=
  ["/bin/bash", "-c",
   "psql -U $POSTGRESQL_USER $POSTGRESQL_DATABASE -f " ++ Desired.scriptsPath ++ "/" ++ s.scriptName]

end AppServiceOperator
