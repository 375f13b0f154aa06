import AppServiceOperator.Json.Basic
import AppServiceOperator.Number.Shortest
/-!
# Writing JSON text

Compact text: no blanks, members in key order, and of the characters above the controls only the
quote and the backslash escaped.
-/
namespace AppServiceOperator.Json

def hexChar (n : Nat) : Char := if n < 10 then Char.ofNat (48 + n) else Char.ofNat (87 + n)

/-- A character inside a string. -/
def escapeChar (c : Char) : List Char :=
  match c with
  | '"' => ['\\', '"']
  | '\\' => ['\\', '\\']
  | '\x08' => ['\\', 'b']
  | '\x0c' => ['\\', 'f']
  | '\n' => ['\\', 'n']
  | '\r' => ['\\', 'r']
  | '\t' => ['\\', 't']
  | c =>
    if c.toNat < 0x20 then ['\\', 'u', '0', '0', hexChar (c.toNat / 16), hexChar (c.toNat % 16)]
    else [c]

def quoted (s : String) : String := String.ofList ('"' :: s.toList.flatMap escapeChar ++ ['"'])

mutual
/-- The text of a value, put behind `acc`. -/
def write (acc : String) : Json → String
  | .null => acc ++ "null"
  | .bool b => acc ++ (if b then "true" else "false")
  | .int n => acc ++ toString n
  | .double d => acc ++ d.jsonText
  | .str s => acc ++ quoted s
  | .arr items => (writeItems (acc.push '[') true items).push ']'
  | .obj members => (writeMembers (acc.push '\x7b') true members).push '\x7d'

def writeItems (acc : String) (first : Bool) : List Json → String
  | [] => acc
  | x :: xs => writeItems (write (if first then acc else acc.push ',') x) false xs

def writeMembers (acc : String) (first : Bool) : List (String × Json) → String
  | [] => acc
  | (k, v) :: ms =>
    let acc := (if first then acc else acc.push ',') ++ quoted k
    writeMembers (write (acc.push ':') v) false ms
end

/-- The compact text of a value. -/
def compact (j : Json) : String := j.write ""

end AppServiceOperator.Json
