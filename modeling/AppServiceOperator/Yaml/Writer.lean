import AppServiceOperator.Json.Printer
import AppServiceOperator.Yaml.Scalar
/-!
# Writing YAML

Block style, two columns for each level; the items of an array stand in the column of their key. A
text is written without quotes where it reads back as itself, otherwise in single quotes; a text of
several lines is written as they are below a bar, and one that holds anything unprintable in
double quotes.
-/
namespace AppServiceOperator.Yaml

/-- Whether a colon with a blank behind it, or a number sign with a blank before it, would cut the
text short. -/
def isCut : List Char → Bool
  | [] => false
  | ':' :: cs => isBlankOrEnd cs || isCut cs
  | ' ' :: '#' :: _ => true
  | _ :: cs => isCut cs

/-- Whether a plain scalar can begin like this. -/
def startsPlain : List Char → Bool
  | [] => false
  | c :: cs =>
    if c = '-' ∨ c = '?' ∨ c = ':' then !isBlankOrEnd cs
    else !isIndicator c && c ≠ ' '

def isPlainText (s : String) : Bool :=
  let cs := s.toList
  startsPlain cs && cs.getLast? ≠ some ' ' && !isCut cs && isSelfEvident s &&
    !(s.startsWith "---" || s.startsWith "...")

def isPrintable (c : Char) : Bool := c = '\n' || 0x20 ≤ c.toNat && c.toNat ≠ 0x7F

/-- Whether the lines of a text can be written as they are. -/
def isLiteralText (s : String) : Bool :=
  s.toList.head? ≠ some ' ' && s.toList.head? ≠ some '\n' &&
    ((s.splitOn "\n").all fun l => !l.endsWith " ")

/-- The bar, with what is to be made of the line ends at the end of the text. -/
def bar (s : String) : String :=
  if s.endsWith "\n\n" then "|+" else if s.endsWith "\n" then "|" else "|-"

def singleQuoted (s : String) : String :=
  String.ofList ('\'' :: (s.toList.flatMap fun c => if c = '\'' then ['\'', '\''] else [c]) ++ ['\''])

/-- The lines of a text, the first of them behind a key or a dash. -/
def textLines (s : String) : List String :=
  if !s.toList.all isPrintable then [Json.quoted s]
  else if s.contains '\n' then
    if isLiteralText s then
      bar s :: (if s.endsWith "\n" then (s.splitOn "\n").dropLast else s.splitOn "\n")
    else [Json.quoted s]
  else if isPlainText s then [s] else [singleQuoted s]

def indented (line : String) : String := if line = "" then "" else "  " ++ line

/-- Put something before the first line and indent the others. -/
def headed (lead : String) : List String → List String
  | [] => []
  | line :: lines => (lead ++ line) :: lines.map indented

/-- A key as one line. -/
def keyText (k : String) : String :=
  if k.contains '\n' then Json.quoted k else "".intercalate (textLines k)

mutual
/-- The lines of a value. -/
def lines : Json → List String
  | .null => ["null"]
  | .bool b => [toString b]
  | .int n => [toString n]
  | .double d => [d.jsonText]
  | .str s => textLines s
  | .arr [] => ["[]"]
  | .arr items => itemLines items
  | .obj [] => ["\x7b\x7d"]
  | .obj members => memberLines members

def itemLines : List Json → List String
  | [] => []
  | item :: items => headed "- " (lines item) ++ itemLines items

def memberLines : List (String × Json) → List String
  | [] => []
  | (k, v) :: members =>
    let entry := match v with
      | .arr (_ :: _) => (keyText k ++ ":") :: lines v
      | .obj (_ :: _) => (keyText k ++ ":") :: (lines v).map indented
      | _ => headed (keyText k ++ ": ") (lines v)
    entry ++ memberLines members
end

/-- The text of a value. -/
def write (j : Json) : String := String.join ((lines j).map (· ++ "\n"))

end AppServiceOperator.Yaml
