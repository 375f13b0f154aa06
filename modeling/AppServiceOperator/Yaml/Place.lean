import AppServiceOperator.Yaml.Scalar
/-!
# Places in a YAML text

A place is what is left of a text, with the column it stands in. Between tokens, blanks, comments
and line ends are skipped; a tab is none of them where it would indent a line. The scalars are read
from a place: plain ones, those in quotes, and blocks of lines behind a bar or an angle.
-/
namespace AppServiceOperator.Yaml

structure Place where
  rest : List Char
  column : Nat
  /-- Whether only spaces and the dashes of entries stand before the place on its line. -/
  opens : Bool

/-- Whether the line that begins here separates documents. -/
def isMarkerLine : List Char → Bool
  | '-' :: '-' :: '-' :: cs => isBlankOrEnd cs
  | '.' :: '.' :: '.' :: cs => isBlankOrEnd cs
  | _ => false

namespace Place

def isMarker (p : Place) : Bool := p.column = 0 && isMarkerLine p.rest

def startsEntry (p : Place) : Bool :=
  match p.rest with
  | '-' :: cs => isBlankOrEnd cs
  | _ => false

/-- Whether a colon stands here that ends a key. -/
def endsKey (p : Place) : Bool :=
  match p.rest with
  | ':' :: cs => isBlankOrEnd cs
  | _ => false

/-- Whether nothing is left of what is indented by at least `least` columns. -/
def isOver (p : Place) (least : Nat) : Bool :=
  p.rest.isEmpty || p.isMarker || (p.opens && p.column < least)

/-- The next token behind blanks, comments and line ends. -/
def skipFrom (flow comment : Bool) (column : Nat) (opens : Bool) : List Char → Option Place
  | [] => some ⟨[], column, opens⟩
  | c :: cs =>
    if c = '\n' then skipFrom flow false 0 true cs
    else if comment then skipFrom flow true (column + 1) opens cs
    else if c = ' ' then skipFrom flow false (column + 1) opens cs
    else if c = '\t' then
      if flow || !opens then skipFrom flow false (column + 1) opens cs else none
    else if c = '#' then skipFrom flow true (column + 1) opens cs
    else some ⟨c :: cs, column, opens⟩

def skip (p : Place) (flow : Bool) : Option Place := skipFrom flow false p.column p.opens p.rest

/-- The place behind `n` characters of the line. -/
def behind (p : Place) (n : Nat) (opens : Bool) : Place := ⟨p.rest.drop n, p.column + n, opens⟩

/-- The place behind the blanks of the line. -/
def skipInline (p : Place) : Place :=
  let blanks := p.rest.takeWhile fun c => c = ' ' || c = '\t'
  p.behind blanks.length p.opens

end Place

/-- A scalar or a flow collection that was read, with the place behind it. -/
structure Atom where
  value : Json
  place : Place
  /-- Whether it begins and ends on one line, as a key must. -/
  oneLine : Bool

/-! ## Lines in scalars -/

/-- What was read of a scalar: its characters, the last one first, and what has not been joined to
them yet: blanks, and line ends with the blanks around them left out. -/
structure Read where
  text : List Char := []
  blanks : List Char := []
  breaks : Nat := 0
  oneLine : Bool := true

namespace Read

/-- The text with what waits: a single line end is a space, and one of several is left out. -/
def joined (r : Read) : List Char :=
  match r.breaks with
  | 0 => r.blanks ++ r.text
  | 1 => ' ' :: r.text
  | n + 2 => List.replicate (n + 1) '\n' ++ r.text

def push (r : Read) (c : Char) : Read :=
  { text := c :: r.joined, oneLine := r.oneLine && r.breaks = 0 }

def blank (r : Read) (c : Char) : Read :=
  if r.breaks = 0 then { r with blanks := c :: r.blanks } else r

def lineEnd (r : Read) : Read := { r with blanks := [], breaks := r.breaks + 1 }

end Read

/-! ## Plain scalars -/

def isFlowMark (c : Char) : Bool := [',', '[', ']', '\x7b', '\x7d'].contains c

/-- Whether a plain scalar can begin with these characters. -/
def startsScalar (flow : Bool) : List Char → Bool
  | [] => false
  | c :: cs =>
    if c = '-' ∨ c = '?' ∨ c = ':' then
      !isBlankOrEnd cs && !(flow && cs.head?.any isFlowMark)
    else !isIndicator c

/-- Read a plain scalar, whose lines in a block are indented by at least `least` columns. -/
def plainFrom (flow : Bool) (least column : Nat) (r : Read) : List Char → Option (Read × Place)
  | [] => some (r, ⟨[], column, 0 < r.breaks⟩)
  | c :: cs =>
    let here := some (r, ⟨c :: cs, column, 0 < r.breaks⟩)
    if c = '\n' then plainFrom flow least 0 r.lineEnd cs
    else if c = ' ' ∨ c = '\t' then
      if c = '\t' ∧ 0 < r.breaks ∧ column < least then none
      else plainFrom flow least (column + 1) (r.blank c) cs
    else if column = 0 ∧ isMarkerLine (c :: cs) then here
    else if 0 < r.breaks ∧ !flow ∧ column < least then here
    else if c = '#' ∧ (r.blanks ≠ [] ∨ 0 < r.breaks) then here
    else if c = ':' ∧ isBlankOrEnd cs then here
    else if c = ':' ∧ flow ∧ cs.head?.any isFlowMark then none
    else if flow ∧ isFlowMark c then here
    else plainFrom flow least (column + 1) (r.push c) cs

def plain? (flow : Bool) (least : Nat) (p : Place) : Option Atom :=
  if startsScalar flow p.rest then
    (plainFrom flow least p.column {} p.rest).map fun (r, q) =>
      ⟨resolve (String.ofList r.text.reverse), q, r.oneLine && r.breaks = 0⟩
  else none

/-! ## Scalars in quotes -/

/-- The character of a letter behind a backslash. -/
def escaped? : Char → Option Char
  | '0' => some '\x00' | 'a' => some '\x07' | 'b' => some '\x08' | 't' => some '\t'
  | '\t' => some '\t' | 'n' => some '\n' | 'v' => some '\x0b' | 'f' => some '\x0c'
  | 'r' => some '\r' | 'e' => some '\x1b' | ' ' => some ' ' | '"' => some '"' | '/' => some '/'
  | '\\' => some '\\' | 'N' => some '\u0085' | '_' => some '\u00a0' | 'L' => some '\u2028'
  | 'P' => some '\u2029' | _ => none

/-- The number of hexadecimal digits behind such a letter. -/
def codeLength? : Char → Option Nat
  | 'x' => some 2
  | 'u' => some 4
  | 'U' => some 8
  | _ => none

/-- The character of a code point. -/
def codePoint? (n : Nat) : Option Char :=
  if n < 0xD800 ∨ (0xDFFF < n ∧ n ≤ 0x10FFFF) then some (Char.ofNat n) else none

/-- Where the reading of a scalar in double quotes stands. -/
inductive Escape where
  | none
  | letter
  /-- So many digits of a code point are to come behind those with this value. -/
  | code (left value : Nat)
  /-- Behind a line end that is left out, before the next character that is no blank. -/
  | continued

def singleFrom (column : Nat) (r : Read) : List Char → Option (Read × Place)
  | [] => none
  | '\'' :: '\'' :: cs => singleFrom (column + 2) (r.push '\'') cs
  | c :: cs =>
    if c = '\'' then some ({ r with text := r.joined }, ⟨cs, column + 1, false⟩)
    else if c = '\n' then singleFrom 0 r.lineEnd cs
    else if c = ' ' ∨ c = '\t' then singleFrom (column + 1) (r.blank c) cs
    else singleFrom (column + 1) (r.push c) cs

def doubleFrom (column : Nat) (r : Read) (e : Escape) : List Char → Option (Read × Place)
  | [] => none
  | c :: cs =>
    match e with
    | .letter =>
      if c = '\n' then
        doubleFrom 0 { text := r.joined, oneLine := false } .continued cs
      else
        match escaped? c, codeLength? c with
        | some c, _ => doubleFrom (column + 1) (r.push c) .none cs
        | _, some n => doubleFrom (column + 1) r (.code n 0) cs
        | _, _ => none
    | .code left value =>
      match Json.hexDigit? c with
      | none => none
      | some d =>
        if left ≤ 1 then
          match codePoint? (value * 16 + d) with
          | some c => doubleFrom (column + 1) (r.push c) .none cs
          | none => none
        else doubleFrom (column + 1) r (.code (left - 1) (value * 16 + d)) cs
    | .continued =>
      if c = ' ' ∨ c = '\t' then doubleFrom (column + 1) r .continued cs
      else if c = '"' then some (r, ⟨cs, column + 1, false⟩)
      else if c = '\\' then doubleFrom (column + 1) r .letter cs
      else if c = '\n' then doubleFrom 0 { r with text := '\n' :: r.text } .continued cs
      else doubleFrom (column + 1) (r.push c) .none cs
    | .none =>
      if c = '"' then some ({ r with text := r.joined }, ⟨cs, column + 1, false⟩)
      else if c = '\\' then doubleFrom (column + 1) r .letter cs
      else if c = '\n' then doubleFrom 0 r.lineEnd .none cs
      else if c = ' ' ∨ c = '\t' then doubleFrom (column + 1) (r.blank c) .none cs
      else doubleFrom (column + 1) (r.push c) .none cs

/-- The text of a scalar in quotes, the opening quote already read. -/
def quotedAtom (read : Read × Place) : Atom :=
  ⟨.str (String.ofList read.1.text.reverse), read.2.skipInline, read.1.oneLine && read.1.breaks = 0⟩

/-! ## Blocks of lines -/

/-- What is done with the line ends at the end of a block. -/
inductive Chomping where
  | strip | clip | keep
  deriving DecidableEq

/-- What stands behind the bar or the angle: the indentation, where it is given, and the chomping;
none where something else stands there. -/
def blockHeader? : List Char → Option (Option Nat × Chomping)
  | [] => some (none, .clip)
  | c :: cs =>
    if c = '+' then (blockHeader? cs).map fun h => (h.1, .keep)
    else if c = '-' then (blockHeader? cs).map fun h => (h.1, .strip)
    else if '1' ≤ c ∧ c ≤ '9' then (blockHeader? cs).map fun h => (some (c.toNat - 48), h.2)
    else none

/-- The lines of a text. -/
def splitLines : List Char → List (List Char)
  | [] => [[]]
  | c :: cs =>
    match splitLines cs with
    | [] => [[c]]
    | line :: lines => if c = '\n' then [] :: line :: lines else (c :: line) :: lines

def isBlankLine (line : List Char) : Bool := line.all (· = ' ')

def indentation (line : List Char) : Nat := (line.takeWhile (· = ' ')).length

/-- The lines of a block and those behind it. -/
def splitBlock (indent : Nat) : List (List Char) → List (List Char) × List (List Char)
  | [] => ([], [])
  | line :: lines =>
    if isBlankLine line || indent ≤ indentation line then
      let (block, rest) := splitBlock indent lines
      (line.drop indent :: block, rest)
    else ([], line :: lines)

/-- Lines that were read of a block: the text, the last character first, a line end that has not
been joined, the number of empty lines behind it, and whether the last line began with a blank. -/
structure BlockRead where
  text : List Char := []
  lineEnd : Bool := false
  empty : Nat := 0
  afterBlank : Bool := false

/-- Join a line: where lines are folded, the end of one line before another is a space, unless a
line begins with a blank or is followed by empty ones. -/
def BlockRead.push (folded : Bool) (r : BlockRead) (line : List Char) : BlockRead :=
  if line.isEmpty then { r with empty := r.empty + 1 } else
  let blank := line.head?.any fun c => c = ' ' || c = '\t'
  let text :=
    if !r.lineEnd then r.text
    else if folded && !r.afterBlank && !blank then (if r.empty = 0 then ' ' :: r.text else r.text)
    else '\n' :: r.text
  ⟨line.reverse ++ (List.replicate r.empty '\n' ++ text), true, 0, blank⟩

/-- The text of the lines of a block. The last of them is what follows the last line end. -/
def blockText (folded : Bool) (chomping : Chomping) (lines : List (List Char)) : String :=
  let r := lines.foldl (BlockRead.push folded) {}
  let ended := if r.lineEnd && chomping ≠ .strip then '\n' :: r.text else r.text
  let kept := if chomping = .keep then List.replicate r.empty '\n' ++ ended else ended
  String.ofList kept.reverse

/-- Read a block of lines whose indentation is at least `least`; the place stands behind the bar or
the angle. -/
def block? (folded : Bool) (least : Nat) (p : Place) : Option Atom :=
  match splitLines p.rest with
  | [] => none
  | head :: lines => do
    let mark := head.takeWhile fun c => c ≠ ' ' && c ≠ '\t'
    let note := (head.drop mark.length).dropWhile fun c => c = ' ' || c = '\t'
    if note ≠ [] ∧ note.head? ≠ some '#' then none else
    let (indent, chomping) ← blockHeader? mark
    let first := (lines.find? (!isBlankLine ·)).elim 0 indentation
    let indent := indent.elim (max first (max least 1)) (· + (least - 1))
    let (body, rest) := splitBlock indent lines
    let body := if rest.isEmpty && body.getLast? = some [] then body.dropLast else body
    return ⟨.str (blockText folded chomping body), ⟨['\n'].intercalate rest, 0, true⟩, false⟩

end AppServiceOperator.Yaml
