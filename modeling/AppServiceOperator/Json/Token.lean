import AppServiceOperator.Json.Basic
/-!
# The tokens of JSON text

The scanner goes over the text character by character with a small state, so it ends on every
text. String tokens carry the text they denote, escapes resolved; a run of characters outside a
string that is neither blank nor a bracket, comma or colon is one word.
-/
namespace AppServiceOperator.Json

inductive Token where
  | openObj | closeObj | openArr | closeArr | comma | colon
  | text (s : String)
  | word (w : List Char)
  deriving DecidableEq, Repr

/-- Where the scanner stands. The fields keep what was read of the current token: the last
characters of a word first, and the text of a string so far. -/
inductive Scan where
  | blank
  | word (read : List Char)
  | text (read : String)
  | escape (read : String)
  /-- Inside a `\u` escape with `left` digits to come and the value of the digits so far; `high`
  is a first surrogate that waits for its second. -/
  | unit (read : String) (high : Option Nat) (left value : Nat)
  /-- After a first surrogate, before the backslash of its second. -/
  | second (read : String) (high : Nat)
  /-- After that backslash. -/
  | secondEscape (read : String) (high : Nat)

def isBlank (c : Char) : Bool := c = ' ' || c = '\n' || c = '\t' || c = '\r'

def isWordChar (c : Char) : Bool := c.isAlphanum || c = '-' || c = '+' || c = '.'

def mark? : Char → Option Token
  | '\x7b' => some .openObj
  | '\x7d' => some .closeObj
  | '[' => some .openArr
  | ']' => some .closeArr
  | ',' => some .comma
  | ':' => some .colon
  | _ => none

def hexDigit? (c : Char) : Option Nat :=
  if '0' ≤ c ∧ c ≤ '9' then some (c.toNat - 48)
  else if 'a' ≤ c ∧ c ≤ 'f' then some (c.toNat - 87)
  else if 'A' ≤ c ∧ c ≤ 'F' then some (c.toNat - 55)
  else none

/-- The character of a one-letter escape. -/
def escaped? : Char → Option Char
  | '"' => some '"'
  | '\\' => some '\\'
  | '/' => some '/'
  | 'b' => some '\x08'
  | 'f' => some '\x0c'
  | 'n' => some '\n'
  | 'r' => some '\r'
  | 't' => some '\t'
  | _ => none

/-- What a complete `\u` escape leads to: a character, or a wait for a second surrogate. A second
surrogate on its own, or a first one without its second, is refused. -/
def Scan.ofUnit (read : String) (high : Option Nat) (value : Nat) : Option Scan :=
  match high with
  | none =>
    if 0xD800 ≤ value ∧ value < 0xDC00 then some (.second read value)
    else if 0xDC00 ≤ value ∧ value < 0xE000 then none
    else some (.text (read.push (Char.ofNat value)))
  | some h =>
    if 0xDC00 ≤ value ∧ value < 0xE000 then
      some (.text (read.push (Char.ofNat (0x10000 + (h - 0xD800) * 0x400 + (value - 0xDC00)))))
    else none

/-- One character outside strings and words. -/
def Scan.fromBlank (c : Char) (done : List Token) : Option (Scan × List Token) :=
  if isBlank c then some (.blank, done)
  else if c = '"' then some (.text "", done)
  else if isWordChar c then some (.word [c], done)
  else (mark? c).map fun t => (.blank, t :: done)

/-- One character; `done` holds the finished tokens, the last one first. -/
def Scan.step (done : List Token) (c : Char) : Scan → Option (Scan × List Token)
  | .blank => fromBlank c done
  | .word read =>
    if isWordChar c then some (.word (c :: read), done)
    else fromBlank c (.word read.reverse :: done)
  | .text read =>
    if c = '"' then some (.blank, .text read :: done)
    else if c = '\\' then some (.escape read, done)
    else if c.toNat < 0x20 then none
    else some (.text (read.push c), done)
  | .escape read =>
    if c = 'u' then some (.unit read none 4 0, done)
    else (escaped? c).map fun e => (.text (read.push e), done)
  | .unit read high left value => do
    let d ← hexDigit? c
    if left ≤ 1 then return (← Scan.ofUnit read high (value * 16 + d), done)
    else return (.unit read high (left - 1) (value * 16 + d), done)
  | .second read high => if c = '\\' then some (.secondEscape read high, done) else none
  | .secondEscape read high => if c = 'u' then some (.unit read (some high) 4 0, done) else none

def Scan.run : List Char → Scan → List Token → Option (List Token)
  | [], .blank, done => some done.reverse
  | [], .word read, done => some (.word read.reverse :: done).reverse
  | [], _, _ => none
  | c :: cs, s, done =>
    match s.step done c with
    | none => none
    | some (s, done) => run cs s done

/-- The tokens of a text; none where it cannot be JSON. -/
def tokens? (text : String) : Option (List Token) := Scan.run text.toList .blank []

end AppServiceOperator.Json
