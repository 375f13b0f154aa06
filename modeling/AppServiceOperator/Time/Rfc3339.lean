import AppServiceOperator.Time.Instant
import AppServiceOperator.Text.Blank
/-!
# Timestamps in text

Instants are written as RFC 3339 timestamps in UTC, with the fewest of 0, 3, 6 or 9 fraction
digits that are exact. Reading is relaxed: numbers need no zero padding, white space may stand
around them, the offset may also be `UTC`, and its parts may be separated by colons and blanks in
any number. Years outside 0 to 9999 have a sign.
-/
namespace AppServiceOperator.Timestamp

/-! ## Writing -/

def padded (width n : Nat) : String :=
  let digits := toString n
  String.ofList (List.replicate (width - digits.length) '0') ++ digits

def yearText (y : Int) : String :=
  if 0 ≤ y ∧ y ≤ 9999 then padded 4 y.toNat
  else (if y < 0 then "-" else "+") ++ padded 4 y.natAbs

def fractionText (nanos : Nat) : String :=
  if nanos = 0 then ""
  else if nanos % 1000000 = 0 then "." ++ padded 3 (nanos / 1000000)
  else if nanos % 1000 = 0 then "." ++ padded 6 (nanos / 1000)
  else "." ++ padded 9 nanos

/-- The timestamp of an instant; inside a leap second the seconds read 60. -/
def write (t : Instant) : String :=
  let day := CalendarDay.ofNumber (t.seconds.fdiv 86400)
  let second := (t.seconds - t.seconds.fdiv 86400 * 86400).toNat
  yearText day.year ++ "-" ++ padded 2 day.month ++ "-" ++ padded 2 day.day ++ "T" ++
    padded 2 (second / 3600) ++ ":" ++ padded 2 (second / 60 % 60) ++ ":" ++
    padded 2 (second % 60 + t.nanos / 1000000000) ++ fractionText (t.nanos % 1000000000) ++ "Z"

/-! ## Reading

Each reader answers what it read and the characters that follow. -/

def digitsValue (ds : List Char) : Nat := ds.foldl (fun n c => n * 10 + (c.toNat - 48)) 0

/-- Up to `most` digits at the front, at least one. -/
def digits (most : Nat) (cs : List Char) : Option (List Char × List Char) :=
  match (cs.take most).takeWhile Char.isDigit with
  | [] => none
  | ds => some (ds, cs.drop ds.length)

/-- A number after white space. -/
def number (most : Nat) (cs : List Char) : Option (Nat × List Char) :=
  (digits most (Text.dropBlanks cs)).map fun (ds, cs) => (digitsValue ds, cs)

def expect (c : Char) : List Char → Option (List Char)
  | d :: cs => if d = c then some cs else none
  | [] => none

/-- A year of at most four digits, or of any number of digits after a sign. -/
def year (cs : List Char) : Option (Int × List Char) :=
  match Text.dropBlanks cs with
  | '-' :: cs => (digits cs.length cs).map fun (ds, cs) => (-(digitsValue ds : Int), cs)
  | '+' :: cs => (digits cs.length cs).map fun (ds, cs) => ((digitsValue ds : Int), cs)
  | cs => (digits 4 cs).map fun (ds, cs) => ((digitsValue ds : Int), cs)

def date (cs : List Char) : Option (CalendarDay × List Char) := do
  let (y, cs) ← year cs
  let cs ← expect '-' (Text.dropBlanks cs)
  let (m, cs) ← number 2 cs
  let cs ← expect '-' (Text.dropBlanks cs)
  let (d, cs) ← number 2 cs
  let day : CalendarDay := ⟨y, m, d⟩
  if day.isValid then some (day, cs) else none

def separator : List Char → Option (List Char)
  | c :: cs => if c = 'T' ∨ c = 't' ∨ c = ' ' then some cs else none
  | [] => none

/-- The nanoseconds of a fraction; digits past the ninth are dropped. -/
def fraction : List Char → Option (Nat × List Char)
  | '.' :: cs => do
    let (ds, cs) ← digits 9 cs
    some (digitsValue ds * Nat.pow 10 (9 - ds.length), cs.dropWhile Char.isDigit)
  | cs => some (0, cs)

/-- Seconds of the day and nanoseconds. -/
def timeOfDay (cs : List Char) : Option ((Nat × Nat) × List Char) := do
  let (h, cs) ← number 2 cs
  let cs ← expect ':' (Text.dropBlanks cs)
  let (m, cs) ← number 2 cs
  let cs ← expect ':' (Text.dropBlanks cs)
  let (s, cs) ← number 2 cs
  let (nanos, cs) ← fraction cs
  if h < 24 ∧ m < 60 ∧ s ≤ 60 then
    if s = 60 then some ((h * 3600 + m * 60 + 59, nanos + 1000000000), cs)
    else some ((h * 3600 + m * 60 + s, nanos), cs)
  else none

def twoDigits : List Char → Option (Nat × List Char)
  | a :: b :: cs => if a.isDigit ∧ b.isDigit then some (digitsValue [a, b], cs) else none
  | _ => none

/-- Seconds east of UTC. -/
def offset (cs : List Char) : Option (Int × List Char) := do
  match cs with
  | c₁ :: rest =>
    if c₁ = 'Z' ∨ c₁ = 'z' then return (0, rest)
    if (cs.take 3).map Char.toLower = ['u', 't', 'c'] then return (0, cs.drop 3)
    let sign : Int ← if c₁ = '+' then some 1 else if c₁ = '-' ∨ c₁ = '\u2212' then some (-1) else none
    let (h, cs) ← twoDigits rest
    let (m, cs) ← twoDigits (cs.dropWhile fun c => c = ':' || Text.isBlank c)
    if h < 24 ∧ m < 60 then return (sign * (h * 3600 + m * 60), cs) else none
  | [] => none

/-- The years of the calendar that instants may lie in. -/
def isKnownYear (y : Int) : Bool := -262143 ≤ y && y ≤ 262142

/-- The instant of a timestamp. -/
def read? (s : String) : Option Instant := do
  let (day, cs) ← date s.toList
  let cs ← separator cs
  let ((second, nanos), cs) ← timeOfDay cs
  let (east, cs) ← offset (Text.dropBlanks cs)
  if ¬ (Text.dropBlanks cs).isEmpty ∨ ¬ isKnownYear day.year then none else
  let seconds := day.number * 86400 + second - east
  if isKnownYear (CalendarDay.ofNumber (seconds.fdiv 86400)).year then some ⟨seconds, nanos⟩ else none

end AppServiceOperator.Timestamp
