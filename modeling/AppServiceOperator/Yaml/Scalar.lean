import AppServiceOperator.Json.Reader
/-!
# Plain scalars

What a text without quotes stands for. Only a few words and numbers are something other than a
text: the null, the truth values, whole numbers to the bases ten, sixteen, eight and two, and
decimal fractions. Digits behind a leading zero are a text.
-/
namespace AppServiceOperator.Yaml

/-- The characters that cannot begin a plain scalar. -/
def isIndicator (c : Char) : Bool :=
  [',', '[', ']', '\x7b', '\x7d', '#', '&', '*', '!', '|', '>', '\'', '"', '%', '@', '\x60'].contains c

/-- Whether a token that needs a blank behind it ends here. -/
def isBlankOrEnd : List Char → Bool
  | [] => true
  | c :: _ => c = ' ' || c = '\t' || c = '\n'

def isNullWord (s : String) : Bool := s = "" || s = "~" || s = "null" || s = "Null" || s = "NULL"

def truth? (s : String) : Option Bool :=
  if s = "true" ∨ s = "True" ∨ s = "TRUE" then some true
  else if s = "false" ∨ s = "False" ∨ s = "FALSE" then some false
  else none

/-- Take off an optional sign; true for a minus. -/
def splitSign : List Char → Bool × List Char
  | '-' :: cs => (true, cs)
  | '+' :: cs => (false, cs)
  | cs => (false, cs)

/-- The digits of a whole number without sign, with their base. -/
def splitBase : List Char → Nat × List Char
  | '0' :: 'x' :: cs => (16, cs)
  | '0' :: 'o' :: cs => (8, cs)
  | '0' :: 'b' :: cs => (2, cs)
  | cs => (10, cs)

/-- The number of the digits, at least one, to a base. -/
def digitsValue? (base : Nat) (ds : List Char) : Option Nat :=
  if ds = [] then none else
    ds.foldlM (fun n c => do
      let d ← Json.hexDigit? c
      if d < base then some (n * base + d) else none) 0

/-- Digits behind a leading zero, which are no number. -/
def isPadded (cs : List Char) : Bool :=
  match (splitSign cs).2 with
  | '0' :: c :: cs => (c :: cs).all Char.isDigit
  | _ => false

/-- A whole number of 64 bits, with or without sign. -/
def whole? (cs : List Char) : Option Int :=
  let (negative, rest) := splitSign cs
  let (base, digits) := splitBase rest
  if isPadded cs then none else do
    let n ← digitsValue? base digits
    if negative then if n ≤ 0x8000000000000000 then some (-n) else none
    else if n < 0x10000000000000000 then some n else none

/-- The power of ten behind an exponent mark; zero where there is none. -/
def power? : List Char → Option Int
  | [] => some 0
  | c :: cs =>
    if c = 'e' ∨ c = 'E' then
      let (negative, digits) := splitSign cs
      (digitsValue? 10 digits).map fun n => if negative then -n else n
    else none

/-- The double nearest to `digits · 10 ^ power`; none where it is too large. A power far outside the
range of doubles is not computed. -/
def double? (negative : Bool) (digits : List Char) (power : Int) : Option Binary64 := do
  let n ← digitsValue? 10 digits
  if n = 0 ∨ power + digits.length < -400 then return .zero negative
  if 400 < power then none else
  let d := if 0 ≤ power then Binary64.ofRatio negative (n * Nat.pow 10 power.toNat) 1
    else Binary64.ofRatio negative n (Nat.pow 10 power.natAbs)
  if d.isFinite then some d else none

/-- A decimal fraction with an optional point and an optional exponent. -/
def fraction? (cs : List Char) : Option Binary64 := do
  let (negative, rest) := splitSign cs
  let (front, rest) := rest.span Char.isDigit
  let (back, rest) := match rest with
    | '.' :: rest => rest.span Char.isDigit
    | rest => ([], rest)
  let power ← power? rest
  if isPadded cs then none else double? negative (front ++ back) (power - back.length)

/-- Words for numbers that are not finite. -/
def isUnboundedWord (s : String) : Bool :=
  [".inf", ".Inf", ".INF", "+.inf", "+.Inf", "+.INF", "-.inf", "-.Inf", "-.INF",
    ".nan", ".NaN", ".NAN"].contains s

/-- What a text without quotes stands for. -/
def resolve (s : String) : Json :=
  if isNullWord s then .null else
  match truth? s with
  | some b => .bool b
  | none =>
    match whole? s.toList with
    | some n => .int n
    | none =>
      match fraction? s.toList with
      | some d => .double d
      | none => if isUnboundedWord s then .double ⟨UInt64.ofNat Binary64.infinityBits⟩ else .str s

/-- Whether a text stands for itself when it is written without quotes. -/
def isSelfEvident (s : String) : Bool :=
  match resolve s with
  | .str _ => !isPadded s.toList
  | _ => false

end AppServiceOperator.Yaml
