import AppServiceOperator.Json.Token
/-!
# Reading JSON text

`Json.ofTokens?` builds a value from tokens with a stack of the containers that are still open,
one token at a time. Containers may be nested 127 deep. Of two members with one key the later
wins. A number without point and exponent that fits 64 bits, signed or not, is a whole number;
any other is a double.
-/
namespace AppServiceOperator.Json

/-! ## Numbers -/

/-- The parts of a number's text. -/
structure NumberText where
  negative : Bool
  whole : List Char
  fraction : Option (List Char)
  /-- Sign and digits of the exponent. -/
  exponent : Option (Bool × List Char)
  deriving DecidableEq, Repr

/-- Digits at the front, at least one. -/
def digits? (cs : List Char) : Option (List Char × List Char) :=
  match cs.span Char.isDigit with
  | ([], _) => none
  | (ds, rest) => some (ds, rest)

/-- Split a number's text: no leading zero, and a digit after every point and exponent mark. -/
def NumberText.ofChars? (cs : List Char) : Option NumberText := do
  let (negative, cs) := match cs with
    | '-' :: cs => (true, cs)
    | cs => (false, cs)
  let (whole, cs) ← digits? cs
  if whole.head? = some '0' ∧ whole.length ≠ 1 then none else
  let (fraction, cs) ← match cs with
    | '.' :: cs => do
      let (ds, cs) ← digits? cs
      pure (some ds, cs)
    | cs => pure (none, cs)
  let (exponent, cs) ← match cs with
    | c :: cs' =>
      if c = 'e' ∨ c = 'E' then do
        let (down, cs') := match cs' with
          | '-' :: r => (true, r)
          | '+' :: r => (false, r)
          | r => (false, r)
        let (ds, r) ← digits? cs'
        pure (some (down, ds), r)
      else pure (none, cs)
    | [] => pure (none, [])
  if cs.isEmpty then some ⟨negative, whole, fraction, exponent⟩ else none

def digitValue (c : Char) : Nat := c.toNat - 48

def natOfDigits (ds : List Char) : Nat := ds.foldl (fun n c => n * 10 + digitValue c) 0

/-- As many digits as keep the number below `2 ^ 64`, and the number of digits left over. -/
def takeWord (n : Nat) : List Char → Nat × Nat
  | [] => (n, 0)
  | c :: cs =>
    let next := n * 10 + digitValue c
    if next < 0x10000000000000000 then takeWord next cs else (n, cs.length + 1)

/-- `significand · 10 ^ power` by one multiplication or division of doubles for each step of at
most 308 powers of ten; none where the result is too large. The zero stays a zero. -/
def scaleDouble (tries : Nat) (d : Binary64) (power : Int) : Option Binary64 :=
  match tries with
  | 0 => some d
  | tries + 1 =>
    if power.natAbs ≤ 308 then
      let r := if 0 ≤ power then d.mul (.ofNat (Nat.pow 10 power.natAbs)) else d.div (.ofNat (Nat.pow 10 power.natAbs))
      if r.isFinite then some r else none
    else if d.magnitude = 0 then some d
    else if 0 ≤ power then none
    else scaleDouble tries (d.div (.ofNat (Nat.pow 10 308))) (power + 308)

/-- The double of a number's text. The digits past the first that overflow 64 bits are not read:
before the point each counts as a power of ten, behind it not at all. -/
def NumberText.double? (t : NumberText) : Option Binary64 := do
  let (n, left) := takeWord 0 t.whole
  let fraction := t.fraction.getD []
  let (n, dropped) := takeWord n fraction
  let power := Int.ofNat left - Int.ofNat (fraction.length - dropped)
  let sign (d : Binary64) := if t.negative then d.negate else d
  match t.exponent with
  | none => (scaleDouble 3 (.ofNat n) power).map sign
  | some (down, ds) =>
    let e := natOfDigits ds
    if 0x80000000 ≤ e then
      if n ≠ 0 ∧ !down then none else some (sign (.zero false))
    else
      let power := if down then power - e else power + e
      (scaleDouble (power.natAbs / 308 + 1) (.ofNat n) power).map sign

def NumberText.json? (t : NumberText) : Option Json :=
  let n := natOfDigits t.whole
  if t.fraction.isNone ∧ t.exponent.isNone ∧
      (if t.negative then 0 < n ∧ n ≤ 0x8000000000000000 else n < 0x10000000000000000) then
    some (.int (if t.negative then -n else n))
  else t.double?.map .double

/-- The value of a word: a literal name or a number. -/
def ofWord? (w : List Char) : Option Json :=
  match String.ofList w with
  | "null" => some .null
  | "true" => some (.bool true)
  | "false" => some (.bool false)
  | _ => (NumberText.ofChars? w).bind (·.json?)

/-! ## Structure -/

/-- An open container with what it holds so far; `pending` waits for the value of its key. -/
inductive Frame where
  | items (read : List Json)
  | members (read : Members)
  | pending (read : Members) (key : String)

inductive Expect where
  | value | firstItem | firstKey | key | colon | next

/-- The open containers, the innermost first, and what may come next. `result` is the finished
value once the outermost one is closed. -/
structure Build where
  stack : List Frame
  expect : Expect
  result : Option Json

def Build.start : Build := ⟨[], .value, none⟩

def deepest : Nat := 127

/-- Put a finished value where it belongs. -/
def Build.place (v : Json) : List Frame → Option Build
  | [] => some ⟨[], .next, some v⟩
  | .items read :: st => some ⟨.items (v :: read) :: st, .next, none⟩
  | .pending read k :: st => some ⟨.members (Dictionary.insert k v read) :: st, .next, none⟩
  | .members _ :: _ => none

def Build.enter (f : Frame) (e : Expect) (st : List Frame) : Option Build :=
  if st.length < deepest then some ⟨f :: st, e, none⟩ else none

/-- Read a token where a value is expected. -/
def Build.value (st : List Frame) : Token → Option Build
  | .openObj => enter (.members []) .firstKey st
  | .openArr => enter (.items []) .firstItem st
  | .text s => place (.str s) st
  | .word w => (ofWord? w).bind (place · st)
  | _ => none

def Build.key (st : List Frame) (s : String) : Option Build :=
  match st with
  | .members read :: st => some ⟨.pending read s :: st, .colon, none⟩
  | _ => none

/-- Close the innermost container. -/
def Build.close (st : List Frame) (t : Token) : Option Build :=
  match st, t with
  | .items read :: st, .closeArr => place (.arr read.reverse) st
  | .members read :: st, .closeObj => place (.obj read) st
  | _, _ => none

def Build.step (b : Build) (t : Token) : Option Build :=
  match b.expect with
  | .value => value b.stack t
  | .firstItem => if t = .closeArr then close b.stack t else value b.stack t
  | .firstKey =>
    match t with
    | .text s => key b.stack s
    | t => close b.stack t
  | .key =>
    match t with
    | .text s => key b.stack s
    | _ => none
  | .colon => if t = .colon then some { b with expect := .value } else none
  | .next =>
    match t, b.stack with
    | .comma, .items _ :: _ => some { b with expect := .value }
    | .comma, .members _ :: _ => some { b with expect := .key }
    | t, st => close st t

def ofTokens? (ts : List Token) : Option Json :=
  (ts.foldlM Build.step Build.start).bind (·.result)

/-- The value of a text. -/
def read? (text : String) : Option Json := (tokens? text).bind ofTokens?

end AppServiceOperator.Json
