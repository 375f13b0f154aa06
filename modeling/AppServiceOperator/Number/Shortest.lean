import AppServiceOperator.Number.Binary64
/-!
# The shortest decimal of a double

Of all decimals `digits · 10 ^ power` that read back as a given double, `Binary64.shortest` takes
one of the fewest digits, and of those the nearest to the double. A grid of decimals has a point
in the interval of numbers that round to the double exactly when one of the two grid points next
to the double is in it, so only these two are tried, from the coarsest grid on.
-/
namespace AppServiceOperator

/-- The number `digits · 10 ^ power`. -/
structure Decimal where
  digits : Nat
  power : Int
  deriving DecidableEq, Repr

namespace Binary64

/-- The numbers that round to a double, as numerators over one denominator. -/
structure Interval where
  low : Nat
  centre : Nat
  high : Nat
  den : Nat
  /-- Whether the two ends round to the double as well. -/
  closed : Bool

/-- The interval of a finite magnitude that is not zero. Below a power of two the gap to the
next double is half as wide. -/
def interval (d : Binary64) : Interval :=
  let m := d.magnitude
  let narrow := m = hiddenBit ∧ -1074 < d.scale
  let up := 4 * m + 2
  let down := if narrow then 4 * m - 1 else 4 * m - 2
  let num : Nat := if 0 ≤ d.scale then Nat.pow 2 d.scale.toNat else 1
  let den : Nat := if 0 ≤ d.scale then 4 else 4 * Nat.pow 2 (-d.scale).toNat
  ⟨down * num, 4 * m * num, up * num, den, m % 2 = 0⟩

def Interval.holds (i : Interval) (num den : Nat) : Bool :=
  if i.closed then i.low * den ≤ num * i.den && num * i.den ≤ i.high * den
  else i.low * den < num * i.den && num * i.den < i.high * den

/-- The nearer of the two multiples of `10 ^ power` beside the centre that lie in the interval,
the even one when both are equally near. -/
def Interval.onGrid (i : Interval) (power : Int) : Option Decimal :=
  let unit : Nat := if 0 ≤ power then Nat.pow 10 power.toNat else 1
  let parts : Nat := if 0 ≤ power then 1 else Nat.pow 10 (-power).toNat
  let below := i.centre * parts / (i.den * unit)
  let above := below + 1
  let fits (n : Nat) : Bool := n ≠ 0 && i.holds (n * unit) parts
  -- twice the distance of `below` against the width of a grid step
  let twice := 2 * (i.centre * parts - below * unit * i.den)
  let nearerBelow := twice < unit * i.den || (twice = unit * i.den && below % 2 = 0)
  if fits below && (nearerBelow || !fits above) then some ⟨below, power⟩
  else if fits above then some ⟨above, power⟩
  else none

/-- Try ever finer grids. -/
def Interval.shortest (i : Interval) : Nat → Int → Decimal
  | 0, power => ⟨0, power⟩
  | tries + 1, power => (i.onGrid power).getD (i.shortest tries (power - 1))

/-- An upper bound for the decimal exponent of the leading digit. -/
def leadingPower (d : Binary64) : Int :=
  Int.fdiv ((d.scale + d.magnitude.log2 + 1) * 30103) 100000 + 1

/-- The shortest decimal of the magnitude; seventeen digits always suffice. -/
def shortest (d : Binary64) : Decimal :=
  if d.magnitude = 0 then ⟨0, 0⟩ else d.interval.shortest 22 d.leadingPower

end Binary64

/-- How a decimal is written: positional notation while the leading digit's exponent lies
between the two bounds, scientific notation elsewhere. -/
structure DecimalFormat where
  leastPositional : Int
  mostPositional : Int
  deriving Repr

/-- Doubles in JSON text: positional from `0.00001` up to sixteen digits before the point. -/
def jsonDecimals : DecimalFormat := ⟨-5, 15⟩

def zeros (n : Nat) : String := String.ofList (List.replicate n '0')

/-- The text of a decimal; positional text always has a point. -/
def DecimalFormat.write (f : DecimalFormat) (d : Decimal) : String :=
  let digits := toString d.digits
  let length : Int := digits.length
  -- the decimal point stands after this many digits
  let point := length + d.power
  if point - 1 < f.leastPositional ∨ f.mostPositional < point - 1 then
    let lead := digits.take 1
    let rest := digits.drop 1
    s!"{lead}" ++ (if rest.isEmpty then "" else s!".{rest}") ++ s!"e{point - 1}"
  else if 0 ≤ d.power then digits ++ zeros d.power.toNat ++ ".0"
  else if 0 < point then s!"{digits.take point.toNat}.{digits.drop point.toNat}"
  else "0." ++ zeros (-point).toNat ++ digits

/-- A finite double in JSON text. -/
def Binary64.jsonText (d : Binary64) : String :=
  (if d.isNegative then "-" else "") ++
    (if d.magnitude = 0 then "0.0" else jsonDecimals.write d.shortest)

example : (Binary64.ofRatio false 1 10).shortest = ⟨1, -1⟩ := by decide +kernel
example : (⟨0x0000000000000001⟩ : Binary64).shortest = ⟨5, -324⟩ := by decide +kernel
example : (⟨0x7FEFFFFFFFFFFFFF⟩ : Binary64).shortest = ⟨17976931348623157, 292⟩ := by decide +kernel
example : (⟨0x4340000000000000⟩ : Binary64).shortest = ⟨9007199254740992, 0⟩ := by decide +kernel

end AppServiceOperator
