/-!
# Double-precision numbers

A double is its 64 bits: sign, eleven exponent bits, fifty-two fraction bits. A finite double is
exactly `magnitude · 2 ^ scale` with its sign, and every operation below is that exact value
followed by one rounding to the nearest double, a tie going to the even neighbour.
-/
namespace AppServiceOperator

/-- A double-precision number, given by its bits. -/
structure Binary64 where
  bits : UInt64
  deriving DecidableEq, Repr, Inhabited

namespace Binary64

def signBit : Nat := 0x8000000000000000

/-- The bit above the fraction, which the bits of a double leave out. -/
def hiddenBit : Nat := 0x10000000000000

/-- The bits with the sign bit cleared. -/
def unsignedBits (d : Binary64) : Nat := d.bits.toNat % signBit

def isNegative (d : Binary64) : Bool := signBit ≤ d.bits.toNat

/-- The bits of the largest finite magnitude, plus one: the infinity of that sign. -/
def infinityBits : Nat := 2047 * hiddenBit

def isFinite (d : Binary64) : Bool := d.unsignedBits < infinityBits

/-- The whole number that, scaled by `2 ^ scale`, is the magnitude. -/
def magnitude (d : Binary64) : Nat :=
  let fraction := d.unsignedBits % hiddenBit
  if d.unsignedBits / hiddenBit = 0 then fraction else fraction + hiddenBit

/-- The power of two that scales `magnitude`; never below `-1074`. -/
def scale (d : Binary64) : Int :=
  Int.ofNat (max (d.unsignedBits / hiddenBit) 1) - 1075

def ofUnsignedBits (negative : Bool) (n : Nat) : Binary64 :=
  ⟨UInt64.ofNat (if negative then n + signBit else n)⟩

def zero (negative : Bool) : Binary64 := ofUnsignedBits negative 0

/-- Two doubles are equal when their bits are, and the two zeros are equal. -/
def same (a b : Binary64) : Bool :=
  a.bits == b.bits || (a.unsignedBits == 0 && b.unsignedBits == 0)

theorem same_refl (a : Binary64) : a.same a = true := by simp [same]

/-- The quotient rounded to the nearest whole number, a tie going to the even one. -/
def roundDiv (num den : Nat) : Nat :=
  let q := num / den
  let r := num % den
  if 2 * r < den then q
  else if den < 2 * r then q + 1
  else if q % 2 = 0 then q else q + 1

/-- The double nearest to `num / den`, with the given sign; too large a quotient gives
the infinity of that sign. -/
def ofRatio (negative : Bool) (num den : Nat) : Binary64 :=
  if num = 0 ∨ den = 0 then zero negative else
  -- `e` is the exponent of the leading bit of the quotient, or one more than it.
  let e : Int := Int.ofNat num.log2 - Int.ofNat den.log2
  let e := if 0 ≤ e then (if num < den * Nat.pow 2 e.toNat then e - 1 else e)
           else (if num * Nat.pow 2 (-e).toNat < den then e - 1 else e)
  let unit : Int := max (e - 52) (-1074)
  let m := if 0 ≤ unit then roundDiv num (den * Nat.pow 2 unit.toNat)
           else roundDiv (num * Nat.pow 2 (-unit).toNat) den
  let n := (unit + 1074).toNat * hiddenBit + m
  ofUnsignedBits negative (min n infinityBits)

/-- The magnitude as a quotient of whole numbers. -/
def ratio (d : Binary64) : Nat × Nat :=
  if 0 ≤ d.scale then (d.magnitude * Nat.pow 2 d.scale.toNat, 1)
  else (d.magnitude, Nat.pow 2 (-d.scale).toNat)

def ofNat (n : Nat) : Binary64 := ofRatio false n 1

def mul (a b : Binary64) : Binary64 :=
  ofRatio (a.isNegative != b.isNegative) (a.ratio.1 * b.ratio.1) (a.ratio.2 * b.ratio.2)

def div (a b : Binary64) : Binary64 :=
  ofRatio (a.isNegative != b.isNegative) (a.ratio.1 * b.ratio.2) (a.ratio.2 * b.ratio.1)

def negate (d : Binary64) : Binary64 := ofUnsignedBits (!d.isNegative) d.unsignedBits

example : (ofRatio false 1 10).bits = 0x3FB999999999999A := by decide +kernel
example : (ofRatio false 1 1).bits = 0x3FF0000000000000 := by decide +kernel
example : (ofRatio true 5 (Nat.pow 10 324)).bits = 0x8000000000000001 := by decide +kernel
example : (ofRatio false (0x20000000000000 + 1) 1).bits = 0x4340000000000000 := by decide +kernel
example : (ofRatio false (Nat.pow 10 309) 1).isFinite = false := by decide +kernel

end Binary64

end AppServiceOperator
