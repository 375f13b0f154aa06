/-!
# Reading whole numbers

A whole number is written in decimal digits behind an optional sign. It is read from the left, and
the first character that is no digit or that carries the number over its limit decides the fault.
-/
namespace AppServiceOperator

/-- Why a text is not a whole number of the range asked for. -/
inductive NumeralFault where
  | empty
  | invalidDigit
  | tooLarge
  | tooSmall
  deriving DecidableEq, Repr

def NumeralFault.message : NumeralFault → String
  | .empty => "cannot parse integer from empty string"
  | .invalidDigit => "invalid digit found in string"
  | .tooLarge => "number too large to fit in target type"
  | .tooSmall => "number too small to fit in target type"

namespace Numeral

def digit? (c : Char) : Option Nat :=
  if '0' ≤ c ∧ c ≤ '9' then some (c.toNat - 48) else none

/-- The number of the digits behind those already read, unless it exceeds the limit. -/
def magnitude (limit : Nat) (beyond : NumeralFault) (read : Nat) : List Char → Except NumeralFault Nat
  | [] => .ok read
  | c :: cs =>
    match digit? c with
    | none => .error .invalidDigit
    | some d => if read * 10 + d ≤ limit then magnitude limit beyond (read * 10 + d) cs else .error beyond

/-- A number without a minus sign, at most `limit`. -/
def natural (limit : Nat) (s : String) : Except NumeralFault Nat :=
  match s.toList with
  | [] => .error .empty
  | ['+'] => .error .invalidDigit
  | '+' :: cs => magnitude limit .tooLarge 0 cs
  | cs => magnitude limit .tooLarge 0 cs

/-- A number of 64 bits, one of them for the sign. -/
def integer (s : String) : Except NumeralFault Int :=
  match s.toList with
  | ['-'] => .error .invalidDigit
  | '-' :: cs => (fun n => - Int.ofNat n) <$> magnitude 0x8000000000000000 .tooSmall 0 cs
  | _ => Int.ofNat <$> natural 0x7FFFFFFFFFFFFFFF s

/-- A number of 64 bits without sign. -/
def word (s : String) : Except NumeralFault UInt64 := UInt64.ofNat <$> natural 0xFFFFFFFFFFFFFFFF s

example : natural 99 "+007" = .ok 7 := by rfl
example : natural 99 "100x" = .error .tooLarge := by rfl
example : natural 99 "99x" = .error .invalidDigit := by rfl

end Numeral

end AppServiceOperator
