/-!
# Instants

An instant is a number of seconds since the start of 1970 in UTC and a number of nanoseconds.
Inside a leap second the nanoseconds go on counting past one thousand million. Instants are
ordered by seconds, then by nanoseconds.
-/
namespace AppServiceOperator

structure Instant where
  seconds : Int
  nanos : Nat
  deriving DecidableEq, Repr, Inhabited

namespace Instant

def le (a b : Instant) : Prop := a.seconds < b.seconds ∨ (a.seconds = b.seconds ∧ a.nanos ≤ b.nanos)

instance : LE Instant := ⟨le⟩

instance (a b : Instant) : Decidable (a ≤ b) :=
  inferInstanceAs (Decidable (_ ∨ (_ ∧ _)))

/-- The later of two instants. -/
def latest (a b : Instant) : Instant := if a ≤ b then b else a

theorem le_def {a b : Instant} :
    a ≤ b ↔ a.seconds < b.seconds ∨ (a.seconds = b.seconds ∧ a.nanos ≤ b.nanos) := Iff.rfl

theorem le_refl (a : Instant) : a ≤ a := by rw [le_def]; omega

theorem le_trans {a b c : Instant} (h : a ≤ b) (h₁ : b ≤ c) : a ≤ c := by
  rw [le_def] at *; omega

theorem le_latest_left (a b : Instant) : a ≤ latest a b := by
  unfold latest
  split
  · assumption
  · exact le_refl a

/-- Nanoseconds since the start of 1970. -/
def totalNanos (t : Instant) : Int := t.seconds * 1000000000 + t.nanos

end Instant

/-! ## The calendar -/

/-- A day of the proleptic Gregorian calendar; the year before year 1 is year 0. -/
structure CalendarDay where
  year : Int
  month : Nat
  day : Nat
  deriving DecidableEq, Repr

def isLeapYear (y : Int) : Bool := y % 4 = 0 && (y % 100 ≠ 0 || y % 400 = 0)

def daysInMonth (y : Int) (m : Nat) : Nat :=
  if m = 2 then (if isLeapYear y then 29 else 28)
  else if m = 4 ∨ m = 6 ∨ m = 9 ∨ m = 11 then 30
  else 31

def CalendarDay.isValid (d : CalendarDay) : Bool :=
  1 ≤ d.month && d.month ≤ 12 && 1 ≤ d.day && d.day ≤ daysInMonth d.year d.month

/-- Days since the start of 1970. Years are counted from March, so that the leap day is last. -/
def CalendarDay.number (d : CalendarDay) : Int :=
  let y := if d.month ≤ 2 then d.year - 1 else d.year
  let era := y.fdiv 400
  let yearOfEra := y - era * 400
  let dayOfYear := (153 * ((d.month + 9) % 12) + 2) / 5 + d.day - 1
  era * 146097 + (yearOfEra * 365 + yearOfEra.fdiv 4 - yearOfEra.fdiv 100 + dayOfYear) - 719468

/-- The day of a number of days since the start of 1970. -/
def CalendarDay.ofNumber (n : Int) : CalendarDay :=
  let z := n + 719468
  let era := z.fdiv 146097
  let dayOfEra := (z - era * 146097).toNat
  let yearOfEra := (dayOfEra - dayOfEra / 1460 + dayOfEra / 36524 - dayOfEra / 146096) / 365
  let dayOfYear := dayOfEra - (365 * yearOfEra + yearOfEra / 4 - yearOfEra / 100)
  let fromMarch := (5 * dayOfYear + 2) / 153
  let day := dayOfYear - (153 * fromMarch + 2) / 5 + 1
  let month := if fromMarch < 10 then fromMarch + 3 else fromMarch - 9
  let year := Int.ofNat yearOfEra + era * 400
  ⟨if month ≤ 2 then year + 1 else year, month, day⟩

example : CalendarDay.number ⟨1970, 1, 1⟩ = 0 ∧ CalendarDay.number ⟨2024, 2, 29⟩ = 19782 := by decide
example : CalendarDay.ofNumber 19782 = ⟨2024, 2, 29⟩ ∧
    CalendarDay.ofNumber (-719529) = ⟨-1, 12, 31⟩ := by decide

end AppServiceOperator
