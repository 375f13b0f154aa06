/-!
# Rules that come into play

A list of rules is tried in order. A rule that applies may first have to be passed over some
times, and may come into play only so many times.
-/
namespace AppServiceOperator.Simulation

structure Rule (α : Type) where
  /-- How often the rule is still passed over. -/
  skip : Nat := 0
  /-- How often the rule may still come into play; without end where nothing is given. -/
  times : Option Nat := none
  content : α
  deriving Repr

namespace Rule

variable {α : Type}

/-- The first rule that applies and comes into play, and the rules after that. -/
def fire (applies : α → Bool) : List (Rule α) → Option α × List (Rule α)
  | [] => (none, [])
  | r :: rs =>
    let passOver (r : Rule α) := ((fire applies rs).1, r :: (fire applies rs).2)
    if !applies r.content then passOver r
    else if 0 < r.skip then passOver { r with skip := r.skip - 1 }
    else match r.times with
      | none => (some r.content, r :: rs)
      | some 0 => passOver r
      | some (n + 1) => (some r.content, { r with times := some n } :: rs)

end Rule

end AppServiceOperator.Simulation
