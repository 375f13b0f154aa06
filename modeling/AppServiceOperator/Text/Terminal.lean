/-!
# Text without terminal control

What is left of a text once everything that would steer a terminal is taken out: escape sequences,
and control characters other than white space.
-/
namespace AppServiceOperator.Text

/-- Where the reading of a text stands in an escape sequence. -/
inductive Steering where
  | none
  /-- Behind the escape character. -/
  | escape
  /-- In a sequence that a letter or a sign ends. -/
  | sequence
  /-- In a text that is meant for the terminal. -/
  | text
  deriving DecidableEq, Repr

def isControl (c : Char) : Bool := c.toNat < 0x20 || c.toNat = 0x7F

/-- The control characters that are white space. -/
def isControlBlank (c : Char) : Bool := c = '\t' || c = '\n' || c = '\x0c' || c = '\r'

/-- The state behind a character that begins or goes on with a sequence. -/
def Steering.next (s : Steering) (c : Char) : Steering :=
  let n := c.toNat
  if c = '\x1b' then .escape
  else if n = 0x18 ∨ n = 0x1A then .none
  else match s with
    | .none => .none
    | .escape =>
      if c = '[' then .sequence
      else if c = ']' ∨ c = 'P' ∨ c = 'X' ∨ c = '^' ∨ c = '_' then .text
      else if n < 0x30 then .escape else .none
    | .sequence => if n < 0x40 then .sequence else .none
    | .text => if n = 0x07 then .none else .text

def withoutSteeringFrom (s : Steering) : List Char → List Char
  | [] => []
  | c :: cs =>
    if s ≠ .text ∧ isControlBlank c then c :: withoutSteeringFrom .none cs
    else if s = .none ∧ !isControl c then c :: withoutSteeringFrom .none cs
    else withoutSteeringFrom (s.next c) cs

/-- The text without what would steer a terminal. -/
def withoutSteering (s : String) : String := String.ofList (withoutSteeringFrom .none s.toList)

example : withoutSteering "a\x1b[31mb\x01\tc" = "ab\tc" := by decide +kernel

end AppServiceOperator.Text
