/-!
# UTF-8 bytes that may be broken

Bytes are cut into pieces: characters, the longest beginnings of characters that go wrong, and a
beginning that the end of the bytes cuts off. Decoding with replacement puts one replacement
character for each broken piece; strict decoding names the first one and where it starts.
-/
namespace AppServiceOperator.Text.Utf8

inductive Piece where
  | char (c : Char)
  /-- A beginning of so many bytes that no character continues. -/
  | broken (size : Nat)
  /-- A beginning of so many bytes at the end. -/
  | cut (size : Nat)
  deriving DecidableEq, Repr

/-- Where the decoder stands: between characters, or after `size` bytes of one with `left` to
come, the next of which must lie between `low` and `high`. -/
inductive State where
  | start
  | inside (size left low high value : Nat)

/-- The state after the first byte of a character that is not ASCII. The bounds on the second
byte shut out overlong forms, surrogates and values above the last code point. -/
def lead? (b : Nat) : Option State :=
  if 0xC2 ≤ b ∧ b ≤ 0xDF then some (.inside 1 1 0x80 0xBF (b - 0xC0))
  else if b = 0xE0 then some (.inside 1 2 0xA0 0xBF 0)
  else if b = 0xED then some (.inside 1 2 0x80 0x9F 0xD)
  else if 0xE1 ≤ b ∧ b ≤ 0xEF then some (.inside 1 2 0x80 0xBF (b - 0xE0))
  else if b = 0xF0 then some (.inside 1 3 0x90 0xBF 0)
  else if 0xF1 ≤ b ∧ b ≤ 0xF3 then some (.inside 1 3 0x80 0xBF (b - 0xF0))
  else if b = 0xF4 then some (.inside 1 3 0x80 0x8F 4)
  else none

/-- A byte between characters. -/
def first (b : Nat) : List Piece × State :=
  if b < 0x80 then ([.char (Char.ofNat b)], .start)
  else match lead? b with
    | some s => ([], s)
    | none => ([.broken 1], .start)

/-- One byte: the pieces it completes and the next state. A byte that does not continue a
character is taken again as a first byte. -/
def step (b : Nat) : State → List Piece × State
  | .start => first b
  | .inside size left low high value =>
    if low ≤ b ∧ b ≤ high then
      let value := value * 64 + (b - 0x80)
      if left ≤ 1 then ([.char (Char.ofNat value)], .start)
      else ([], .inside (size + 1) (left - 1) 0x80 0xBF value)
    else ((.broken size) :: (first b).1, (first b).2)

def piecesFrom : State → List UInt8 → List Piece
  | .start, [] => []
  | .inside size .., [] => [.cut size]
  | s, b :: bs => (step b.toNat s).1 ++ piecesFrom (step b.toNat s).2 bs

def pieces (bs : List UInt8) : List Piece := piecesFrom .start bs

def Piece.replaced : Piece → Char
  | .char c => c
  | _ => '\ufffd'

/-- The text of the bytes, with a replacement character for each broken piece. -/
def decodeLossy (bs : List UInt8) : String := String.ofList ((pieces bs).map Piece.replaced)

/-- Why bytes are not UTF-8. -/
inductive Fault where
  | invalid (size index : Nat)
  | incomplete (index : Nat)
  deriving DecidableEq, Repr

def Fault.message : Fault → String
  | .invalid size index => s!"invalid utf-8 sequence of {size} bytes from index {index}"
  | .incomplete index => s!"incomplete utf-8 byte sequence from index {index}"

/-- The characters of the pieces, which start at byte `index`. -/
def charsFrom (index : Nat) : List Piece → Except Fault (List Char)
  | [] => .ok []
  | .char c :: ps => return c :: (← charsFrom (index + c.utf8Size) ps)
  | .broken size :: _ => .error (.invalid size index)
  | .cut _ :: _ => .error (.incomplete index)

/-- The text of the bytes, or the first fault. -/
def decode (bs : List UInt8) : Except Fault String := String.ofList <$> charsFrom 0 (pieces bs)

def encode (s : String) : List UInt8 := s.toUTF8.toList

example : decodeLossy [104, 255, 105] = "h\ufffdi" := by decide +kernel
example : decodeLossy [0xF0, 0x9F, 0x8E] = "\ufffd" := by decide +kernel
example : decodeLossy [0xC0, 0x80] = "\ufffd\ufffd" := by decide +kernel
example : decodeLossy [0xF4, 0x90, 0x80, 0x80] = "\ufffd\ufffd\ufffd\ufffd" := by decide +kernel
example : pieces [0xE2, 0x82, 0x41] = [.broken 2, .char 'A'] := by decide +kernel

end AppServiceOperator.Text.Utf8
