import AppServiceOperator.Text.Utf8
/-!
# Form encoding and request targets

Query values are form-encoded: letters, digits and `*-._` stay, a space becomes a plus sign, and
every other byte is a percent sign with two upper-case hexadecimal digits. A request target is
checked character by character; what follows a number sign is a fragment and is cut off.
-/
namespace AppServiceOperator.Text.Url

def isPlain (b : UInt8) : Bool :=
  let c := Char.ofNat b.toNat
  b < 0x80 && (c.isAlphanum || c = '*' || c = '-' || c = '.' || c = '_')

def upperHex (n : Nat) : Char := if n < 10 then Char.ofNat (48 + n) else Char.ofNat (55 + n)

def encodeByte (b : UInt8) : List Char :=
  if isPlain b then [Char.ofNat b.toNat]
  else if b = 0x20 then ['+']
  else ['%', upperHex (b.toNat / 16), upperHex (b.toNat % 16)]

def encodeForm (s : String) : String := String.ofList ((Utf8.encode s).flatMap encodeByte)

/-- Characters allowed in the path of a target. -/
def isPathChar (c : Char) : Bool :=
  let n := c.toNat
  n = 0x21 || (0x24 ≤ n && n ≤ 0x3B) || n = 0x3D || (0x40 ≤ n && n ≤ 0x5F) ||
    (0x61 ≤ n && n ≤ 0x7A) || n = 0x7C || 0x7E ≤ n || c = '"' || c = '\x7b' || c = '\x7d'

/-- Characters allowed behind the question mark. -/
def isQueryChar (c : Char) : Bool :=
  let n := c.toNat
  n = 0x21 || (0x24 ≤ n && n ≤ 0x3B) || n = 0x3D || 0x3F ≤ n

inductive TargetFault where
  | invalidCharacter
  | tooLong
  deriving DecidableEq, Repr

def TargetFault.message : TargetFault → String
  | .invalidCharacter => "invalid uri character"
  | .tooLong => "uri too long"

def checkQuery : List Char → Except TargetFault (List Char)
  | [] => .ok []
  | c :: cs =>
    if c = '#' then .ok []
    else if isQueryChar c then return c :: (← checkQuery cs)
    else .error .invalidCharacter

def checkPath : List Char → Except TargetFault (List Char)
  | [] => .ok []
  | c :: cs =>
    if c = '#' then .ok []
    else if c = '?' then return c :: (← checkQuery cs)
    else if isPathChar c then return c :: (← checkPath cs)
    else .error .invalidCharacter

/-- Targets are shorter than this many bytes. -/
def targetLimit : Nat := 65535

/-- The target without its fragment. -/
def target (s : String) : Except TargetFault String :=
  if targetLimit ≤ s.utf8ByteSize then .error .tooLong
  else String.ofList <$> checkPath s.toList

example : encodeForm "a=b,c!=d é" = "a%3Db%2Cc%21%3Dd+%C3%A9" := by decide +kernel

end AppServiceOperator.Text.Url
