/-!
# White space

The characters of the Unicode property White_Space, and trimming by it.
-/
namespace AppServiceOperator.Text

def isBlank (c : Char) : Bool :=
  let n := c.toNat
  (0x09 ≤ n && n ≤ 0x0D) || n = 0x20 || n = 0x85 || n = 0xA0 || n = 0x1680 ||
    (0x2000 ≤ n && n ≤ 0x200A) || n = 0x2028 || n = 0x2029 || n = 0x202F || n = 0x205F || n = 0x3000

def dropBlanks (cs : List Char) : List Char := cs.dropWhile isBlank

/-- The text without the white space at both ends. -/
def trim (s : String) : String :=
  String.ofList (dropBlanks (dropBlanks s.toList).reverse).reverse

def isAllBlank (s : String) : Bool := s.toList.all isBlank

end AppServiceOperator.Text
