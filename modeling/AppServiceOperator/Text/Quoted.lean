import AppServiceOperator.Text.Printable
/-!
# Quoted text in messages

Text is put in double quotes so that a reader of a log sees every character: the quote, the
backslash and the common controls have a letter escape, and a character that prints nothing or
extends the one before it is written by its code point.
-/
namespace AppServiceOperator.Text

/-- One character inside the quotes. -/
def quotedChar (c : Char) : List Char :=
  match c with
  | '\x00' => ['\\', '0']
  | '\t' => ['\\', 't']
  | '\r' => ['\\', 'r']
  | '\n' => ['\\', 'n']
  | '"' => ['\\', '"']
  | '\\' => ['\\', '\\']
  | c =>
    if isPrintable c && !isExtending c then [c]
    else ['\\', 'u', '\x7b'] ++ Nat.toDigits 16 c.toNat ++ ['\x7d']

/-- The text in double quotes, every character visible. -/
def quoted (s : String) : String :=
  String.ofList ('"' :: s.toList.flatMap quotedChar ++ ['"'])

example : quoted "a\"b\\c'\n\x01e\u0301" = "\"a\\\"b\\\\c'\\n\\u\x7b1\x7de\\u\x7b301\x7d\"" := by
  decide +kernel

end AppServiceOperator.Text
