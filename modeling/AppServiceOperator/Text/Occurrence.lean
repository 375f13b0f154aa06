/-!
# Occurrences of a text in another

Whether a text has a part, and its pieces between the occurrences of a part, which are found from
left to right and do not overlap.
-/
namespace AppServiceOperator.Text

/-- Whether `part` occurs among the characters. -/
def hasPart (part : List Char) : List Char → Bool
  | [] => part.isEmpty
  | c :: cs => part.isPrefixOf (c :: cs) || hasPart part cs

theorem hasPart_iff {part cs : List Char} : hasPart part cs = true ↔ part <:+: cs := by
  induction cs with
  | nil => simp [hasPart]
  | cons c cs ih =>
    rw [hasPart, Bool.or_eq_true, List.isPrefixOf_iff_prefix, ih, List.infix_cons_iff]

/-- The pieces, where `skip` characters of an occurrence are still to come and `read` holds the
characters of the current piece, the last one first. -/
def piecesFrom (part : List Char) (read : List Char) (skip : Nat) : List Char → List (List Char)
  | [] => [read.reverse]
  | c :: cs =>
    match skip with
    | skip + 1 => piecesFrom part read skip cs
    | 0 =>
      if part.isPrefixOf (c :: cs) then read.reverse :: piecesFrom part [] (part.length - 1) cs
      else piecesFrom part (c :: read) 0 cs

/-- The pieces between the occurrences of a part that is not empty. -/
def pieces (part cs : List Char) : List (List Char) := piecesFrom part [] 0 cs

/-- The text with every occurrence of a part replaced. -/
def replaced (part substitute : String) (s : String) : String :=
  String.ofList (List.intercalate substitute.toList (pieces part.toList s.toList))

end AppServiceOperator.Text
