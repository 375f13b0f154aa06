import AppServiceOperator.Yaml.Place
/-!
# Reading YAML

A text is a row of documents. A block holds entries behind dashes or pairs of a key and a value,
all of them in one column; what belongs to one of them stands to the right of that column, except
that the entries under a key may stand in its own column. Brackets and braces hold the same on any
number of lines. Every key is a text and stands once. Anchors, tags and keys behind a question mark
are not read.
-/
namespace AppServiceOperator.Yaml

/-- Put a member among others, if its key is a text that none of them has. -/
def addMember? (members : Members) (key value : Json) : Option Members := do
  let k ← key.str?
  if (Dictionary.get? members k).isSome then none else some (Dictionary.insert k value members)

mutual
/-- A scalar or a flow collection. -/
def atom (fuel : Nat) (flow : Bool) (least : Nat) (p : Place) : Option Atom :=
  match fuel, p.rest with
  | 0, _ => none
  | _ + 1, '"' :: cs => (doubleFrom (p.column + 1) {} .none cs).map quotedAtom
  | _ + 1, '\'' :: cs => (singleFrom (p.column + 1) {} cs).map quotedAtom
  | fuel + 1, '[' :: _ => flowItems fuel [] (p.behind 1 false)
  | fuel + 1, '\x7b' :: _ => flowMembers fuel [] (p.behind 1 false)
  | _ + 1, _ => plain? flow least p

/-- The items of a flow sequence up to its bracket; `read` has the last one first. -/
def flowItems (fuel : Nat) (read : List Json) (p : Place) : Option Atom :=
  match fuel with
  | 0 => none
  | fuel + 1 => do
    let p ← p.skip true
    if p.rest.head? = some ']' then return ⟨.arr read.reverse, (p.behind 1 false).skipInline, true⟩
    let a ← atom fuel true 0 p
    let q ← a.place.skip true
    match q.rest.head? with
    | some ',' => flowItems fuel (a.value :: read) (q.behind 1 false)
    | some ']' => return ⟨.arr (a.value :: read).reverse, (q.behind 1 false).skipInline, true⟩
    | _ => none

/-- The members of a flow mapping up to its brace. A key without a value has the null. -/
def flowMembers (fuel : Nat) (read : Members) (p : Place) : Option Atom :=
  match fuel with
  | 0 => none
  | fuel + 1 => do
    let p ← p.skip true
    if p.rest.head? = some '\x7d' then return ⟨.obj read, (p.behind 1 false).skipInline, true⟩
    let key ← atom fuel true 0 p
    let q ← key.place.skip true
    let (value, q) ←
      if q.rest.head? = some ':' then do
        let q ← (q.behind 1 false).skip true
        if q.rest.head? = some ',' ∨ q.rest.head? = some '\x7d' then pure (Json.null, q)
        else do
          let a ← atom fuel true 0 q
          pure (a.value, ← a.place.skip true)
      else pure (Json.null, q)
    let read ← addMember? read key.value value
    match q.rest.head? with
    | some ',' => flowMembers fuel read (q.behind 1 false)
    | some '\x7d' => return ⟨.obj read, (q.behind 1 false).skipInline, true⟩
    | _ => none
end

mutual
/-- The value at a place, indented by at least `least` columns; the null where there is none. -/
def node (fuel least : Nat) (p : Place) : Option (Json × Place) :=
  match fuel with
  | 0 => none
  | fuel + 1 =>
    if p.isOver least then some (.null, p)
    else if p.startsEntry then
      if p.opens then entries fuel p.column [] p else none
    else
      match p.rest with
      | '|' :: _ => do
        let a ← block? false least (p.behind 1 false)
        return (a.value, ← a.place.skip false)
      | '>' :: _ => do
        let a ← block? true least (p.behind 1 false)
        return (a.value, ← a.place.skip false)
      | _ => do
        let a ← atom fuel false least p
        if a.place.endsKey then
          if p.opens && a.oneLine then members fuel p.column [] p else none
        else return (a.value, ← a.place.skip false)

/-- The entries in a column; `read` has the last one first. -/
def entries (fuel column : Nat) (read : List Json) (p : Place) : Option (Json × Place) :=
  match fuel with
  | 0 => none
  | fuel + 1 => do
    let (value, q) ← node fuel (column + 1) (← (p.behind 1 true).skip false)
    let read := value :: read
    if q.isOver column then return (.arr read.reverse, q)
    else if q.opens && q.column = column then
      if q.startsEntry then entries fuel column read q else return (.arr read.reverse, q)
    else none

/-- The pairs whose keys stand in a column. -/
def members (fuel column : Nat) (read : Members) (p : Place) : Option (Json × Place) :=
  match fuel with
  | 0 => none
  | fuel + 1 => do
    let key ← atom fuel false (column + 1) p
    if !(key.oneLine && key.place.endsKey) then none else
    let p ← (key.place.behind 1 false).skip false
    let (value, q) ←
      if p.opens && p.column = column && p.startsEntry && !p.isOver column then entries fuel column [] p
      else node fuel (column + 1) p
    let read ← addMember? read key.value value
    if q.isOver column then return (.obj read, q)
    else if q.opens && q.column = column then members fuel column read q
    else none
end

/-- The documents from a place on. -/
def documentsFrom (fuel : Nat) (p : Place) : Option (List Json) :=
  match fuel with
  | 0 => none
  | fuel + 1 => do
    let p ← p.skip false
    match p.rest with
    | [] => return []
    | '%' :: cs =>
      if p.column = 0 then documentsFrom fuel ⟨cs.dropWhile (· ≠ '\n'), 1, false⟩ else none
    | '.' :: _ => if p.isMarker then documentsFrom fuel (p.behind 3 false) else value fuel p
    | '-' :: _ =>
      if p.isMarker then do
        let q ← (p.behind 3 false).skip false
        value fuel q
      else value fuel p
    | _ => value fuel p
where
  /-- A document and those behind it. -/
  value (fuel : Nat) (p : Place) : Option (List Json) := do
    let (v, q) ← node fuel 0 p
    if !q.isOver 0 then none else return v :: (← documentsFrom fuel q)

/-- Characters that a text may hold. -/
def isAllowed (c : Char) : Bool :=
  let n := c.toNat
  c = '\t' || c = '\n' || (0x20 ≤ n && n ≤ 0x7E) || n = 0x85 || (0xA0 ≤ n && n ≤ 0xFFFD && n ≠ 0xFEFF) ||
    0x10000 ≤ n

/-- The text with a line feed for every line end. -/
def unified : List Char → List Char
  | '\r' :: '\n' :: cs => '\n' :: unified cs
  | '\r' :: cs => '\n' :: unified cs
  | c :: cs => c :: unified cs
  | [] => []

/-- The documents of a text. -/
def documents? (s : String) : Option (List Json) :=
  let cs := unified s.toList
  let cs := if cs.head? = some '\uFEFF' then cs.tail else cs
  if cs.all isAllowed then documentsFrom (4 * cs.length + 8) ⟨cs, 0, true⟩ else none

end AppServiceOperator.Yaml
