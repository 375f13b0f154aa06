import AppServiceOperator.Text.UrlEncoding
/-!
# Server addresses

The address of a server has a scheme, an authority, a path and a query; an authority may stand on
its own, and so may a path. Only the form is checked.
-/
namespace AppServiceOperator.Connection

inductive AddressFault where
  | empty
  | tooLong
  | schemeTooLong
  | invalidCharacter
  | invalidAuthority
  | invalidFormat
  deriving DecidableEq, Repr

def AddressFault.message : AddressFault → String
  | .empty => "empty string"
  | .tooLong => "uri too long"
  | .schemeTooLong => "scheme too long"
  | .invalidCharacter => "invalid uri character"
  | .invalidAuthority => "invalid authority"
  | .invalidFormat => "invalid format"

namespace Address

def isSchemeChar (c : Char) : Bool := c.isAlphanum || c = '+' || c = '-' || c = '.'

def longestScheme : Nat := 64

/-- What stands behind the scheme; none where there is no scheme. -/
def dropScheme? (cs : List Char) : Except AddressFault (Option (List Char)) :=
  let scheme := cs.takeWhile isSchemeChar
  match cs.drop scheme.length with
  | ':' :: '/' :: '/' :: rest =>
    if longestScheme < scheme.length then .error .schemeTooLong else .ok (some rest)
  | _ => .ok none

/-- Characters that end an authority. -/
def endsAuthority (c : Char) : Bool := c = '/' || c = '?' || c = '#'

def isAuthorityChar (c : Char) : Bool :=
  c.isAlphanum || "!$&'()*+,-.:;=@[]_~".toList.contains c

/-- What was seen of an authority. -/
structure Seen where
  colons : Nat := 0
  opened : Bool := false
  closed : Bool := false
  percent : Bool := false
  /-- Whether the last character was an at sign. -/
  afterUser : Bool := false

def mostColons : Nat := 8

/-- One character of an authority. A user in front of an at sign, and an address in brackets, may
have colons and percent signs of their own. -/
def Seen.step (s : Seen) (c : Char) : Except AddressFault Seen :=
  let s := { s with afterUser := c = '@' }
  if c = ':' then
    if mostColons ≤ s.colons then .error .invalidAuthority else .ok { s with colons := s.colons + 1 }
  else if c = '[' then
    if s.percent || s.opened then .error .invalidAuthority else .ok { s with opened := true }
  else if c = ']' then
    if !s.opened || s.closed then .error .invalidAuthority
    else .ok { s with closed := true, colons := 0, percent := false }
  else if c = '@' then .ok { s with colons := 0, percent := false }
  else if c = '%' then .ok { s with percent := true }
  else if isAuthorityChar c then .ok s
  else .error .invalidCharacter

/-- Check an authority: its brackets match, at most one colon is left for the number behind the
host, and something follows the user. -/
def checkAuthority (cs : List Char) : Except AddressFault Unit := do
  let s ← cs.foldlM Seen.step {}
  if s.opened ≠ s.closed ∨ 1 < s.colons ∨ s.afterUser ∨ s.percent then throw .invalidAuthority

/-- Check a path with its query. -/
def checkTarget (cs : List Char) : Except AddressFault Unit :=
  match Text.Url.checkPath cs with
  | .ok _ => .ok ()
  | .error _ => .error .invalidCharacter

/-- Check what stands behind a scheme, or an address without one. -/
def checkRest (hasScheme : Bool) (cs : List Char) : Except AddressFault Unit := do
  let authority := cs.takeWhile (!endsAuthority ·)
  let rest := cs.drop authority.length
  checkAuthority authority
  if hasScheme then
    if authority.isEmpty then throw .invalidFormat else checkTarget rest
  else if !rest.isEmpty then throw .invalidFormat

/-- Check an address. -/
def check (s : String) : Except AddressFault Unit :=
  if 65534 < s.utf8ByteSize then .error .tooLong else
  match s.toList with
  | [] => .error .empty
  | ['*'] => .ok ()
  | '/' :: cs => checkTarget ('/' :: cs)
  | cs => do
    match ← dropScheme? cs with
    | some rest => checkRest true rest
    | none => checkRest false cs

def isValid (s : String) : Bool := (check s).isOk

example : isValid "https://127.0.0.1:6443" = true ∧ isValid "host:80" = true ∧
    isValid "https://" = false ∧ isValid "a b" = false ∧ isValid "host:1:2" = false ∧
    isValid "host/path" = false := by decide +kernel

end Address

end AppServiceOperator.Connection
