import Endpoint.Text.Utf8

/-!
# Request targets

The target of a request is a path with an optional query, and may be preceded by a scheme
and an authority.  A fragment is dropped.
-/

namespace Endpoint

/-- The path and the query of a request target. -/
structure Uri where
  path : String
  query : Option String
  deriving DecidableEq, Repr

namespace Uri

/-- Characters that a path may hold as they are. -/
def isPathChar (c : Char) : Bool :=
  let n := c.toNat
  n == 0x21 || n == 0x22 || (decide (0x24 ≤ n) && decide (n ≤ 0x3B)) || n == 0x3D
    || (decide (0x40 ≤ n) && decide (n ≤ 0x5F)) || decide (0x61 ≤ n)

/-- Characters that a query may hold as they are. -/
def isQueryChar (c : Char) : Bool :=
  let n := c.toNat
  n == 0x21 || (decide (0x24 ≤ n) && decide (n ≤ 0x3B)) || n == 0x3D || decide (0x3F ≤ n)

/-- Reads a path and a query; an empty path means the root. -/
def ofPathAndQuery? (s : List Char) : Option Uri :=
  let whole := s.takeWhile (· != '#')
  let path := whole.takeWhile (· != '?')
  let query := (whole.dropWhile (· != '?')).drop 1
  if path.all isPathChar && query.all isQueryChar then
    some ⟨if path.isEmpty then "/" else String.ofList path,
      if whole.contains '?' then some (String.ofList query) else none⟩
  else none

/-- How many colons may stand together in one part of an authority. -/
def colonLimit : Nat := 8

/-- How far an authority has been read: the colons since the last user part, whether a bracket
    was opened and closed, whether there is a percent sign since the last user part, and
    whether the last character ended a user part. -/
structure AuthorityState where
  colons : Nat
  opened : Bool
  closed : Bool
  percent : Bool
  afterUser : Bool

namespace AuthorityState

def start : AuthorityState := ⟨0, false, false, false, false⟩

/-- Reads one character. -/
def read? (s : AuthorityState) (c : Char) : Option AuthorityState :=
  let s' := { s with afterUser := false }
  match c with
  | ':' => if s.colons < colonLimit then some { s' with colons := s.colons + 1 } else none
  | '[' => if s.percent || s.opened then none else some { s' with opened := true }
  | ']' =>
    if !s.opened || s.closed then none
    else some { s' with closed := true, colons := 0, percent := false }
  | '@' => some { s' with colons := 0, percent := false, afterUser := true }
  | '%' => some { s' with percent := true }
  | c => if c.isAlphanum || "-._~!$&'()*+,;=".toList.contains c then some s' else none

/-- Whether an authority may end here. -/
def complete (s : AuthorityState) : Bool :=
  s.opened == s.closed && decide (s.colons ≤ 1) && !s.percent && !s.afterUser

end AuthorityState

/-- Whether some characters are an authority: a host with perhaps a user part before it and
    perhaps a port after it. -/
def isAuthority (s : List Char) : Bool :=
  !s.isEmpty && ((s.foldlM AuthorityState.read? .start).map AuthorityState.complete).getD false

/-- Characters of a scheme. -/
def isSchemeChar (c : Char) : Bool := c.isAlphanum || "+-.~".toList.contains c

/-- The part of a target that follows its scheme, if it has one; the scheme may be empty. -/
def afterScheme? (s : List Char) : Option (List Char) :=
  let scheme := s.takeWhile isSchemeChar
  let rest := s.drop scheme.length
  if scheme.length ≤ 64 ∧ "://".toList.isPrefixOf rest then some (rest.drop 3) else none

/-- Reads a request target.  An authority alone has an empty path. -/
def ofText? (text : String) : Option Uri :=
  match text.toList with
  | [] => none
  | ['*'] => some ⟨"*", none⟩
  | '/' :: rest => ofPathAndQuery? ('/' :: rest)
  | s =>
    match afterScheme? s with
    | none => if isAuthority s then some ⟨"", none⟩ else none
    | some rest =>
      let isHostChar (c : Char) : Bool := c != '/' && c != '?' && c != '#'
      if isAuthority (rest.takeWhile isHostChar) then ofPathAndQuery? (rest.dropWhile isHostChar)
      else none

end Uri

end Endpoint
