/-
**Request targets.**

A request names its target as a path with an optional query, as a whole address, as an authority
alone, or as a star.  Whatever follows a number sign is dropped.  A target without a path has the
path of a single slash if it has a scheme, and the empty path otherwise.

Main definitions:

* `Http.Target`;
* `Http.Target.ofText?` — the target that a text writes.
-/

import RevocationLab.Octets

set_option autoImplicit false

namespace RevocationLab

namespace Http

/-- A path with an optional query. -/
structure Target where
  path : String
  query : Option String
  deriving DecidableEq, Repr

namespace Target

/-- The most octets of a target. -/
def maxLength : Nat := 65534

/-! ### Paths and queries -/

/-- Whether a character may stand in a path. -/
def isPathChar (c : Char) : Bool :=
  '!' ≤ c && c ≠ '<' && c ≠ '>' && c ≠ '`' && c ≠ '#' && c ≠ '?'

/-- Whether a character may stand in a query. -/
def isQueryChar (c : Char) : Bool :=
  '!' ≤ c && c ≠ '<' && c ≠ '>' && c ≠ '"' && c ≠ '#'

/-- The path and the query of a text; an empty path is a slash. -/
def pathAndQuery? (s : List Char) : Option Target :=
  let path := s.takeWhile isPathChar
  let text := if path = [] then "/" else String.ofList path
  match s.dropWhile isPathChar with
  | [] => some ⟨text, none⟩
  | '#' :: _ => some ⟨text, none⟩
  | '?' :: r =>
      match r.dropWhile isQueryChar with
      | [] => some ⟨text, some (String.ofList (r.takeWhile isQueryChar))⟩
      | '#' :: _ => some ⟨text, some (String.ofList (r.takeWhile isQueryChar))⟩
      | _ => none
  | _ => none

/-! ### Schemes -/

/-- Whether a character may stand in a scheme. -/
def isSchemeChar (c : Char) : Bool := c.isAlphanum || "+-.".toList.contains c

/-- The number of characters of the scheme in front of a text, when a colon and two slashes follow
it. -/
def schemeLength? (s : List Char) : Option Nat :=
  match s.dropWhile isSchemeChar with
  | ':' :: '/' :: '/' :: _ => some (s.takeWhile isSchemeChar).length
  | _ => none

/-! ### Authorities -/

/-- Whether a character may stand in an authority, besides the percent sign. -/
def isAuthorityChar (c : Char) : Bool :=
  c.isAlphanum || "!$&'()*+,-.:;=@[]_~".toList.contains c

/-- What has been seen of an authority. -/
structure Seen where
  colons : Nat := 0
  opened : Bool := false
  closed : Bool := false
  percent : Bool := false
  endsInAt : Bool := false

/-- What has been seen after one more character. -/
def Seen.step (s : Seen) (c : Char) : Option Seen :=
  let s := { s with endsInAt := false }
  if c = '%' then some { s with percent := true }
  else if ¬ isAuthorityChar c then none
  else if c = ':' then if s.colons < 8 then some { s with colons := s.colons + 1 } else none
  else if c = '[' then if s.percent || s.opened then none else some { s with opened := true }
  else if c = ']' then
    if !s.opened || s.closed then none else some { s with closed := true, colons := 0, percent := false }
  else if c = '@' then some { s with endsInAt := true, colons := 0, percent := false }
  else some s

/-- Whether a text is an authority: brackets in a pair, at most one colon after them and after the
last at sign, nothing escaped there, and something behind the at sign. -/
def isAuthority (s : List Char) : Bool :=
  match s.foldlM Seen.step {} with
  | some seen => seen.opened == seen.closed && seen.colons ≤ 1 && !seen.endsInAt && !seen.percent
  | none => false

/-- Whether a character ends an authority. -/
def endsAuthority (c : Char) : Bool := c == '/' || c == '?' || c == '#'

/-! ### Targets -/

/-- The target of a text that does not start with a slash. -/
def full? (s : List Char) : Option Target :=
  match schemeLength? s with
  | some n =>
      let rest := s.drop (n + 3)
      let authority := rest.takeWhile fun c => !endsAuthority c
      if 64 < n ∨ authority = [] ∨ ¬ isAuthority authority then none
      else pathAndQuery? (rest.dropWhile fun c => !endsAuthority c)
  | none => if !s.any endsAuthority && isAuthority s then some ⟨"", none⟩ else none

/-- The target that a text writes. -/
def ofText? (text : String) : Option Target :=
  let s := text.toList
  if maxLength < text.utf8ByteSize then none
  else match s with
    | [] => none
    | ['*'] => some ⟨"*", none⟩
    | '/' :: _ => pathAndQuery? s
    | _ => full? s

end Target

end Http

end RevocationLab
