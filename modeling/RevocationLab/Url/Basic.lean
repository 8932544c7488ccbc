/-
**URLs.**

A URL has a scheme, perhaps an authority with a host, a path, and perhaps a query and a fragment.
The path is a list of segments, or, for a scheme without hierarchy, an opaque text.

Main definitions:

* `Url`, `Url.Authority`, `Url.Path`;
* `Url.path` — the text of the path;
* `Url.toText` — the text of a URL.
-/

import RevocationLab.Url.Host

set_option autoImplicit false

namespace RevocationLab

namespace Url

/-! ### Parts -/

/-- A host with what stands around it. -/
structure Authority where
  user : String := ""
  password : Option String := none
  host : String
  port : Option Nat := none
  deriving DecidableEq, Repr

/-- The text of an authority. -/
def Authority.toText (a : Authority) : String :=
  let password := (a.password.map fun p => ":" ++ p).getD ""
  let userInfo := if a.user = "" ∧ a.password = none then "" else a.user ++ password ++ "@"
  userInfo ++ a.host ++ (a.port.map fun p => ":" ++ toString p).getD ""

/-- The way to a resource. -/
inductive Path where
  | opaqueText (text : String)
  | segments (list : List String)
  deriving DecidableEq, Repr

/-- The text of a path: a slash in front of each segment. -/
def Path.toText : Path → String
  | opaqueText text => text
  | segments list => String.join (list.map fun s => "/" ++ s)

/-! ### Schemes -/

/-- How a scheme is read. -/
inductive SchemeKind where
  | file
  | special
  | other
  deriving DecidableEq, Repr

/-- The kind of a scheme. -/
def schemeKind (scheme : String) : SchemeKind :=
  if scheme = "file" then .file
  else if ["http", "https", "ws", "wss", "ftp"].contains scheme then .special
  else .other

/-- Whether a backslash is a slash and the path is never empty. -/
def SchemeKind.isSpecial : SchemeKind → Bool
  | other => false
  | _ => true

/-- The port that a scheme has anyway. -/
def defaultPort? (scheme : String) : Option Nat :=
  if scheme = "http" ∨ scheme = "ws" then some 80
  else if scheme = "https" ∨ scheme = "wss" then some 443
  else if scheme = "ftp" then some 21
  else none

end Url

/-- A parsed URL. -/
structure Url where
  scheme : String
  authority : Option Url.Authority
  location : Url.Path
  query : Option String
  fragment : Option String
  deriving DecidableEq, Repr

namespace Url

/-- The text of the path. -/
def path (u : Url) : String := u.location.toText

/-- Whether the path is opaque, so that nothing can be joined to it. -/
def isOpaque (u : Url) : Bool :=
  match u.location with
  | .opaqueText _ => true
  | .segments _ => false

/-- The text of a URL.  A path of empty segments without an authority is kept apart from one. -/
def toText (u : Url) : String :=
  let front := match u.authority with
    | some a => "//" ++ a.toText
    | none =>
        match u.location with
        | .segments ("" :: _ :: _) => "/."
        | _ => ""
  u.scheme ++ ":" ++ front ++ u.path ++ (u.query.map fun q => "?" ++ q).getD ""
    ++ (u.fragment.map fun f => "#" ++ f).getD ""

end Url

end RevocationLab
