/-
**Headers.**

A header is a lowercase token with a value of octets.  A message keeps its headers in the order in
which they were added, and may hold several of one name.

Main definitions:

* `Http.isTokenChar` — the characters of methods and header names;
* `Http.Header`, `Http.Headers`, `Http.Header.ofText`;
* `Http.Headers.contentLength?` — the declared length of a body;
* `Http.Headers.requestId?` — the identifier of a request.
-/

import RevocationLab.Text.Ascii

set_option autoImplicit false

namespace RevocationLab

namespace Http

/-! ### Tokens -/

/-- The characters of a token. -/
def isTokenChar (c : Char) : Bool :=
  c.isAlphanum || "!#$%&'*+-.^_`|~".toList.contains c

/-- The most characters of a header name. -/
def maxHeaderName : Nat := 65535

/-- Whether an octet may occur in a header value: anything but control characters, of which the tab
is allowed. -/
def isValueOctet (b : UInt8) : Bool :=
  b == 9 || (32 ≤ b && b != 127)

/-! ### Headers -/

/-- A lowercase name with a value. -/
structure Header where
  name : String
  value : Octets
  deriving DecidableEq, Repr

/-- Headers in the order in which they were added. -/
abbrev Headers := List Header

/-- Why a header could not be built. -/
inductive HeaderError where
  | name
  | value
  deriving DecidableEq, Repr

/-- The text of an error. -/
def HeaderError.message : HeaderError → String
  | name => "invalid HTTP header name"
  | value => "failed to parse header value"

/-- The header with this name, in any letter case, and the UTF-8 octets of this value. -/
def Header.ofText (name value : String) : Except HeaderError Header :=
  let chars := name.toList
  if chars = [] ∨ ¬ chars.all isTokenChar ∨ maxHeaderName < chars.length then .error .name
  else
    let octets := Octets.ofText value
    if octets.all isValueOctet then .ok ⟨Ascii.lowercase name, octets⟩ else .error .value

/-! ### Looking up -/

namespace Headers

/-- The value of the first header with this name. -/
def get? (hs : Headers) (name : String) : Option Octets :=
  (hs.find? fun h => h.name == name).map Header.value

/-- The value of the first header with this name, as visible text. -/
def text? (hs : Headers) (name : String) : Option (List Char) :=
  hs.get? name >>= Ascii.visible?

/-- The declared length of the body: a decimal number between blanks. -/
def contentLength? (hs : Headers) : Option Nat := do
  Ascii.word64? (Ascii.trim (← hs.text? "content-length"))

/-- The identifier of a request. -/
def requestId? (hs : Headers) : Option String :=
  (hs.text? "x-request-id").map String.ofList

end Headers

end Http

end RevocationLab
