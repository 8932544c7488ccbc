/-
**Requests in a path.**

A request may travel as the last part of a path, in base64.  The slashes of that text may be written
as they are or escaped, with the escape's letter in either case; both are read alike, and no other
escape is undone.

Main definitions:

* `Ocsp.Segment.normalize` — the text with its slashes unescaped;
* `Ocsp.Segment.decode?` — the octets of a segment that is not empty;
* `Ocsp.Segment.encode` — the segment of a string of octets;
* `Ocsp.isRequestContentType` — the content type of a request that travels as a body.
-/

import RevocationLab.Base64
import RevocationLab.Text.Ascii

set_option autoImplicit false

namespace RevocationLab

namespace Ocsp

namespace Segment

/-! ### Slashes -/

/-- The text with each escape that ends in `last` replaced by a slash. -/
def unescape (last : Char) : List Char → List Char
  | '%' :: '2' :: c :: r =>
      if c = last then '/' :: unescape last r else '%' :: unescape last ('2' :: c :: r)
  | c :: r => c :: unescape last r
  | [] => []

/-- The text with its slashes unescaped: first the escapes with a capital letter, then the others. -/
def normalizeChars (s : List Char) : List Char :=
  unescape 'f' (unescape 'F' s)

/-- The text with each slash escaped. -/
def escape (s : List Char) : List Char :=
  s.flatMap fun c => if c = '/' then ['%', '2', 'F'] else [c]

/-! ### Segments -/

/-- The segment with its slashes unescaped. -/
def normalize (s : String) : String := String.ofList (normalizeChars s.toList)

/-- The octets of a segment; an empty segment has none. -/
def decode? (s : String) : Option Octets :=
  if s.toList = [] then none else Base64.decode? (normalizeChars s.toList)

/-- The segment of a string of octets, with its slashes escaped if `escaped` is set. -/
def encode (b : Octets) (escaped : Bool) : String :=
  String.ofList (if escaped then escape (Base64.encode b) else Base64.encode b)

end Segment

/-! ### Content types -/

/-- The content type of a request. -/
def requestContentType : String := "application/ocsp-request"

/-- The content type of a response. -/
def responseContentType : String := "application/ocsp-response"

/-- Whether a content type is that of a request, in any letter case. -/
def isRequestContentType (value : List Char) : Bool :=
  Ascii.eqIgnoreCase value requestContentType.toList

end Ocsp

end RevocationLab
