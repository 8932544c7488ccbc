/-
**Responses.**

A response is built from a status and headers, and then closed with a body whose length is declared.

Main definitions:

* `Http.Response`, `Http.Response.empty`;
* `Http.BuildError` — why a message could not be built;
* `Http.ResponseHead`, `Http.ResponseHead.build` — a status with headers;
* `Http.ResponseHead.withBody` — the response with a body and its length.
-/

import RevocationLab.Http.Header

set_option autoImplicit false

namespace RevocationLab

namespace Http

/-! ### Responses -/

/-- A complete response. -/
structure Response where
  status : Nat
  headers : Headers
  body : Octets
  deriving DecidableEq, Repr

/-- Whether a number is a status. -/
def isStatus (n : Nat) : Bool := 100 ≤ n && n < 1000

/-- The header that declares a length. -/
def lengthHeader (n : Nat) : Header := ⟨"content-length", Octets.ofText (toString n)⟩

/-- The response without a body that declares the length zero. -/
def Response.empty (status : Nat) : Response := ⟨status, [lengthHeader 0], []⟩

/-! ### Building -/

/-- Why a message could not be built. -/
inductive BuildError where
  | status
  | header (cause : HeaderError)
  | method
  deriving DecidableEq, Repr

/-- The text of an error. -/
def BuildError.message : BuildError → String
  | status => "invalid status code"
  | header cause => cause.message
  | method => "invalid HTTP method"

/-- A status with headers. -/
structure ResponseHead where
  status : Nat
  headers : Headers
  deriving DecidableEq, Repr

namespace ResponseHead

/-- The head with this status and these headers in order; the first mistake counts. -/
def build (status : Nat) (headers : List (String × String)) : Except BuildError ResponseHead :=
  if isStatus status then
    match headers.mapM fun h => Header.ofText h.1 h.2 with
    | .ok hs => .ok ⟨status, hs⟩
    | .error e => .error (.header e)
  else .error .status

/-- The response with this body; its length is declared after the other headers. -/
def withBody (head : ResponseHead) (body : Octets) : Response :=
  ⟨head.status, head.headers ++ [lengthHeader body.length], body⟩

end ResponseHead

end Http

end RevocationLab
