/-
**Methods.**

A method is a token.  Only two methods have a meaning here, and their tokens are known in any letter
case.

Main definitions:

* `Http.Method`, `Http.Method.ofOctets?`;
* `Http.Method.known?` — the method with a meaning that a token names.
-/

import RevocationLab.Http.Header

set_option autoImplicit false

namespace RevocationLab

namespace Http

/-- A method by its token. -/
structure Method where
  token : String
  deriving DecidableEq, Repr

/-- The methods with a meaning. -/
inductive KnownMethod where
  | get
  | post
  deriving DecidableEq, Repr

namespace Method

/-- The method with a token of ASCII characters. -/
def ofOctets? (b : Octets) : Option Method :=
  let chars := b.map fun x => Char.ofNat x.toNat
  if chars ≠ [] ∧ chars.all isTokenChar then some ⟨String.ofList chars⟩ else none

/-- The method with a meaning that the token names, in any letter case. -/
def known? (m : Method) : Option KnownMethod :=
  if Ascii.eqIgnoreCase m.token.toList "GET".toList then some .get
  else if Ascii.eqIgnoreCase m.token.toList "POST".toList then some .post
  else none

end Method

end Http

end RevocationLab
