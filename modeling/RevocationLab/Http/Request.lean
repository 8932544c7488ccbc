/-
**Requests.**

A request has a method, a target, headers and a body, and carries the limit on its body once it has
been dispatched.

Main definitions:

* `Http.Request`;
* `Http.Request.isGet`, `Http.Request.isPost`, `Http.Request.read`.
-/

import RevocationLab.Http.Body
import RevocationLab.Http.Method
import RevocationLab.Http.Target

set_option autoImplicit false

namespace RevocationLab

namespace Http

/-- A request; `limit` is the most octets that its body may have, once that has been decided. -/
structure Request where
  method : Method
  target : Target
  headers : Headers
  body : Body
  limit : Option Nat := none
  deriving DecidableEq, Repr

namespace Request

/-- Whether the method is GET in any letter case. -/
def isGet (r : Request) : Bool := r.method.known? == some .get

/-- Whether the method is POST in any letter case. -/
def isPost (r : Request) : Bool := r.method.known? == some .post

/-- The octets of the body. -/
def read (r : Request) : Except ReadError Octets := readBody r.headers r.limit r.body

end Request

end Http

end RevocationLab
