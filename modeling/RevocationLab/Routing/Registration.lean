/-
**Registrations.**

A registration is a claim on one entry of a table.  Giving it up removes the entry that it made, and
nothing that came after it.

Main definitions:

* `Routing.RegistrationError`;
* `Routing.Registration`, `Routing.Registration.toText`;
* `Routing.Registration.isActive`, `Routing.Registration.release`.
-/

import RevocationLab.Routing.Table
import RevocationLab.Text.Quoted

set_option autoImplicit false

namespace RevocationLab

namespace Routing

/-- A path that no request can reach. -/
structure RegistrationError where
  path : String
  deriving DecidableEq, Repr

/-- The text of an error. -/
def RegistrationError.message (e : RegistrationError) : String :=
  "responder path " ++ Quoted.text e.path
    ++ " is not a single-segment routing key of the form /segment/"

/-- A claim on the entry of a number under a path. -/
structure Registration where
  path : String
  id : Nat
  deriving DecidableEq, Repr

namespace Registration

/-- Whether the entry is still there. -/
def isActive {α : Type} (r : Registration) (t : Table α) : Bool := t.isCurrent r.path r.id

/-- The table once the claim is given up: without the entry, if it is still there. -/
def release {α : Type} (r : Registration) (t : Table α) : Table α := t.remove r.path r.id

/-- The text of a registration. -/
def toText (r : Registration) : String :=
  "Registration \x7b path: " ++ Quoted.text r.path ++ ", id: " ++ toString r.id ++ " \x7d"

end Registration

end Routing

end RevocationLab
