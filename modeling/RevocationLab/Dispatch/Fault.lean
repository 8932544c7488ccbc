/-
**Faults.**

A fault is a responder that failed, broke off, or was cancelled while it handled a request.

Main definitions:

* `Dispatch.Fault`, `Dispatch.Fault.route`, `Dispatch.Fault.kind`, `Dispatch.Fault.message`;
* `Dispatch.Fault.ofOutcome` — the response, or the fault that an outcome is.
-/

import RevocationLab.Responder.Outcome

set_option autoImplicit false

namespace RevocationLab

namespace Dispatch

/-- A fault at a route. -/
inductive Fault where
  | failed (route : String) (cause : Responder.Failure)
  | broken (route message : String)
  | cancelled (route : String)
  deriving DecidableEq, Repr

namespace Fault

/-- The key of the responder. -/
def route : Fault → String
  | failed route _ => route
  | broken route _ => route
  | cancelled route => route

/-- The kind of a fault. -/
def kind : Fault → String
  | failed _ _ => "error"
  | broken _ _ => "panic"
  | cancelled _ => "cancelled"

/-- The text of a fault. -/
def message : Fault → String
  | failed route cause => "responder at " ++ route ++ " failed: " ++ cause.message
  | broken route message => "responder at " ++ route ++ " panicked: " ++ message
  | cancelled route => "responder task at " ++ route ++ " was cancelled"

/-- Whether the fault has a cause of its own. -/
def hasCause : Fault → Bool
  | failed _ _ => true
  | _ => false

/-- The response of an outcome, or the fault that it is. -/
def ofOutcome (route : String) : Responder.Outcome → Except Fault Http.Response
  | .response r => .ok r
  | .failure cause => .error (failed route cause)
  | .broken payload => .error (broken route payload.message)

end Fault

end Dispatch

end RevocationLab
