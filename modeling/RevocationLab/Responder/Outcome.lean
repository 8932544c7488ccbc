/-
**What comes of a request.**

A responder answers with a response, fails for a cause of its own, or breaks off.  Mistakes of the
client are responses; a failure is the responder's.

Main definitions:

* `Responder.Failure`, `Responder.Failure.message`;
* `Responder.Break` — what a responder that breaks off leaves behind;
* `Responder.Outcome`, `Responder.Reply`.
-/

import RevocationLab.Http.Response
import RevocationLab.Log

set_option autoImplicit false

namespace RevocationLab

namespace Responder

/-- Why a responder failed. -/
inductive Failure where
  /-- The transport failed while the body was read. -/
  | body (text : String)
  /-- A value cannot be encoded. -/
  | encoding (text : String)
  /-- There is no algorithm for the key. -/
  | algorithm (text : String)
  /-- A signature could not be made. -/
  | signing (text : String)
  /-- The response could not be built. -/
  | response (cause : Http.BuildError)
  deriving DecidableEq, Repr

/-- The text of a failure. -/
def Failure.message : Failure → String
  | body text => "failed to read request body: " ++ text
  | encoding text => "DER encoding failed: " ++ text
  | algorithm text => "signature algorithm unavailable: " ++ text
  | signing text => "signing failed: " ++ text
  | response cause => "failed to build response: " ++ cause.message

/-- What a responder that breaks off leaves behind. -/
inductive Break where
  | text (message : String)
  | other
  deriving DecidableEq, Repr

/-- The message of a responder that broke off. -/
def Break.message : Break → String
  | text message => message
  | other => "non-string panic payload"

/-- What comes of a request. -/
inductive Outcome where
  | response (r : Http.Response)
  | failure (cause : Failure)
  | broken (payload : Break)
  deriving DecidableEq, Repr

/-- An outcome with what happened on the way. -/
structure Reply where
  outcome : Outcome
  events : List Log.Event := []
  deriving DecidableEq, Repr

end Responder

end RevocationLab
