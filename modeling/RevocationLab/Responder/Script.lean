/-
**Scripted responders.**

For trying out a dispatcher there are responders that do what they are told: answer with a text or
with how often they were called, fail, break off, give a body back, or describe the request.

Main definitions:

* `Responder.Script`, `Responder.Script.respond`.
-/

import RevocationLab.Http.Request
import RevocationLab.Responder.Outcome
import RevocationLab.Text.Json

set_option autoImplicit false

namespace RevocationLab

namespace Responder

/-- What a scripted responder does. -/
inductive Script where
  | text (status : Nat) (headers : List (String × String)) (content : String)
  | count
  | fail (cause : Failure)
  | stop (payload : Break)
  | echo
  | inspect
  deriving DecidableEq, Repr

namespace Script

/-- A text as the body of a response. -/
def plain (status : Nat) (text : String) : Outcome :=
  .response (Http.ResponseHead.withBody ⟨status, []⟩ (Octets.ofText text))

/-- What is said about a body that could not be read. -/
def readErrorText (cause : Http.ReadError) : String :=
  Json.object [("client_error", .bool cause.isClientError), ("error", .text cause.kind),
    ("message", .text cause.message)]

/-- The name of a method with a meaning. -/
def className : Http.KnownMethod → String
  | .get => "get"
  | .post => "post"

/-- What is said about a request. -/
def requestText (request : Http.Request) : String :=
  Json.object [("class", .ofText? (request.method.known?.map className)),
    ("has_request_id", .bool request.headers.requestId?.isSome),
    ("limit", .ofNat? request.limit), ("method", .text request.method.token),
    ("path", .text request.target.path), ("query", .ofText? request.target.query)]

/-- What comes of a request; `calls` is the number of calls with this one. -/
def respond (script : Script) (calls : Nat) (request : Http.Request) : Outcome :=
  match script with
  | text status headers content =>
      match Http.ResponseHead.build status headers with
      | .ok head => .response (head.withBody (Octets.ofText content))
      | .error cause => .failure (.response cause)
  | count => plain 200 (toString calls)
  | fail cause => .failure cause
  | stop payload => .broken payload
  | echo =>
      match request.read with
      | .ok body => .response (Http.ResponseHead.withBody ⟨200, []⟩ body)
      | .error (.transport cause) => .failure (.body cause)
      | .error cause => plain 400 (readErrorText cause)
  | inspect => plain 200 (requestText request)

end Script

end Responder

end RevocationLab
