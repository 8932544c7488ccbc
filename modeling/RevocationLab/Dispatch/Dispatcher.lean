/-
**Dispatching.**

A request is given to the responder under the key of its path.  Without one it is answered with an
empty response of status 404; that is no fault.  A fault is observed, counted and logged before the
policy decides whether it becomes an empty response of status 500 or reaches the connection.

The dispatcher asks the table once, and a responder once: a responder is a function of the request
and of a state that the dispatcher hands on.

Main definitions:

* `Dispatch.Desk` — what is written down while requests are handled;
* `Dispatch.Dispatcher`, `Dispatch.Dispatcher.dispatch`.
-/

import RevocationLab.Dispatch.Fault
import RevocationLab.Http.Request
import RevocationLab.Metrics
import RevocationLab.Routing.Table
import RevocationLab.Settings.Basic

set_option autoImplicit false

namespace RevocationLab

namespace Dispatch

/-! ### The desk -/

/-- What is written down: counts, the faults that were observed, and events. -/
structure Desk where
  metrics : Metrics := {}
  faults : List Fault := []
  log : List Log.Event := []
  deriving DecidableEq, Repr

namespace Desk

/-- One more event. -/
def note (d : Desk) (e : Log.Event) : Desk := { d with log := d.log ++ [e] }

/-- Some more events. -/
def noteAll (d : Desk) (es : List Log.Event) : Desk := { d with log := d.log ++ es }

/-- One more fault, observed, logged and counted. -/
def observe (d : Desk) (f : Fault) : Desk :=
  { metrics := d.metrics.recordFault f.route f.kind
    faults := d.faults ++ [f]
    log := d.log ++ [Log.event .error "http::fault" "Responder fault"
      [("route", f.route), ("kind", f.kind), ("error", f.message)]] }

/-- One more answered request. -/
def answered (d : Desk) (route : String) (status : Nat) : Desk :=
  { d with metrics := d.metrics.recordRequest route status }

/-- One more request without a route. -/
def missed (d : Desk) (requestId : String) (request : Http.Request) : Desk :=
  { d with
    metrics := d.metrics.recordMiss
    log := d.log ++ [Log.event .warn "http::dispatch" "No responder registered"
      [("request_id", requestId), ("method", request.method.token),
        ("path", request.target.path)]] }

/-- One more request that goes to a responder. -/
def routed (d : Desk) (requestId route : String) (request : Http.Request) : Desk :=
  d.note (Log.event .debug "http::dispatch" "Dispatching request"
    [("request_id", requestId), ("method", request.method.token), ("route", route)])

end Desk

/-! ### The dispatcher -/

/-- What a dispatcher is set to: what happens after a fault, and the most octets of a body. -/
structure Dispatcher where
  policy : Settings.FaultPolicy
  maxBodyBytes : Nat
  deriving DecidableEq, Repr

/-- The answer to a request, and what is left behind. -/
structure Dispatched (σ : Type) where
  answer : Except Fault Http.Response
  state : σ
  desk : Desk

namespace Dispatcher

/-- The dispatcher of some settings. -/
def ofSettings (s : Settings.Dispatch) : Dispatcher := ⟨s.faultPolicy, s.maxBodyBytes⟩

/-- What becomes of an outcome at a route. -/
def settle (d : Dispatcher) (route : String) (outcome : Responder.Outcome) (desk : Desk) :
    Except Fault Http.Response × Desk :=
  match Fault.ofOutcome route outcome with
  | .ok r => (.ok r, desk.answered route r.status)
  | .error fault =>
      let desk := desk.observe fault
      match d.policy with
      | .dropConnection => (.error fault, desk)
      | .internalServerError => (.ok (Http.Response.empty 500), desk.answered route 500)

/-- Handles one request. -/
def dispatch {α σ : Type} (d : Dispatcher) (routes : Routing.Table α)
    (respond : α → Http.Request → σ → Responder.Reply × σ) (request : Http.Request) (state : σ)
    (desk : Desk) : Dispatched σ :=
  let requestId := request.headers.requestId?.getD "unknown"
  match routes.lookup? request.target.path with
  | none => ⟨.ok (Http.Response.empty 404), state, desk.missed requestId request⟩
  | some (route, responder) =>
      let desk := desk.routed requestId route request
      let (reply, state) := respond responder { request with limit := some d.maxBodyBytes } state
      let (answer, desk) := d.settle route reply.outcome (desk.noteAll reply.events)
      ⟨answer, state, desk⟩

end Dispatcher

end Dispatch

end RevocationLab
