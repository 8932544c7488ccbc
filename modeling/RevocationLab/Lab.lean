/-
**The laboratory.**

Everything that the authorities, the routes and the dispatcher share: each operation changes one part
and writes down what happened.

Main definitions:

* `Lab`;
* `Lab.createRoot`, `Lab.createIntermediate`, `Lab.issue`, `Lab.revoke`;
* `Lab.insertRoute`, `Lab.register`, `Lab.release`, `Lab.closeRoutes`;
* `Lab.dispatch`, `Lab.ask`.
-/

import RevocationLab.Dispatch.Dispatcher
import RevocationLab.Responder.Basic
import RevocationLab.Routing.Registration

set_option autoImplicit false

namespace RevocationLab

open Routing

/-- Authorities, routes, calls of scripted responders, and what is written down.  `routesGone` tells
that the table of routes is gone together with its server. -/
structure Lab where
  authorities : Authority.Registry := {}
  routes : Table Responder := {}
  routesGone : Bool := false
  calls : Responder.Calls := []
  desk : Dispatch.Desk := {}

namespace Lab

/-- One more event. -/
def note (l : Lab) (level : Log.Level) (part message : String) (fields : List (String × String)) :
    Lab :=
  { l with desk := l.desk.note (Log.event level part message fields) }

/-! ### Authorities -/

/-- The text of the identifier of the authority at a place. -/
def idText (l : Lab) (place : Nat) : String :=
  ((l.authorities.get? place).map fun a => a.id.toText).getD ""

/-- The text of the name of the authority at a place. -/
def subjectText (l : Lab) (place : Nat) : String :=
  ((l.authorities.get? place).map fun a => a.subject.toText).getD ""

/-- Makes an authority that certifies itself. -/
def createRoot (l : Lab) (base : Url) (plan : Authority.Plan) (draws : Authority.Draws)
    (now : Instant) : Lab × Except Authority.Error Nat :=
  let (authorities, result) := l.authorities.createRoot base plan draws now
  let l := { l with authorities }
  match result with
  | .error e => (l, .error e)
  | .ok place =>
      (l.note .info "pki::authority" "Root authority created"
        [("authority", l.idText place), ("subject", l.subjectText place)], .ok place)

/-- Makes an authority that another one certifies. -/
def createIntermediate (l : Lab) (parent : Nat) (plan : Authority.Plan) (draws : Authority.Draws)
    (now : Instant) : Lab × Except Authority.Error Nat :=
  let (authorities, result) := l.authorities.createIntermediate parent plan draws now
  let l := { l with authorities }
  match result with
  | .error e => (l, .error e)
  | .ok place =>
      (l.note .info "pki::authority" "Intermediate authority created"
        [("authority", l.idText place), ("parent", l.idText parent),
          ("subject", l.subjectText place)], .ok place)

/-- Issues a certificate for a key. -/
def issue (l : Lab) (place : Nat) (commonName : String) (key : X509.PublicKeyInfo) (draw : Octets)
    (now : Instant) : Lab × Except Authority.Error X509.Certificate :=
  let (authorities, result) := l.authorities.issue place commonName key draw now
  let l := { l with authorities }
  match result with
  | .error e => (l, .error e)
  | .ok certificate =>
      (l.note .debug "pki::authority" "Certificate issued"
        [("authority", l.idText place), ("serial", certificate.body.serial.toHex)],
        .ok certificate)

/-- The text of a reason in an event. -/
def reasonText : Option Ocsp.Reason → String
  | some r => "Some(" ++ r.name ++ ")"
  | none => "None"

/-- Marks a certificate revoked as of now. -/
def revoke (l : Lab) (place : Nat) (serial : X509.SerialNumber) (reason : Option Ocsp.Reason)
    (now : Instant) : Lab × Except Authority.Error Unit :=
  let (authorities, result) := l.authorities.revoke place serial reason now
  let l := { l with authorities }
  match result with
  | .error e => (l, .error e)
  | .ok () =>
      (l.note .info "pki::authority" "Certificate revoked"
        [("authority", l.idText place), ("serial", serial.toHex), ("reason", reasonText reason)],
        .ok ())

/-! ### Routes -/

/-- Puts a responder under a key, and gives the number of the entry. -/
def insertRoute (l : Lab) (key : String) (r : Responder) : Lab × Nat :=
  let (id, routes) := l.routes.insert key r
  let before := l.routes.get? key
  let l := { l with routes }
  match before with
  | none => (l, id)
  | some e =>
      (l.note .debug "routing::router" "Route overwritten"
        [("path", key), ("replaced", toString e.id), ("entry", toString id)], id)

/-- Reports the number of routes. -/
def publishSize (l : Lab) : Lab :=
  { l with desk := { l.desk with metrics := l.desk.metrics.setRegistered l.routes.size } }

/-- Registers a responder under the path of its address, which has to be a key. -/
def register (l : Lab) (r : Responder) : Lab × Except RegistrationError Registration :=
  let path := r.url.path
  if isKey path then
    let (l, id) := l.insertRoute path r
    (l.publishSize.note .debug "http::server" "Responder registered"
      [("path", path), ("entry", toString id)], .ok ⟨path, id⟩)
  else (l, .error ⟨path⟩)

/-- Whether a registration still has its route. -/
def isActive (l : Lab) (r : Registration) : Bool := !l.routesGone && r.isActive l.routes

/-- Gives a registration up. -/
def release (l : Lab) (r : Registration) : Lab :=
  if l.routesGone then l
  else
    let message :=
      if r.isActive l.routes then "Responder unregistered" else "Registration already superseded"
    let l := { l with routes := r.release l.routes }
    (l.note .debug "routing::router" message
      [("path", r.path), ("entry", toString r.id)]).publishSize

/-- The laboratory once its table of routes is gone. -/
def closeRoutes (l : Lab) : Lab := { l with routes := {}, routesGone := true }

/-! ### Requests -/

/-- Handles a request through the dispatcher. -/
def dispatch (l : Lab) (d : Dispatch.Dispatcher) (request : Http.Request) (now : Instant) :
    Lab × Except Dispatch.Fault Http.Response :=
  let done := d.dispatch l.routes (Responder.respond l.authorities now) request l.calls l.desk
  ({ l with calls := done.state, desk := done.desk }, done.answer)

/-- Gives a request to a responder, past the dispatcher. -/
def ask (l : Lab) (r : Responder) (request : Http.Request) (now : Instant) :
    Lab × Responder.Outcome :=
  let (reply, calls) := r.respond l.authorities now request l.calls
  ({ l with calls, desk := l.desk.noteAll reply.events }, reply.outcome)

end Lab

end RevocationLab
