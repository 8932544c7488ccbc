/-
**The server.**

A server listens, dispatches the requests of its connections, and stops when it is told to.  Stopping
ends the accept loop and waits for the connections; doing so again changes nothing.

Main definitions:

* `Server`, `Server.start`;
* `Server.stop`, `Server.drop`;
* `Server.baseText`, `Server.base?`, `Server.toText`.
-/

import RevocationLab.Connection.AcceptLoop
import RevocationLab.Lab
import RevocationLab.Shutdown

set_option autoImplicit false

namespace RevocationLab

open Connection

/-- A server; `joined` tells that the end of the accept loop has been waited for. -/
structure Server where
  loop : AcceptLoop
  shutdown : Shutdown
  dispatcher : Dispatch.Dispatcher
  joined : Bool := false

namespace Server

/-! ### Addresses -/

/-- The text of the address that the server listens at. -/
def addressText (s : Server) : String := s.loop.listener.address.toText

/-- The text of the address under which the responders of the server lie. -/
def baseText (s : Server) : String := "http://" ++ s.addressText ++ "/"

/-- The address under which the responders of the server lie. -/
def base? (s : Server) : Option Url := (Url.parse s.baseText).toOption

/-- The text of a server. -/
def toText (s : Server) (l : Lab) : String :=
  "DispatchServer \x7b local_addr: " ++ s.addressText ++ ", routes: " ++ toString l.routes.size
    ++ ", stopped: " ++ (if s.shutdown.triggered then "true" else "false") ++ " \x7d"

/-! ### Starting and stopping -/

/-- A server with some settings.  `freePort` is the port that is given where they ask for any. -/
def start (settings : Settings) (freePort : Nat) (l : Lab) : Except BindError (Server × Lab) := do
  let listener ← Listener.bind settings.listener freePort
  let address := listener.address.toText
  let loop : AcceptLoop := { listener }
  let server : Server :=
    { loop := (loop.step? .wait).getD loop
      shutdown := (Shutdown.subscribe {}).2
      dispatcher := .ofSettings settings.dispatch }
  let l := l.note .info "net::listener" "Listener bound"
    [("address", address), ("max_connections", toString listener.maxConnections)]
  let l := l.note .info "http::server" "Dispatch server started"
    [("address", address), ("fault_policy", settings.dispatch.faultPolicy.title)]
  return (server, l)

/-- The server and the laboratory after the accept loop has ended, if it had not before. -/
def endLoop (s : Server) (l : Lab) : Server × Lab :=
  match s.loop.step? .stop with
  | some loop =>
      ({ s with loop, shutdown := s.shutdown.unsubscribe 0 },
        l.note .debug "http::server" "Accept loop stopped"
          [("address", s.addressText),
            ("open", toString (loop.serving.length + loop.leaving.length))])
  | none => (s, l)

/-- Stops accepting and waits until that has taken effect. -/
def stop (s : Server) (l : Lab) : Server × Lab :=
  let (first, shutdown) := s.shutdown.trigger
  let s := { s with shutdown }
  let l :=
    if first then
      l.note .info "http::server" "Dispatch server stopping" [("address", s.addressText)]
    else l
  if s.joined then (s, l)
  else
    let (s, l) := s.endLoop l
    ({ s with joined := true },
      l.note .info "http::server" "Dispatch server stopped" [("address", s.addressText)])

/-- The laboratory after the server is gone together with its routes. -/
def drop (s : Server) (l : Lab) : Lab := (s.endLoop l).2.closeRoutes

/-- The number of open connections. -/
def activeConnections (s : Server) : Nat := s.loop.tracker.active

end Server

end RevocationLab
