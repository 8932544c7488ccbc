/-
**Listening under a limit.**

A listener has a permit for each connection that it may hold at once.  Whoever accepts a connection
takes a permit first, and waits while there is none; the permit comes back when the connection, or
the attempt to accept one, ends.

Main definitions:

* `Connection.BindError` — why there is no listener;
* `Connection.Listener`, `Connection.Listener.bind`;
* `Connection.Listener.acquire?`, `Connection.Listener.release`.
-/

import RevocationLab.Settings.Basic
import RevocationLab.SocketAddress

set_option autoImplicit false

namespace RevocationLab

namespace Connection

/-- The most permits that there can be. -/
def maxPermits : Nat := 2305843009213693951

/-- Why there is no listener. -/
inductive BindError where
  /-- The text is no address. -/
  | address
  /-- There would be too many permits. -/
  | permits
  deriving DecidableEq, Repr

/-- The text of an error. -/
def BindError.message : BindError → String
  | address => "Failed to bind: invalid socket address syntax"
  | permits => s!"a semaphore may not have more than MAX_PERMITS permits ({maxPermits})"

/-- A listener at an address, with the permits that nobody holds. -/
structure Listener where
  address : SocketAddress
  maxConnections : Nat
  available : Nat
  deriving DecidableEq, Repr

namespace Listener

/-- The listener of some settings.  `freePort` is the port that is given where the settings ask for
any. -/
def bind (settings : Settings.Listener) (freePort : Nat) : Except BindError Listener :=
  match SocketAddress.ofText? settings.bindAddress with
  | none => .error .address
  | some asked =>
      if maxPermits < settings.maxConnections then .error .permits
      else .ok
        { address := if asked.port = 0 then asked.withPort freePort else asked
          maxConnections := settings.maxConnections
          available := settings.maxConnections }

/-- Takes a permit, if there is one. -/
def acquire? (l : Listener) : Option Listener :=
  if l.available = 0 then none else some { l with available := l.available - 1 }

/-- Gives a permit back. -/
def release (l : Listener) : Listener := { l with available := l.available + 1 }

end Listener

end Connection

end RevocationLab
