/-
**The accept loop.**

The loop takes a permit and waits for a client.  The client's connection is tracked and keeps the
permit; when it ends, its guard is dropped first and its permit after that.  Waiting may be
cancelled, which gives the permit back, and shutting down ends the loop while connections may go on.

Main definitions:

* `Connection.AcceptLoop`;
* `Connection.AcceptLoop.Step`, `Connection.AcceptLoop.step?`, `Connection.AcceptLoop.run?`.
-/

import RevocationLab.Connection.Listener
import RevocationLab.Connection.Tracker

set_option autoImplicit false

namespace RevocationLab

namespace Connection

/-- A loop: whether it runs, whether it waits for a client with a permit, the connections that are
served, and those whose guard is dropped but whose permit is not. -/
structure AcceptLoop where
  listener : Listener
  tracker : Tracker := {}
  running : Bool := true
  waiting : Bool := false
  serving : List Id := []
  leaving : List Id := []
  deriving DecidableEq, Repr

namespace AcceptLoop

/-- What can happen to a loop. -/
inductive Step where
  /-- Waiting starts, with a permit. -/
  | wait
  /-- Waiting ends without a client. -/
  | cancel
  /-- The client that was waited for arrives. -/
  | accept
  /-- The guard of a connection that ends is dropped. -/
  | dropGuard (id : Id)
  /-- The permit of a connection that ends is given back. -/
  | dropPermit (id : Id)
  /-- The loop ends. -/
  | stop
  deriving DecidableEq, Repr

/-- The loop after a step, if the step can happen. -/
def step? (l : AcceptLoop) : Step → Option AcceptLoop
  | .wait =>
      if l.running && !l.waiting then
        l.listener.acquire?.map fun listener => { l with listener, waiting := true }
      else none
  | .cancel =>
      if l.waiting then some { l with listener := l.listener.release, waiting := false } else none
  | .accept =>
      if l.running && l.waiting then
        let (id, tracker) := l.tracker.track
        some { l with tracker, waiting := false, serving := l.serving ++ [id] }
      else none
  | .dropGuard id =>
      if l.serving.contains id then
        some { l with
          tracker := l.tracker.drop
          serving := l.serving.erase id
          leaving := l.leaving ++ [id] }
      else none
  | .dropPermit id =>
      if l.leaving.contains id then
        some { l with listener := l.listener.release, leaving := l.leaving.erase id }
      else none
  | .stop =>
      if l.running then
        some
          (if l.waiting then
            { l with running := false, waiting := false, listener := l.listener.release }
          else { l with running := false })
      else none

/-- The loop after some steps, if each of them can happen. -/
def run? (l : AcceptLoop) (steps : List Step) : Option AcceptLoop :=
  steps.foldlM step? l

end AcceptLoop

end Connection

end RevocationLab
