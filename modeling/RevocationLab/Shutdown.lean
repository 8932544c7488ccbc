/-
**Shutting down.**

One coordinator tells any number of signals to stop.  It does so once, and a signal that is asked
afterwards, or after the coordinator is gone, is ready at once.

Main definitions:

* `Shutdown`, `Shutdown.trigger`, `Shutdown.drop`;
* `Shutdown.subscribe`, `Shutdown.clone?`, `Shutdown.unsubscribe`, `Shutdown.receivers`;
* `Shutdown.recv?`, `Shutdown.poll?` — waiting for the signal to stop;
* `Shutdown.isReady`.
-/

import RevocationLab.Watch

set_option autoImplicit false

namespace RevocationLab

/-- A coordinator with the channel to the signals that belong to it: whether they have to stop. -/
structure Shutdown where
  triggered : Bool := false
  channel : Watch Bool := { value := false }
  deriving DecidableEq, Repr

namespace Shutdown

/-- Whether the coordinator is gone. -/
def dropped (s : Shutdown) : Bool := s.channel.closed

/-- Whether this call triggered the shutdown, and the coordinator after it. -/
def trigger (s : Shutdown) : Bool × Shutdown :=
  if s.triggered then (false, s)
  else (true, { triggered := true, channel := s.channel.send true })

/-- The signals after the coordinator is gone. -/
def drop (s : Shutdown) : Shutdown := { s with channel := s.channel.close }

/-! ### Signals -/

/-- A new signal. -/
def subscribe (s : Shutdown) : Nat × Shutdown :=
  let (signal, channel) := s.channel.subscribe
  (signal, { s with channel })

/-- The copy of a signal. -/
def clone? (s : Shutdown) (signal : Nat) : Option (Nat × Shutdown) :=
  (s.channel.clone? signal).map fun (copy, channel) => (copy, { s with channel })

/-- The coordinator after a signal was dropped. -/
def unsubscribe (s : Shutdown) (signal : Nat) : Shutdown :=
  { s with channel := s.channel.leave signal }

/-- The number of signals that were made and not dropped. -/
def receivers (s : Shutdown) : Nat := s.channel.receivers.length

/-! ### Waiting -/

/-- Whether a wait is over: a coordinator that is gone is as good as a trigger. -/
def isOver : Watch.Wait → Bool
  | .found | .gone => true
  | .pending => false

/-- Starts to wait for a signal: whether the wait is over at once. -/
def recv? (s : Shutdown) (signal : Nat) : Option (Bool × Shutdown) :=
  (s.channel.waitFor? id signal).map fun (wait, channel) => (isOver wait, { s with channel })

/-- Goes on with the wait for a signal: whether it is over now. -/
def poll? (s : Shutdown) (signal : Nat) : Option (Bool × Shutdown) :=
  (s.channel.resume? id signal).map fun (wait, channel) => (isOver wait, { s with channel })

/-- Whether signals are to stop waiting. -/
def isReady (s : Shutdown) : Bool := s.triggered || s.dropped

end Shutdown

end RevocationLab
