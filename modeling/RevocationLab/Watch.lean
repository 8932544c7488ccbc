/-
**A value that is watched.**

A sender replaces a value, and receivers wait for one that suits them.  Every value has a version, and a
receiver remembers the version that it saw last.  Whoever starts to wait looks at the value that is
there, seen or not; if it does not suit, the wait ends with a later value that does, or once the sender
is gone.  A wait that goes on looks at a value only if it is a new one.

Main definitions:

* `Watch`, `Watch.Receiver` — the value with its receivers;
* `Watch.send`, `Watch.close` — what the sender does;
* `Watch.subscribe`, `Watch.clone?`, `Watch.leave` — how receivers come and go;
* `Watch.Wait`, `Watch.waitFor?`, `Watch.resume?` — waiting.
-/

import RevocationLab.Keyed

set_option autoImplicit false

namespace RevocationLab

/-- A receiver: the version that it saw last, and whether a wait of it goes on. -/
structure Watch.Receiver where
  seen : Nat
  waiting : Bool := false
  deriving DecidableEq, Repr

/-- A value that is watched, with its receivers under their numbers. -/
structure Watch (α : Type) where
  value : α
  version : Nat := 0
  closed : Bool := false
  receivers : Keyed Nat Watch.Receiver := []
  nextReceiver : Nat := 0
  deriving DecidableEq, Repr

namespace Watch

variable {α : Type}

/-! ### The sender -/

/-- Another value, also if nobody watches. -/
def send (w : Watch α) (value : α) : Watch α := { w with value, version := w.version + 1 }

/-- The value once the sender is gone. -/
def close (w : Watch α) : Watch α := { w with closed := true }

/-! ### Receivers -/

/-- A new receiver. -/
def enter (w : Watch α) (r : Receiver) : Nat × Watch α :=
  (w.nextReceiver,
    { w with
      receivers := Keyed.put w.receivers w.nextReceiver r
      nextReceiver := w.nextReceiver + 1 })

/-- A receiver that has seen what is there. -/
def subscribe (w : Watch α) : Nat × Watch α := w.enter { seen := w.version }

/-- A receiver that has seen what another one has. -/
def clone? (w : Watch α) (n : Nat) : Option (Nat × Watch α) :=
  (Keyed.get? w.receivers n).map fun r => w.enter { seen := r.seen }

/-- The value after a receiver is gone. -/
def leave (w : Watch α) (n : Nat) : Watch α := { w with receivers := Keyed.erase w.receivers n }

/-! ### Waiting -/

/-- How a wait stands: a value suits, the sender is gone, or it goes on. -/
inductive Wait where
  | found
  | gone
  | pending
  deriving DecidableEq, Repr

/-- How a wait stands once it has looked at the value. -/
def look (w : Watch α) (suits : α → Bool) : Wait :=
  if suits w.value then .found else if w.closed then .gone else .pending

/-- What a receiver remembers is replaced. -/
def mark (w : Watch α) (n : Nat) (r : Receiver) : Watch α :=
  { w with receivers := Keyed.put w.receivers n r }

/-- A receiver starts to wait: it looks at the value, seen or not. -/
def waitFor? (w : Watch α) (suits : α → Bool) (n : Nat) : Option (Wait × Watch α) :=
  (Keyed.get? w.receivers n).map fun _ =>
    (w.look suits, w.mark n ⟨w.version, w.look suits = .pending⟩)

/-- A receiver goes on with its wait, and looks at the value only if that is a new one; without a wait
that goes on, it starts one. -/
def resume? (w : Watch α) (suits : α → Bool) (n : Nat) : Option (Wait × Watch α) :=
  (Keyed.get? w.receivers n).bind fun r =>
    if r.waiting && r.seen == w.version then
      some (if w.closed then (.gone, w.mark n { r with waiting := false }) else (.pending, w))
    else w.waitFor? suits n

end Watch

end RevocationLab
