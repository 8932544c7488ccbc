/-
**Open connections.**

A connection that is tracked gets the next number and is counted until its guard is dropped.

Main definitions:

* `Connection.Id`, `Connection.Id.toText`;
* `Connection.Tracker`, `Connection.Tracker.track`, `Connection.Tracker.drop`.
-/

set_option autoImplicit false

namespace RevocationLab

namespace Connection

/-- The number of a connection. -/
structure Id where
  number : Nat
  deriving DecidableEq, Repr

/-- The text of a number. -/
def Id.toText (i : Id) : String := s!"conn-{i.number}"

/-- How many connections are open, and the number of the next one. -/
structure Tracker where
  active : Nat := 0
  next : Nat := 1
  deriving DecidableEq, Repr

namespace Tracker

/-- The number of a connection that opens, and the tracker after that. -/
def track (t : Tracker) : Id × Tracker := (⟨t.next⟩, ⟨t.active + 1, t.next + 1⟩)

/-- The tracker after the guard of a connection was dropped. -/
def drop (t : Tracker) : Tracker := { t with active := t.active - 1 }

end Tracker

end Connection

end RevocationLab
