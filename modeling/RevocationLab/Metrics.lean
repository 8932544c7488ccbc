/-
**What is counted.**

Answered requests are counted by route and status, and timed by route; faults by route and kind;
requests without a route as misses.  A gauge shows the number of routes that was last reported.

Main definitions:

* `Metrics`;
* `Metrics.recordRequest`, `Metrics.recordFault`, `Metrics.recordMiss`, `Metrics.setRegistered`;
* `Metrics.Series`, `Metrics.series` — the counted values under their names;
* `Metrics.rows` — the same as text, in order.
-/

import RevocationLab.Tally

set_option autoImplicit false

namespace RevocationLab

/-- Everything that is counted. -/
structure Metrics where
  requests : Tally (String × Nat) := []
  timings : Tally String := []
  faults : Tally (String × String) := []
  misses : Nat := 0
  registered : Option Nat := none
  deriving DecidableEq, Repr

namespace Metrics

/-! ### Counting -/

/-- One more answered request. -/
def recordRequest (m : Metrics) (route : String) (status : Nat) : Metrics :=
  { m with requests := m.requests.add (route, status), timings := m.timings.add route }

/-- One more fault. -/
def recordFault (m : Metrics) (route kind : String) : Metrics :=
  { m with faults := m.faults.add (route, kind) }

/-- One more request without a route. -/
def recordMiss (m : Metrics) : Metrics := { m with misses := m.misses + 1 }

/-- The number of routes, as reported now. -/
def setRegistered (m : Metrics) (n : Nat) : Metrics := { m with registered := some n }

/-! ### Names -/

/-- The ways in which a value is counted. -/
inductive Kind where
  | counter
  | gauge
  | histogram
  deriving DecidableEq, Repr

/-- The name of a kind. -/
def Kind.name : Kind → String
  | counter => "counter"
  | gauge => "gauge"
  | histogram => "histogram"

/-- A counted value under its name and labels; that of a histogram is the number of its samples. -/
structure Series where
  kind : Kind
  name : String
  labels : List (String × String)
  value : Nat
  deriving DecidableEq, Repr

/-- The values that have been touched. -/
def series (m : Metrics) : List Series :=
  m.requests.map (fun e => ⟨.counter, "responder_requests_total",
    [("route", e.1.1), ("status", toString e.1.2)], e.2⟩)
  ++ m.timings.map (fun e => ⟨.histogram, "responder_request_duration_seconds",
    [("route", e.1)], e.2⟩)
  ++ m.faults.map (fun e => ⟨.counter, "responder_faults_total",
    [("route", e.1.1), ("kind", e.1.2)], e.2⟩)
  ++ (if m.misses = 0 then [] else [⟨.counter, "dispatch_misses_total", [], m.misses⟩])
  ++ (m.registered.map fun n => ⟨.gauge, "registered_responders", [], n⟩).toList

/-- A counted value as it is reported: its kind, its name, its labels in order, and the value. -/
structure Row where
  kind : String
  name : String
  labels : List String
  value : Nat
  deriving DecidableEq, Repr

/-- The reported form of a counted value. -/
def Series.row (s : Series) : Row :=
  ⟨s.kind.name, s.name, (s.labels.map fun l => l.1 ++ "=" ++ l.2).mergeSort (· ≤ ·), s.value⟩

/-- Whether a row comes before another: by kind, name and labels. -/
def Row.before (a b : Row) : Bool :=
  !List.lex (b.kind :: b.name :: b.labels) (a.kind :: a.name :: a.labels) (· < ·)

/-- The values that have been touched, as they are reported. -/
def rows (m : Metrics) : List Row := (m.series.map Series.row).mergeSort Row.before

end Metrics

end RevocationLab
