/-
**Accounting for requests.**

A request that is handled is counted under one of three heads: as a miss, as an answered request, or,
if its connection is dropped, not at all but by the fault that reaches the connection.  A fault is
observed and counted once, and counted again as an answered request if the policy answers it with
status 500.  The books are closed over whole runs of one dispatcher, with any responders and with any
changes of the routes and of what the responders share between two requests.

A responder that is called is seen by calling responders that write their calls down.

Main definitions:

* `Metrics.sumOf`, `Metrics.valueOf` — what is reported under a name;
* `Dispatch.Call`, `Dispatch.recorded` — responders that write their calls down;
* `Dispatch.Visit` — a request with what came of it;
* `Dispatch.Event`, `Dispatch.Service.run` — what happens at a dispatcher;
* `Dispatch.Handled` — **the ways in which a request is handled**;
* `Dispatch.Accounts` — **what the counts say about the visits**.

Main results:

* `Dispatch.Dispatcher.handled_dispatch` — every request is handled in one of the ways;
* `Dispatch.Accounts.visit` — each of them keeps the books;
* `Dispatch.Service.accounts_run` — **the accounts of every run**.
-/

import Mathlib.Algebra.GroupWithZero.Nat
import Mathlib.Data.List.Induction
import RevocationLab.Dispatch.Dispatcher
import RevocationLab.Routing.Registration

set_option autoImplicit false

namespace RevocationLab

/-! ### Reported values -/

namespace Tally

variable {κ : Type}

theorem total_eq_sum (t : Tally κ) : total t = (t.map Prod.snd).sum := by
  induction t with
  | nil => rfl
  | cons e r ih => rw [total, ih, List.map_cons, List.sum_cons]

theorem get?_eq_find? [DecidableEq κ] (t : Tally κ) (k : κ) :
    Keyed.get? t k = (t.find? fun e => e.1 = k).map Prod.snd := by
  induction t with
  | nil => rfl
  | cons e r ih =>
      by_cases h : e.1 = k
      · simp [Keyed.get?, h]
      · simp [Keyed.get?, h, ih]

end Tally

namespace Metrics

/-- The series of a name, whatever their labels. -/
def named (m : Metrics) (name : String) : List Series := m.series.filter fun s => s.name = name

/-- Everything that is reported under a name. -/
def sumOf (m : Metrics) (name : String) : Nat := ((m.named name).map Series.value).sum

/-- What is reported under a name and labels, and zero if nothing is. -/
def valueOf (m : Metrics) (name : String) (labels : List (String × String)) : Nat :=
  (((m.named name).find? fun s => s.labels = labels).map Series.value).getD 0

/-- A family of series of one name is reported under that name, and under no other. -/
theorem filter_family {α : Type} (l : List α) (kind : Kind) (own name : String)
    (labels : α → List (String × String)) (value : α → Nat) :
    (l.map fun e => (⟨kind, own, labels e, value e⟩ : Series)).filter (fun s => s.name = name)
      = if own = name then l.map fun e => ⟨kind, own, labels e, value e⟩ else [] := by
  by_cases h : own = name
  · rw [if_pos h, List.filter_eq_self]
    intro s hs
    obtain ⟨e, -, rfl⟩ := List.mem_map.1 hs
    exact decide_eq_true h
  · rw [if_neg h, List.filter_eq_nil_iff]
    intro s hs
    obtain ⟨e, -, rfl⟩ := List.mem_map.1 hs
    simpa using h

theorem named_requests (m : Metrics) :
    m.named "responder_requests_total" = m.requests.map fun e =>
      ⟨.counter, "responder_requests_total",
        [("route", e.1.1), ("status", toString e.1.2)], e.2⟩ := by
  unfold named series
  cases m.registered <;> by_cases h : m.misses = 0 <;> simp [filter_family, h]

theorem named_faults (m : Metrics) :
    m.named "responder_faults_total" = m.faults.map fun e =>
      ⟨.counter, "responder_faults_total", [("route", e.1.1), ("kind", e.1.2)], e.2⟩ := by
  unfold named series
  cases m.registered <;> by_cases h : m.misses = 0 <;> simp [filter_family, h]

theorem named_misses (m : Metrics) :
    m.named "dispatch_misses_total" =
      if m.misses = 0 then [] else [⟨.counter, "dispatch_misses_total", [], m.misses⟩] := by
  unfold named series
  cases m.registered <;> by_cases h : m.misses = 0 <;> simp [filter_family, h]

theorem sumOf_requests (m : Metrics) : m.sumOf "responder_requests_total" = m.requests.total := by
  simp [sumOf, named_requests, Tally.total_eq_sum, Function.comp_def]

theorem sumOf_faults (m : Metrics) : m.sumOf "responder_faults_total" = m.faults.total := by
  simp [sumOf, named_faults, Tally.total_eq_sum, Function.comp_def]

theorem sumOf_misses (m : Metrics) : m.sumOf "dispatch_misses_total" = m.misses := by
  by_cases h : m.misses = 0 <;> simp [sumOf, named_misses, h]

/-- What is reported for a route and a status is the count of that pair. -/
theorem valueOf_requests (m : Metrics) (route : String) (status : Nat) :
    m.valueOf "responder_requests_total" [("route", route), ("status", toString status)]
      = m.requests.count (route, status) := by
  have htext (n : Nat) : n.repr = status.repr ↔ n = status := by
    refine ⟨fun h => ?_, fun h => congrArg Nat.repr h⟩
    have hdigits : Nat.toDigits 10 n = Nat.toDigits 10 status := by
      rw [← Nat.toList_repr, h, Nat.toList_repr]
    rw [← Nat.ofDigitChars_ten_toDigits (n := n), hdigits, Nat.ofDigitChars_ten_toDigits]
  simp [valueOf, named_requests, Tally.count, Tally.get?_eq_find?, List.find?_map,
    Function.comp_def, Prod.ext_iff, htext]

end Metrics

namespace Dispatch

variable {α σ : Type}

/-! ### Calls -/

/-- A responder that was called, with what it was given and what came of it. -/
structure Call (α : Type) where
  occupant : α
  request : Http.Request
  outcome : Responder.Outcome

/-- Whether the responder failed or broke off. -/
def Call.isFaulty (c : Call α) : Bool :=
  match c.outcome with
  | .response _ => false
  | .failure _ => true
  | .broken _ => true

theorem Call.isFaulty_of_fault {occupant : α} {request : Http.Request}
    {outcome : Responder.Outcome} {route : String} {fault : Fault}
    (h : Fault.ofOutcome route outcome = .error fault) :
    Call.isFaulty ⟨occupant, request, outcome⟩ = true := by
  cases outcome with
  | response r => cases h
  | failure cause => rfl
  | broken payload => rfl

/-- What a responder is given: the request with the limit on its body. -/
def Dispatcher.limited (d : Dispatcher) (request : Http.Request) : Http.Request :=
  { request with limit := some d.maxBodyBytes }

/-- The responders, which now also write down that they were called. -/
def recorded (respond : α → Http.Request → σ → Responder.Reply × σ) (occupant : α)
    (request : Http.Request) (s : σ × List (Call α)) : Responder.Reply × σ × List (Call α) :=
  let (reply, state) := respond occupant request s.1
  (reply, state, s.2 ++ [⟨occupant, request, reply.outcome⟩])

/-- The calls that are made for one request. -/
def Dispatcher.calls (d : Dispatcher) (routes : Routing.Table α)
    (respond : α → Http.Request → σ → Responder.Reply × σ) (request : Http.Request) (state : σ)
    (desk : Desk) : List (Call α) :=
  (d.dispatch routes (recorded respond) request (state, []) desk).state.2

/-! ### Runs of a dispatcher -/

/-- A request that was handled: what was found for its path, which responders were called, which
faults were observed, and the answer. -/
structure Visit (α : Type) where
  request : Http.Request
  found : Option (String × α)
  calls : List (Call α)
  observed : List Fault
  answer : Except Fault Http.Response

/-- The visit that comes of a request. -/
def Dispatcher.visit (d : Dispatcher) (routes : Routing.Table α)
    (respond : α → Http.Request → σ → Responder.Reply × σ) (request : Http.Request) (state : σ)
    (desk : Desk) : Visit α :=
  let dispatched := d.dispatch routes respond request state desk
  { request := request
    found := routes.lookup? request.target.path
    calls := d.calls routes respond request state desk
    observed := dispatched.desk.faults.drop desk.faults.length
    answer := dispatched.answer }

/-- The route and the status of an answer that came from a route. -/
def Visit.answered? (v : Visit α) : Option (String × Nat) :=
  match v.found, v.answer with
  | some (route, _), .ok r => some (route, r.status)
  | _, _ => none

/-- Whether the connection was dropped. -/
def Visit.isDropped (v : Visit α) : Bool :=
  match v.answer with
  | .ok _ => false
  | .error _ => true

/-- What happens at a dispatcher. -/
inductive Event (α σ : Type) where
  /-- The routes change, and so does what the responders share. -/
  | change (routes : Routing.Table α → Routing.Table α) (state : σ → σ)
  /-- The number of routes is reported. -/
  | report
  /-- A request comes in. -/
  | request (request : Http.Request)

/-- The requests of some events. -/
def requests (events : List (Event α σ)) : List Http.Request :=
  events.filterMap fun
    | .request request => some request
    | _ => none

/-- The routes, what the responders share, what is written down, and the requests so far. -/
structure Service (α σ : Type) where
  routes : Routing.Table α
  state : σ
  desk : Desk := {}
  visits : List (Visit α) := []

namespace Service

/-- What comes of an event. -/
def step (d : Dispatcher) (respond : α → Http.Request → σ → Responder.Reply × σ)
    (s : Service α σ) : Event α σ → Service α σ
  | .change routes state => { s with routes := routes s.routes, state := state s.state }
  | .report =>
      { s with desk := { s.desk with metrics := s.desk.metrics.setRegistered s.routes.size } }
  | .request request =>
      let dispatched := d.dispatch s.routes respond request s.state s.desk
      { s with
        state := dispatched.state
        desk := dispatched.desk
        visits := s.visits ++ [d.visit s.routes respond request s.state s.desk] }

/-- What comes of some events. -/
def run (d : Dispatcher) (respond : α → Http.Request → σ → Responder.Reply × σ)
    (s : Service α σ) (events : List (Event α σ)) : Service α σ :=
  events.foldl (step d respond) s

theorem run_append (d : Dispatcher) (respond : α → Http.Request → σ → Responder.Reply × σ)
    (s : Service α σ) (events : List (Event α σ)) (e : Event α σ) :
    run d respond s (events ++ [e]) = (run d respond s events).step d respond e := by
  simp [run]

end Service

/-! ### One request -/

/-- **The ways in which a request is handled.** -/
inductive Handled (d : Dispatcher) (desk : Desk) : Visit α → Desk → Prop
  /-- No route: nobody is called, and the answer is an empty one of status 404. -/
  | missed (request : Http.Request) (after : Desk)
      (hmetrics : after.metrics = desk.metrics.recordMiss)
      (hfaults : after.faults = desk.faults) :
      Handled d desk ⟨request, none, [], [], .ok (Http.Response.empty 404)⟩ after
  /-- A response, passed on as it is. -/
  | answered (request : Http.Request) (route : String) (occupant : α) (r : Http.Response)
      (after : Desk)
      (hmetrics : after.metrics = desk.metrics.recordRequest route r.status)
      (hfaults : after.faults = desk.faults) :
      Handled d desk
        ⟨request, some (route, occupant), [⟨occupant, d.limited request, .response r⟩], [], .ok r⟩
        after
  /-- A fault that reaches the connection. -/
  | dropped (request : Http.Request) (route : String) (occupant : α) (outcome : Responder.Outcome)
      (fault : Fault) (after : Desk)
      (hfault : Fault.ofOutcome route outcome = .error fault)
      (hpolicy : d.policy = .dropConnection)
      (hmetrics : after.metrics = desk.metrics.recordFault fault.route fault.kind)
      (hfaults : after.faults = desk.faults ++ [fault]) :
      Handled d desk
        ⟨request, some (route, occupant), [⟨occupant, d.limited request, outcome⟩], [fault],
          .error fault⟩ after
  /-- A fault in place of which an empty response of status 500 is sent. -/
  | replaced (request : Http.Request) (route : String) (occupant : α) (outcome : Responder.Outcome)
      (fault : Fault) (after : Desk)
      (hfault : Fault.ofOutcome route outcome = .error fault)
      (hpolicy : d.policy = .internalServerError)
      (hmetrics : after.metrics
        = (desk.metrics.recordFault fault.route fault.kind).recordRequest route 500)
      (hfaults : after.faults = desk.faults ++ [fault]) :
      Handled d desk
        ⟨request, some (route, occupant), [⟨occupant, d.limited request, outcome⟩], [fault],
          .ok (Http.Response.empty 500)⟩ after

namespace Dispatcher

variable (d : Dispatcher) (routes : Routing.Table α)
  (respond : α → Http.Request → σ → Responder.Reply × σ) (request : Http.Request) (state : σ)
  (desk : Desk)

theorem dispatch_of_missed (h : routes.lookup? request.target.path = none) :
    d.dispatch routes respond request state desk
      = ⟨.ok (Http.Response.empty 404), state,
          desk.missed (request.headers.requestId?.getD "unknown") request⟩ := by
  simp [dispatch, h]

theorem dispatch_of_found {route : String} {occupant : α}
    (h : routes.lookup? request.target.path = some (route, occupant)) :
    d.dispatch routes respond request state desk
      = (let (reply, after) := respond occupant (d.limited request) state
        let (answer, desk) := d.settle route reply.outcome
          ((desk.routed (request.headers.requestId?.getD "unknown") route request).noteAll
            reply.events)
        ⟨answer, after, desk⟩) := by
  simp [dispatch, h, limited]

/-- What becomes of an outcome at a desk with the counts and faults from before. -/
theorem handled_settle (route : String) (occupant : α) (outcome : Responder.Outcome) {noted : Desk}
    (hmetrics : noted.metrics = desk.metrics) (hfaults : noted.faults = desk.faults) :
    Handled d desk
      ⟨request, some (route, occupant), [⟨occupant, d.limited request, outcome⟩],
        (d.settle route outcome noted).2.faults.drop desk.faults.length,
        (d.settle route outcome noted).1⟩
      (d.settle route outcome noted).2 := by
  cases houtcome : Fault.ofOutcome route outcome with
  | ok r =>
      obtain rfl : outcome = .response r := by
        cases outcome <;> simp_all [Fault.ofOutcome]
      have hsettle : d.settle route (.response r) noted = (.ok r, noted.answered route r.status) :=
        rfl
      have hdrop : (noted.answered route r.status).faults.drop desk.faults.length = [] := by
        simp [Desk.answered, hfaults]
      rw [hsettle, hdrop]
      exact .answered request route occupant r _ (by simp [Desk.answered, hmetrics]) hfaults
  | error fault =>
      have hobserved : (noted.observe fault).faults = desk.faults ++ [fault] := by
        simp [Desk.observe, hfaults]
      have hcounted : (noted.observe fault).metrics
          = desk.metrics.recordFault fault.route fault.kind := by
        simp [Desk.observe, hmetrics]
      cases hpolicy : d.policy with
      | dropConnection =>
          have hsettle : d.settle route outcome noted = (.error fault, noted.observe fault) := by
            simp [settle, houtcome, hpolicy]
          rw [hsettle]
          simp only [hobserved, List.drop_left]
          exact .dropped request route occupant outcome fault _ houtcome hpolicy hcounted hobserved
      | internalServerError =>
          have hsettle : d.settle route outcome noted
              = (.ok (Http.Response.empty 500), (noted.observe fault).answered route 500) := by
            simp [settle, houtcome, hpolicy]
          have hsame : ((noted.observe fault).answered route 500).faults
              = desk.faults ++ [fault] := hobserved
          rw [hsettle]
          simp only [hsame, List.drop_left]
          exact .replaced request route occupant outcome fault _ houtcome hpolicy
            (by simp [Desk.answered, hcounted]) hsame

/-- **Every request is handled in one of the ways.** -/
theorem handled_dispatch :
    Handled d desk (d.visit routes respond request state desk)
      (d.dispatch routes respond request state desk).desk := by
  cases hlookup : routes.lookup? request.target.path with
  | none =>
      have hplain := d.dispatch_of_missed routes respond request state desk hlookup
      have hcalls := d.dispatch_of_missed routes (recorded respond) request (state, []) desk hlookup
      simp only [visit, calls, hplain, hcalls, hlookup]
      have hfaults : (desk.missed (request.headers.requestId?.getD "unknown") request).faults
          = desk.faults := rfl
      rw [hfaults, List.drop_length]
      exact .missed request _ rfl hfaults
  | some hit =>
      obtain ⟨route, occupant⟩ := hit
      have hplain := d.dispatch_of_found routes respond request state desk hlookup
      have hcalls := d.dispatch_of_found routes (recorded respond) request (state, []) desk hlookup
      simp only [visit, calls, hplain, hcalls, hlookup, recorded]
      exact d.handled_settle request desk route occupant _ rfl rfl

end Dispatcher

/-! ### The books -/

/-- What comes of each outcome, in a visit by itself. -/
structure Visit.IsSound (d : Dispatcher) (v : Visit α) : Prop where
  /-- Without a route nobody is called and nothing observed, and the answer is empty. -/
  missed : v.found = none →
    v.calls = [] ∧ v.observed = [] ∧ v.answer = .ok (Http.Response.empty 404)
  /-- Whoever is found is called once, and nobody else. -/
  called : ∀ route occupant, v.found = some (route, occupant) →
    ∃ outcome, v.calls = [⟨occupant, d.limited v.request, outcome⟩]
  /-- A response is the answer. -/
  passed : ∀ c ∈ v.calls, ∀ r, c.outcome = .response r → v.observed = [] ∧ v.answer = .ok r
  /-- A fault is observed once, and the answer is up to the policy. -/
  faulted : ∀ c ∈ v.calls, c.isFaulty = true → ∃ route fault,
    v.found = some (route, c.occupant) ∧ Fault.ofOutcome route c.outcome = .error fault
      ∧ v.observed = [fault]
      ∧ v.answer = match d.policy with
        | .dropConnection => .error fault
        | .internalServerError => .ok (Http.Response.empty 500)
  /-- The connection is dropped exactly for a fault under the policy that says so. -/
  dropped : v.isDropped = true ↔ d.policy = .dropConnection ∧ ∃ c ∈ v.calls, c.isFaulty = true

/-- **What the counts say about the visits.** -/
structure Accounts (d : Dispatcher) (visits : List (Visit α)) (desk : Desk) : Prop where
  /-- Every visit is a miss, an answered request, or a dropped connection. -/
  handled : visits.length = desk.metrics.sumOf "dispatch_misses_total"
    + desk.metrics.sumOf "responder_requests_total" + visits.countP Visit.isDropped
  /-- Every observed fault is counted once. -/
  faults : desk.metrics.sumOf "responder_faults_total" = desk.faults.length
  /-- The faults are those that the visits observed, in their order. -/
  observed : desk.faults = visits.flatMap Visit.observed
  /-- There is one for each call that failed or broke off. -/
  faulty : desk.faults.length = (visits.flatMap Visit.calls).countP Call.isFaulty
  /-- An answer from a route is counted under the route and its status, and nothing else is. -/
  counted : ∀ route status,
    desk.metrics.valueOf "responder_requests_total"
        [("route", route), ("status", toString status)]
      = visits.countP fun v => v.answered? = some (route, status)
  /-- Each visit went as its calls say. -/
  sound : ∀ v ∈ visits, v.IsSound d

section Handled

variable {d : Dispatcher} {desk after : Desk} {v : Visit α} {visits : List (Visit α)}

theorem Handled.isSound (h : Handled d desk v after) : v.IsSound d := by
  cases h with
  | missed request after hmetrics hfaults =>
      constructor <;> simp [Visit.isDropped]
  | answered request route occupant r after hmetrics hfaults =>
      constructor <;> simp [Visit.isDropped, Call.isFaulty]
  | dropped request route occupant outcome fault after hfault hpolicy hmetrics hfaults =>
      constructor <;> simp [Visit.isDropped, Call.isFaulty_of_fault hfault, hpolicy, hfault]
      rintro r rfl
      cases hfault
  | replaced request route occupant outcome fault after hfault hpolicy hmetrics hfaults =>
      constructor <;> simp [Visit.isDropped, Call.isFaulty_of_fault hfault, hpolicy, hfault]
      rintro r rfl
      cases hfault

/-- A visit goes under one head: a miss, an answered request, or a dropped connection. -/
theorem Handled.one_head (h : Handled d desk v after) :
    after.metrics.misses + after.metrics.requests.total + (if v.isDropped then 1 else 0)
      = desk.metrics.misses + desk.metrics.requests.total + 1 := by
  cases h <;> simp_all [Visit.isDropped, Metrics.recordMiss, Metrics.recordRequest,
    Metrics.recordFault] <;> omega

theorem Handled.faults_eq (h : Handled d desk v after) :
    after.faults = desk.faults ++ v.observed := by
  cases h <;> simp_all

theorem Handled.total_faults (h : Handled d desk v after) :
    after.metrics.faults.total = desk.metrics.faults.total + v.observed.length := by
  cases h <;> simp_all [Metrics.recordMiss, Metrics.recordRequest, Metrics.recordFault]

/-- One fault is observed for each faulty call. -/
theorem Handled.length_observed (h : Handled d desk v after) :
    v.observed.length = v.calls.countP Call.isFaulty := by
  cases h with
  | missed => rfl
  | answered => rfl
  | dropped request route occupant outcome fault after hfault =>
      simp [Call.isFaulty_of_fault hfault]
  | replaced request route occupant outcome fault after hfault =>
      simp [Call.isFaulty_of_fault hfault]

/-- An answer is counted under its own route and status only. -/
theorem Handled.count_requests (h : Handled d desk v after) (route : String) (status : Nat) :
    after.metrics.requests.count (route, status) = desk.metrics.requests.count (route, status)
      + if v.answered? = some (route, status) then 1 else 0 := by
  cases h <;> simp_all [Visit.answered?, Metrics.recordMiss, Metrics.recordRequest,
    Metrics.recordFault, Tally.count_add, Http.Response.empty]

theorem Accounts.empty (d : Dispatcher) : Accounts d ([] : List (Visit α)) {} := by
  constructor
  · simp [Metrics.sumOf_misses, Metrics.sumOf_requests, Tally.total]
  · simp [Metrics.sumOf_faults, Tally.total]
  · rfl
  · rfl
  · intro route status
    rw [Metrics.valueOf_requests]
    rfl
  · simp

/-- **A visit keeps the books.** -/
theorem Accounts.visit (h : Accounts d visits desk) (hv : Handled d desk v after) :
    Accounts d (visits ++ [v]) after := by
  obtain ⟨hhandled, hfaults, hobserved, hfaulty, hcounted, hsound⟩ := h
  simp only [Metrics.sumOf_misses, Metrics.sumOf_requests, Metrics.sumOf_faults,
    Metrics.valueOf_requests] at hhandled hfaults hcounted
  constructor
  · have hone := hv.one_head
    simp only [Metrics.sumOf_misses, Metrics.sumOf_requests, List.length_append,
      List.length_singleton, List.countP_append, List.countP_singleton]
    omega
  · rw [Metrics.sumOf_faults, hv.total_faults, hv.faults_eq, List.length_append, hfaults]
  · rw [hv.faults_eq, hobserved, List.flatMap_append, List.flatMap_singleton]
  · rw [hv.faults_eq, List.length_append, List.flatMap_append, List.countP_append,
      List.flatMap_singleton, hfaulty, hv.length_observed]
  · intro route status
    rw [Metrics.valueOf_requests, hv.count_requests, hcounted, List.countP_append,
      List.countP_singleton]
    simp
  · intro w hw
    rcases List.mem_append.1 hw with hw | hw
    · exact hsound w hw
    · rw [List.mem_singleton.1 hw]
      exact hv.isSound

/-- A report of the number of routes leaves the books as they are. -/
theorem Accounts.report (h : Accounts d visits desk) (n : Nat) :
    Accounts d visits { desk with metrics := desk.metrics.setRegistered n } := by
  obtain ⟨hhandled, hfaults, hobserved, hfaulty, hcounted, hsound⟩ := h
  simp only [Metrics.sumOf_misses, Metrics.sumOf_requests, Metrics.sumOf_faults,
    Metrics.valueOf_requests] at hhandled hfaults hcounted
  constructor
  · simpa only [Metrics.sumOf_misses, Metrics.sumOf_requests, Metrics.setRegistered] using hhandled
  · simpa only [Metrics.sumOf_faults, Metrics.setRegistered] using hfaults
  · exact hobserved
  · exact hfaulty
  · simpa only [Metrics.valueOf_requests, Metrics.setRegistered] using hcounted
  · exact hsound

end Handled

/-! ### Every run -/

namespace Service

variable (d : Dispatcher) (respond : α → Http.Request → σ → Responder.Reply × σ)

theorem accounts_step {s : Service α σ} (h : Accounts d s.visits s.desk) (e : Event α σ) :
    Accounts d (s.step d respond e).visits (s.step d respond e).desk := by
  cases e with
  | change routes state => exact h
  | report => exact h.report s.routes.size
  | request request => exact h.visit (d.handled_dispatch s.routes respond request s.state s.desk)

/-- **The accounts of every run**: the visits are those of the requests, one each and in their order,
and the counts say what came of them. -/
theorem accounts_run (routes : Routing.Table α) (state : σ) (events : List (Event α σ)) :
    let s := run d respond { routes, state } events
    s.visits.map Visit.request = requests events ∧ Accounts d s.visits s.desk := by
  induction events using List.reverseRecOn with
  | nil => exact ⟨rfl, Accounts.empty d⟩
  | append_singleton events e ih =>
      rw [run_append]
      refine ⟨?_, accounts_step d respond ih.2 e⟩
      have hvisits := ih.1
      cases e <;> simp [step, requests, Dispatcher.visit] at hvisits ⊢ <;> exact hvisits

end Service

end Dispatch

end RevocationLab
