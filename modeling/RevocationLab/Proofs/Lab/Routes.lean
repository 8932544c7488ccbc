/-
**The routes of a laboratory.**

Only registering writes into the table of routes, and it takes a path that is a key with a segment in
it; releasing a registration can only remove.  So every key of a reachable table has the form of one,
and is the path of the responder under it.  A request path starts with at most one such key, since the
segment has no slash, and a look-up by the first segment finds the responder under that key.

Main definitions:

* `Lab.RouteChange` — **what an event can do to the routes**;
* `Lab.HasKeys` — every route is under the path of its responder, which is a key;
* `Lab.RoutesByPrefix` — **how routes and paths belong together**.

Main results:

* `Lab.routeChange_perform` — every event does one of the three things;
* `Lab.History.routesByPrefix_run` — **routing is by prefix in every laboratory that can be reached**.
-/

import RevocationLab.Proofs.Lab.History
import RevocationLab.Proofs.Routing.Key

set_option autoImplicit false

namespace RevocationLab

open Routing

namespace Lab

/-! ### What an event can do -/

/-- **What an event can do to the routes.** -/
inductive RouteChange (t : Table Responder) : Table Responder → Prop
  /-- Nothing. -/
  | nothing : RouteChange t t
  /-- A responder is registered under its path, which is a key. -/
  | inserted (r : Responder) (hkey : isKey r.url.path = true) :
      RouteChange t (t.insert r.url.path r).2
  /-- A registration is released. -/
  | released (registration : Registration) : RouteChange t (registration.release t)

/-! ### Operations on authorities -/

theorem routes_createRoot (l : Lab) (base : Url) (plan : Authority.Plan) (draws : Authority.Draws)
    (now : Instant) : (l.createRoot base plan draws now).1.routes = l.routes := by
  unfold createRoot
  rcases l.authorities.createRoot base plan draws now with ⟨r, e | place⟩ <;> rfl

theorem routes_createIntermediate (l : Lab) (parent : Nat) (plan : Authority.Plan)
    (draws : Authority.Draws) (now : Instant) :
    (l.createIntermediate parent plan draws now).1.routes = l.routes := by
  unfold createIntermediate
  rcases l.authorities.createIntermediate parent plan draws now with ⟨r, e | place⟩ <;> rfl

theorem routes_issue (l : Lab) (place : Nat) (commonName : String) (key : X509.PublicKeyInfo)
    (draw : Octets) (now : Instant) :
    (l.issue place commonName key draw now).1.routes = l.routes := by
  unfold issue
  rcases l.authorities.issue place commonName key draw now with ⟨r, e | c⟩ <;> rfl

theorem routes_revoke (l : Lab) (place : Nat) (serial : X509.SerialNumber)
    (reason : Option Ocsp.Reason) (now : Instant) :
    (l.revoke place serial reason now).1.routes = l.routes := by
  unfold revoke
  rcases l.authorities.revoke place serial reason now with ⟨r, e | u⟩ <;> rfl

/-! ### Registering -/

/-- A responder whose path is a key is registered under it. -/
theorem register_of_isKey (l : Lab) {r : Responder} (h : isKey r.url.path = true) :
    (l.register r).1.routes = (l.routes.insert r.url.path r).2
      ∧ (l.register r).2 = .ok ⟨r.url.path, l.routes.nextId⟩ := by
  simp only [register, h, if_true, insertRoute]
  cases l.routes.get? r.url.path <;> exact ⟨rfl, rfl⟩

/-- A responder whose path is no key is rejected, and nothing changes. -/
theorem register_of_not_isKey (l : Lab) {r : Responder} (h : ¬ isKey r.url.path = true) :
    l.register r = (l, .error ⟨r.url.path⟩) := by
  rw [register]
  exact if_neg h

/-- A responder is rejected exactly if its path is no key. -/
theorem register_eq_error_iff (l : Lab) {r : Responder} :
    (∃ error, (l.register r).2 = .error error) ↔ ¬ isKey r.url.path = true := by
  constructor
  · rintro ⟨error, herror⟩ hkey
    rw [(l.register_of_isKey hkey).2] at herror
    cases herror
  · intro hkey
    rw [l.register_of_not_isKey hkey]
    exact ⟨_, rfl⟩

/-- **Every event does one of the three things.** -/
theorem routeChange_perform (l : Lab) (e : Event) :
    RouteChange l.routes (l.perform e).1.routes := by
  rcases e with ⟨action, now⟩
  cases action with
  | createRoot base plan serial name =>
      change RouteChange l.routes (l.createRoot base plan _ now).1.routes
      rw [routes_createRoot]
      exact .nothing
  | createIntermediate parent plan serial name =>
      have hsame := l.routes_createIntermediate parent plan ⟨serial.octets, name.octets⟩ now
      -- the answer decides what is reported, not what happens to the routes
      simp only [perform]
      split <;> next heq =>
        rw [heq] at hsame
        exact hsame ▸ .nothing
  | issue place commonName key serial =>
      have hsame := l.routes_issue place commonName key serial.octets now
      simp only [perform]
      split <;> next heq =>
        rw [heq] at hsame
        exact hsame ▸ .nothing
  | revoke place serial reason =>
      have hsame := l.routes_revoke place serial reason now
      simp only [perform]
      split <;> next heq =>
        rw [heq] at hsame
        exact hsame ▸ .nothing
  | register r =>
      change RouteChange l.routes (l.register r).1.routes
      by_cases hkey : isKey r.url.path = true
      · rw [(l.register_of_isKey hkey).1]
        exact .inserted r hkey
      · rw [l.register_of_not_isKey hkey]
        exact .nothing
  | release r =>
      change RouteChange l.routes (l.release r).routes
      unfold release
      split
      · exact .nothing
      · exact .released r
  -- requests read the routes and leave them alone
  | dispatch d request => exact .nothing
  | ask r request => exact .nothing

/-! ### Every route is under a key -/

/-- Every route is under the path of its responder, which is a key, and no key is there twice. -/
structure HasKeys (t : Table Responder) : Prop where
  nodup : t.keys.Nodup
  isKey : ∀ key e, t.get? key = some e → isKey key = true ∧ e.occupant.url.path = key

namespace HasKeys

variable {t t' : Table Responder}

theorem empty : HasKeys {} where
  nodup := List.nodup_nil
  isKey := by
    intro key e he
    cases he

/-- Every event keeps it. -/
theorem of_routeChange (h : HasKeys t) (hchange : RouteChange t t') : HasKeys t' := by
  cases hchange with
  | nothing => exact h
  | inserted r hkey =>
      refine ⟨Table.nodup_keys_put h.nodup r.url.path _, ?_⟩
      intro key e he
      change ((t.draw.2).put r.url.path ⟨t.draw.1, r⟩).get? key = some e at he
      rw [Table.get?_put] at he
      split at he
      · next heq =>
          obtain rfl := Option.some.inj he
          subst heq
          exact ⟨hkey, rfl⟩
      · exact h.isKey key e he
  | released registration =>
      refine ⟨Table.nodup_keys_remove h.nodup registration.path registration.id, ?_⟩
      intro key e he
      change (t.remove registration.path registration.id).get? key = some e at he
      rw [Table.get?_remove] at he
      split at he
      · cases he
      · exact h.isKey key e he

theorem isKey_of_mem (h : HasKeys t) {key : String} (hkey : key ∈ t.keys) :
    RevocationLab.Routing.isKey key = true := by
  obtain ⟨e, he⟩ := Option.isSome_iff_exists.1 ((t.mem_keys_iff key).1 hkey)
  exact (h.isKey key e he).1

/-- A path starts with at most one key of a table. -/
theorem eq_of_starts (h : HasKeys t) {path key other : String} (hkey : key ∈ t.keys)
    (hother : other ∈ t.keys) (hstarts : key.toList <+: path.toList)
    (hstarts' : other.toList <+: path.toList) : key = other := by
  have hfirst := key?_of_starts (key?_of_isKey (h.isKey_of_mem hkey)) hstarts
  have hsecond := key?_of_starts (key?_of_isKey (h.isKey_of_mem hother)) hstarts'
  exact Option.some.inj (hfirst.symm.trans hsecond)

/-- A look-up finds the responder under the key that the path starts with. -/
theorem lookup?_eq_some_iff (h : HasKeys t) {path key : String} {r : Responder} :
    t.lookup? path = some (key, r) ↔
      key.toList <+: path.toList ∧ (t.get? key).map Entry.occupant = some r := by
  rw [Table.lookup?_eq_some_iff]
  refine and_congr_left fun hentry => ?_
  obtain ⟨e, he, -⟩ := Option.map_eq_some_iff.1 hentry
  exact key?_eq_some_iff_starts (key?_of_isKey (h.isKey key e he).1)

end HasKeys

/-! ### Routing by prefix -/

/-- **How routes and paths belong together** in a laboratory, for every path of a request. -/
structure RoutesByPrefix (l : Lab) (path : String) : Prop where
  /-- A key is a slash, a segment without slashes and a slash, and the path of its responder. -/
  keys : ∀ key e, l.routes.get? key = some e →
    (∃ s : List Char, key.toList = '/' :: s ++ ['/'] ∧ s ≠ [] ∧ '/' ∉ s)
      ∧ e.occupant.url.path = key
  /-- No key is there twice. -/
  nodup : l.routes.keys.Nodup
  /-- The path starts with at most one of the keys. -/
  unique : ∀ key ∈ l.routes.keys, ∀ other ∈ l.routes.keys,
    key.toList <+: path.toList → other.toList <+: path.toList → key = other
  /-- A look-up finds the key that the path starts with, and the responder under it. -/
  lookup : ∀ key r, l.routes.lookup? path = some (key, r) ↔
    key.toList <+: path.toList ∧ (l.routes.get? key).map Entry.occupant = some r
  /-- The key and what follows it are the path. -/
  remainder : ∀ key r, l.routes.lookup? path = some (key, r) →
    key ++ Routing.remainder path key = path
  /-- The path has a key exactly if the scan of its octets finds the end of one. -/
  keyEnd : keyEnd? (Octets.ofText path) = (key? path).map String.utf8ByteSize
  /-- The end lies inside the path and between two characters, and what is cut off there is the key. -/
  slice : ∀ n, keyEnd? (Octets.ofText path) = some n →
    n ≤ path.utf8ByteSize ∧ String.Pos.Raw.IsValid path ⟨n⟩
      ∧ ∃ key, key? path = some key ∧ (Octets.ofText path).take n = Octets.ofText key
  /-- A responder is rejected exactly if its path is not a slash, a segment and a slash. -/
  rejected : ∀ r : Responder, (∃ error, (l.register r).2 = .error error) ↔
    ¬ ∃ s : List Char, r.url.path.toList = '/' :: s ++ ['/'] ∧ s ≠ [] ∧ '/' ∉ s
  /-- Nothing changes when a responder is rejected. -/
  unchanged : ∀ (r : Responder) error, (l.register r).2 = .error error → (l.register r).1 = l

namespace History

/-- Every route of a history is under a key. -/
theorem hasKeys_run (es : List Event) : HasKeys (run es).lab.routes := by
  induction es using List.reverseRecOn with
  | nil => exact HasKeys.empty
  | append_singleton es e ih =>
      rw [run_append_singleton]
      exact ih.of_routeChange (routeChange_perform (run es).lab e)

/-- **Routing is by prefix in every laboratory that can be reached.** -/
theorem routesByPrefix_run (es : List Event) (path : String) :
    RoutesByPrefix (run es).lab path where
  keys := by
    intro key e he
    obtain ⟨hkey, hpath⟩ := (hasKeys_run es).isKey key e he
    exact ⟨isKey_iff.1 hkey, hpath⟩
  nodup := (hasKeys_run es).nodup
  unique := fun _ hkey _ hother => (hasKeys_run es).eq_of_starts hkey hother
  lookup := fun _ _ => (hasKeys_run es).lookup?_eq_some_iff
  remainder := by
    intro key r h
    exact append_remainder ((hasKeys_run es).lookup?_eq_some_iff.1 h).1
  keyEnd := keyEnd?_ofText path
  slice := fun _ h => isValid_of_keyEnd? h
  rejected := by
    intro r
    rw [register_eq_error_iff, isKey_iff]
  unchanged := by
    intro r error herror
    have hkey := (register_eq_error_iff _).1 ⟨error, herror⟩
    rw [register_of_not_isKey _ hkey]

end History

end Lab

end RevocationLab
