/-
**Registering several responders.**

Responders whose paths are keys, all different and all free, are registered one after another without
getting into each other's way: each of them is put where nothing was, and stays there.  So in the end
every registration is active, and a path that starts with one of the keys is looked up to the responder
that was registered there.

Main definitions:

* `Lab.registerAll` — the laboratory after some registrations, with their answers;
* `Lab.AreFree` — responders with keys that are all different and free;
* `Lab.Registered` — **what becomes of some responders that are registered**.

Main results:

* `Lab.exists_registerAll` — what is under each key in the end;
* `Lab.registered_of_areFree` — **responders with free keys are all registered**.
-/

import RevocationLab.Proofs.Lab.Routes

set_option autoImplicit false

namespace RevocationLab

open Routing

namespace Lab

/-! ### One registration -/

/-- Registering changes what is under one key. -/
theorem get?_register (l : Lab) {r : Responder} (h : isKey r.url.path = true) (key : String) :
    (l.register r).1.routes.get? key
      = if r.url.path = key then some ⟨l.routes.nextId, r⟩ else l.routes.get? key := by
  rw [(l.register_of_isKey h).1]
  exact Table.get?_put _ _ _ _

theorem routesGone_register (l : Lab) (r : Responder) :
    (l.register r).1.routesGone = l.routesGone := by
  by_cases h : isKey r.url.path = true
  · simp only [register, h, if_true, insertRoute]
    cases l.routes.get? r.url.path <;> rfl
  · rw [l.register_of_not_isKey h]

/-- Registering under a free key makes one route more. -/
theorem size_register (l : Lab) {r : Responder} (h : isKey r.url.path = true)
    (hfree : l.routes.get? r.url.path = none) :
    (l.register r).1.routes.size = l.routes.size + 1 := by
  have hnot : r.url.path ∉ Keyed.keys l.routes.routes := by
    rw [Keyed.mem_keys_iff, Option.not_isSome_iff_eq_none]
    exact hfree
  have hlength := Keyed.length_put l.routes.routes r.url.path ⟨l.routes.nextId, r⟩
  rw [if_neg hnot] at hlength
  rw [(l.register_of_isKey h).1]
  exact hlength

/-! ### Some registrations -/

/-- The laboratory once some responders were registered one after another, and the answers. -/
def registerAll (l : Lab) : List Responder → Lab × List (Except RegistrationError Registration)
  | [] => (l, [])
  | r :: rs =>
      let done := registerAll (l.register r).1 rs
      (done.1, (l.register r).2 :: done.2)

/-- Responders whose paths are keys, all different, with nothing under them. -/
structure AreFree (l : Lab) (rs : List Responder) : Prop where
  keys : ∀ r ∈ rs, isKey r.url.path = true
  apart : (rs.map fun r => r.url.path).Nodup
  free : ∀ r ∈ rs, l.routes.get? r.url.path = none

namespace AreFree

variable {l : Lab} {r : Responder} {rs rs' : List Responder}

/-- The others are still free after the first one. -/
theorem tail (h : AreFree l (r :: rs)) : AreFree (l.register r).1 rs where
  keys := fun q hq => h.keys q (List.mem_cons_of_mem r hq)
  apart := (List.nodup_cons.1 h.apart).2
  free := by
    intro q hq
    have hne : r.url.path ≠ q.url.path := by
      intro heq
      exact (List.nodup_cons.1 h.apart).1 (List.mem_map.2 ⟨q, hq, heq.symm⟩)
    rw [get?_register l (h.keys r List.mem_cons_self), if_neg hne]
    exact h.free q (List.mem_cons_of_mem r hq)

/-- The order does not matter. -/
theorem perm (h : AreFree l rs) (hperm : rs'.Perm rs) : AreFree l rs' where
  keys := fun r hr => h.keys r (hperm.mem_iff.1 hr)
  apart := (hperm.map _).nodup_iff.2 h.apart
  free := fun r hr => h.free r (hperm.mem_iff.1 hr)

theorem left {before after : List Responder} (h : AreFree l (before ++ after)) :
    AreFree l before where
  keys := fun r hr => h.keys r (List.mem_append_left after hr)
  apart := (List.nodup_append.1 (by simpa using h.apart)).1
  free := fun r hr => h.free r (List.mem_append_left after hr)

end AreFree

theorem routesGone_registerAll (l : Lab) (rs : List Responder) :
    (l.registerAll rs).1.routesGone = l.routesGone := by
  induction rs generalizing l with
  | nil => rfl
  | cons r rs ih => exact (ih _).trans (l.routesGone_register r)

/-- Nothing changes under other keys. -/
theorem get?_registerAll {l : Lab} {rs : List Responder} (h : ∀ r ∈ rs, isKey r.url.path = true)
    {key : String} (hkey : key ∉ rs.map fun r => r.url.path) :
    (l.registerAll rs).1.routes.get? key = l.routes.get? key := by
  induction rs generalizing l with
  | nil => rfl
  | cons r rs ih =>
      obtain ⟨hr, hrest⟩ := List.forall_mem_cons.1 h
      rw [List.map_cons, List.mem_cons, not_or] at hkey
      rw [registerAll, ih hrest hkey.2, get?_register l hr, if_neg (Ne.symm hkey.1)]

theorem size_registerAll {l : Lab} {rs : List Responder} (h : AreFree l rs) :
    (l.registerAll rs).1.routes.size = l.routes.size + rs.length := by
  induction rs generalizing l with
  | nil => rfl
  | cons r rs ih =>
      have hone := l.size_register (h.keys r List.mem_cons_self) (h.free r List.mem_cons_self)
      rw [registerAll, ih h.tail, hone, List.length_cons]
      omega

/-- The registration that an entry was made with. -/
def registrationOf (e : Entry Responder) : Registration := ⟨e.occupant.url.path, e.id⟩

/-- **Every responder is under its key in the end**, with the number of its registration. -/
theorem exists_registerAll {l : Lab} {rs : List Responder} (h : AreFree l rs) :
    ∃ entries : List (Entry Responder), entries.map Entry.occupant = rs
      ∧ (l.registerAll rs).2 = entries.map (fun e => .ok (registrationOf e))
      ∧ ∀ e ∈ entries, (l.registerAll rs).1.routes.get? e.occupant.url.path = some e := by
  induction rs generalizing l with
  | nil => exact ⟨[], rfl, rfl, by simp⟩
  | cons r rs ih =>
      obtain ⟨entries, rfl, hanswers, hentries⟩ := ih h.tail
      have hr := h.keys r List.mem_cons_self
      refine ⟨⟨l.routes.nextId, r⟩ :: entries, rfl, ?_, List.forall_mem_cons.2 ⟨?_, hentries⟩⟩
      · rw [registerAll, hanswers, (l.register_of_isKey hr).2]
        rfl
      · -- nobody comes under the key of the first one later
        rw [registerAll, get?_registerAll h.tail.keys (List.nodup_cons.1 h.apart).1,
          get?_register l hr, if_pos rfl]

/-! ### What becomes of them -/

/-- **What becomes of some responders that are registered** one after another. -/
structure Registered (l : Lab) (rs : List Responder) : Prop where
  /-- All of them are answered with a registration of their path that is active in the end. -/
  answered : ∃ registrations : List Registration,
    (l.registerAll rs).2 = registrations.map .ok
      ∧ registrations.map Registration.path = rs.map (fun r => r.url.path)
      ∧ ∀ registration ∈ registrations, (l.registerAll rs).1.isActive registration = true
  /-- Each one is put where nothing is, -/
  fresh : ∀ before r after, rs = before ++ r :: after →
    (l.registerAll before).1.routes.get? r.url.path = none
  /-- whoever had a route keeps it, -/
  kept : ∀ key e, l.routes.get? key = some e → (l.registerAll rs).1.routes.get? key = some e
  /-- and so there is one route more for each. -/
  size : (l.registerAll rs).1.routes.size = l.routes.size + rs.length
  /-- A path that starts with the path of one of them is looked up to that one. -/
  lookup : ∀ r ∈ rs, ∀ rest,
    (l.registerAll rs).1.routes.lookup? (r.url.path ++ rest) = some (r.url.path, r)

/-- **Responders with free keys are all registered.** -/
theorem registered_of_areFree {l : Lab} (hl : l.routesGone = false) {rs : List Responder}
    (h : AreFree l rs) : Registered l rs where
  answered := by
    obtain ⟨entries, hrs, hanswers, hentries⟩ := exists_registerAll h
    refine ⟨entries.map registrationOf, by rw [hanswers, List.map_map]; rfl, ?_, ?_⟩
    · rw [← hrs, List.map_map, List.map_map]
      rfl
    · intro registration hmem
      obtain ⟨e, he, rfl⟩ := List.mem_map.1 hmem
      have hcurrent := Table.isCurrent_iff.2 ⟨e, hentries e he, rfl⟩
      rw [isActive, routesGone_registerAll, hl]
      exact hcurrent
  fresh := by
    rintro before r after rfl
    have hnot : r.url.path ∉ before.map fun r => r.url.path := by
      intro hmem
      have happart := h.apart
      rw [List.map_append, List.map_cons] at happart
      exact (List.nodup_append.1 happart).2.2 _ hmem _ List.mem_cons_self rfl
    rw [get?_registerAll h.left.keys hnot]
    exact h.free r (by simp)
  kept := by
    intro key e he
    have hnot : key ∉ rs.map fun r => r.url.path := by
      intro hmem
      obtain ⟨r, hr, rfl⟩ := List.mem_map.1 hmem
      rw [h.free r hr] at he
      cases he
    rw [get?_registerAll h.keys hnot, he]
  size := size_registerAll h
  lookup := by
    intro r hr rest
    obtain ⟨entries, hrs, -, hentries⟩ := exists_registerAll h
    rw [← hrs] at hr
    obtain ⟨e, he, rfl⟩ := List.mem_map.1 hr
    refine Table.lookup?_eq_some_iff.2 ⟨?_, by rw [hentries e he, Option.map_some]⟩
    exact key?_append (key?_of_isKey (h.keys _ (hrs ▸ hr))) rest

end Lab

end RevocationLab
