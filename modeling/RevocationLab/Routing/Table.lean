/-
**The table of routes.**

A table holds at most one occupant under each key.  Every insertion draws the next number of a counter
of sixty-four bits, and the number decides later whether the occupant is still the one that was put
there: a claim on a route removes its own occupant or nothing at all.

An insertion has two steps, which others may come between: drawing the number, and putting the
occupant.

Main definitions:

* `Routing.Entry`, `Routing.Table`;
* `Routing.Table.draw`, `Routing.Table.put`, `Routing.Table.insert`;
* `Routing.Table.isCurrent`, `Routing.Table.remove`;
* `Routing.Table.lookup?`, `Routing.Table.keys`, `Routing.Table.size`.

Main results:

* `Routing.Table.get?_put`, `Routing.Table.get?_remove` — what a change does to each key.
-/

import RevocationLab.Keyed
import RevocationLab.Routing.Key

set_option autoImplicit false

namespace RevocationLab

namespace Routing

/-- An occupant with the number of its insertion. -/
structure Entry (α : Type) where
  id : Nat
  occupant : α
  deriving DecidableEq, Repr

/-- How many numbers the counter of insertions has; the first one follows the last. -/
def idCount : Nat := UInt64.size

/-- Occupants under keys, and the number of the next insertion. -/
structure Table (α : Type) where
  routes : Keyed String (Entry α) := []
  nextId : Nat := 0
  deriving DecidableEq, Repr

namespace Table

variable {α : Type}

/-! ### Looking -/

/-- The entry under a key. -/
def get? (t : Table α) (key : String) : Option (Entry α) := Keyed.get? t.routes key

/-- Whether the entry under a key is the one with this number. -/
def isCurrent (t : Table α) (key : String) (id : Nat) : Bool :=
  match t.get? key with
  | some e => e.id == id
  | none => false

/-- The key of a path with the occupant under it. -/
def lookup? (t : Table α) (path : String) : Option (String × α) := do
  let key ← key? path
  let e ← t.get? key
  return (key, e.occupant)

/-- The keys with an occupant. -/
def keys (t : Table α) : List String := Keyed.keys t.routes

/-- The number of occupants. -/
def size (t : Table α) : Nat := t.routes.length

/-! ### Changing -/

/-- The number of an insertion that starts, and the table after that. -/
def draw (t : Table α) : Nat × Table α :=
  (t.nextId, { t with nextId := (t.nextId + 1) % idCount })

/-- The table with this entry under a key. -/
def put (t : Table α) (key : String) (e : Entry α) : Table α :=
  { t with routes := Keyed.put t.routes key e }

/-- The number of an insertion of an occupant, and the table after it. -/
def insert (t : Table α) (key : String) (occupant : α) : Nat × Table α :=
  let (id, t) := t.draw
  (id, t.put key ⟨id, occupant⟩)

/-- The table without the entry under a key, if it is the one with this number. -/
def remove (t : Table α) (key : String) (id : Nat) : Table α :=
  if t.isCurrent key id then { t with routes := Keyed.erase t.routes key } else t

/-! ### What a change does -/

theorem isCurrent_iff {t : Table α} {key : String} {id : Nat} :
    t.isCurrent key id = true ↔ ∃ e, t.get? key = some e ∧ e.id = id := by
  unfold isCurrent
  cases h : t.get? key <;> simp

/-- Putting an entry changes one key. -/
theorem get?_put (t : Table α) (key k : String) (e : Entry α) :
    (t.put key e).get? k = if key = k then some e else t.get? k :=
  Keyed.get?_put t.routes key k e

/-- Removing an entry empties its key if the entry is still there, and changes nothing otherwise. -/
theorem get?_remove (t : Table α) (key k : String) (id : Nat) :
    (t.remove key id).get? k =
      if key = k ∧ t.isCurrent key id = true then none else t.get? k := by
  by_cases h : t.isCurrent key id = true
  · simpa [remove, h, get?] using Keyed.get?_erase t.routes key k
  · simp [remove, h]

@[simp] theorem nextId_put (t : Table α) (key : String) (e : Entry α) :
    (t.put key e).nextId = t.nextId := rfl

@[simp] theorem nextId_remove (t : Table α) (key : String) (id : Nat) :
    (t.remove key id).nextId = t.nextId := by
  unfold remove
  split <;> rfl

theorem nodup_keys_put {t : Table α} (h : t.keys.Nodup) (key : String) (e : Entry α) :
    (t.put key e).keys.Nodup :=
  Keyed.nodup_put h key e

theorem nodup_keys_remove {t : Table α} (h : t.keys.Nodup) (key : String) (id : Nat) :
    (t.remove key id).keys.Nodup := by
  unfold remove
  split
  · exact Keyed.nodup_erase h key
  · exact h

theorem size_eq_length_keys (t : Table α) : t.size = t.keys.length := by
  simp [size, keys, Keyed.keys]

theorem mem_keys_iff (t : Table α) (key : String) : key ∈ t.keys ↔ (t.get? key).isSome = true :=
  Keyed.mem_keys_iff t.routes key

/-- A look-up finds the occupant under the key of the path. -/
theorem lookup?_eq_some_iff {t : Table α} {path key : String} {a : α} :
    t.lookup? path = some (key, a) ↔
      key? path = some key ∧ (t.get? key).map Entry.occupant = some a := by
  simp only [lookup?, Option.pure_def, Option.bind_eq_bind, Option.bind_eq_some_iff,
    Option.some.injEq, Prod.mk.injEq, Option.map_eq_some_iff]
  constructor
  · rintro ⟨k, hk, e, he, rfl, rfl⟩
    exact ⟨hk, e, he, rfl⟩
  · rintro ⟨hk, e, he, rfl⟩
    exact ⟨key, hk, e, he, rfl, rfl⟩

end Table

end Routing

end RevocationLab
