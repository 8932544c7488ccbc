/-
**Values under keys.**

A list of pairs in which a key is written once; a value written under a key replaces the one that was
there, and otherwise goes to the end.

Main definitions:

* `Keyed`, `Keyed.get?`, `Keyed.put`, `Keyed.erase`, `Keyed.keys`.

Main results:

* `Keyed.get?_put`, `Keyed.get?_erase` — **a change under one key leaves all other keys alone**;
* `Keyed.nodup_put`, `Keyed.nodup_erase` — keys stay apart;
* `Keyed.length_put`, `Keyed.length_erase` — how many values a change leaves.
-/

set_option autoImplicit false

namespace RevocationLab

/-- Values under keys. -/
abbrev Keyed (κ α : Type) := List (κ × α)

namespace Keyed

variable {κ α : Type}

/-- The keys in the order in which they came. -/
def keys (t : Keyed κ α) : List κ := t.map Prod.fst

theorem mem_keys_cons_of_ne {e : κ × α} {k : κ} (h : e.1 ≠ k) (r : Keyed κ α) :
    k ∈ keys (e :: r) ↔ k ∈ keys r := by
  simp [keys, Ne.symm h]

variable [DecidableEq κ]

/-- The value under a key. -/
def get? : Keyed κ α → κ → Option α
  | [], _ => none
  | e :: r, k => if e.1 = k then some e.2 else get? r k

/-- The pairs with this value under a key. -/
def put : Keyed κ α → κ → α → Keyed κ α
  | [], k, a => [(k, a)]
  | e :: r, k, a => if e.1 = k then (k, a) :: r else e :: put r k a

/-- The pairs without a key. -/
def erase (t : Keyed κ α) (k : κ) : Keyed κ α := t.filter fun e => e.1 ≠ k

/-! ### Values -/

@[simp] theorem get?_nil (k : κ) : get? ([] : Keyed κ α) k = none := rfl

/-- **Writing under one key leaves all other keys alone.** -/
theorem get?_put (t : Keyed κ α) (k l : κ) (a : α) :
    get? (put t k a) l = if k = l then some a else get? t l := by
  induction t with
  | nil => simp [put, get?]
  | cons e r ih =>
      by_cases h : e.1 = k
      · subst h
        by_cases hl : e.1 = l <;> simp [put, get?, hl]
      · by_cases hl : e.1 = l
        · subst hl
          simp [put, get?, h, Ne.symm h]
        · simp [put, get?, h, hl, ih]

/-- **Erasing one key leaves all other keys alone.** -/
theorem get?_erase (t : Keyed κ α) (k l : κ) :
    get? (erase t k) l = if k = l then none else get? t l := by
  induction t with
  | nil => simp [erase, get?]
  | cons e r ih =>
      by_cases h : e.1 = k
      · subst h
        have : erase (e :: r) e.1 = erase r e.1 := by simp [erase]
        rw [this, ih]
        by_cases hl : e.1 = l <;> simp [get?, hl]
      · have : erase (e :: r) k = e :: erase r k := by simp [erase, h]
        rw [this]
        by_cases hl : e.1 = l
        · subst hl
          simp [get?, Ne.symm h]
        · simp [get?, hl, ih]

/-! ### Keys -/

theorem mem_keys_iff (t : Keyed κ α) (k : κ) : k ∈ keys t ↔ (get? t k).isSome = true := by
  induction t with
  | nil => simp [keys]
  | cons e r ih =>
      by_cases h : e.1 = k
      · simp [keys, get?, h]
      · simp only [keys] at ih
        simp [keys, get?, h, Ne.symm h, ih]

theorem mem_keys_put (t : Keyed κ α) (k l : κ) (a : α) :
    l ∈ keys (put t k a) ↔ l = k ∨ l ∈ keys t := by
  rw [mem_keys_iff, mem_keys_iff, get?_put]
  by_cases h : k = l
  · simp [h]
  · simp [h, Ne.symm h]

/-- Keys stay apart when a value is written. -/
theorem nodup_put {t : Keyed κ α} (h : (keys t).Nodup) (k : κ) (a : α) :
    (keys (put t k a)).Nodup := by
  induction t with
  | nil => simp [put, keys]
  | cons e r ih =>
      simp only [keys, List.map_cons, List.nodup_cons] at h
      by_cases he : e.1 = k
      · subst he
        simpa [put, keys] using h
      · simp only [put, he, if_false, keys, List.map_cons, List.nodup_cons]
        refine ⟨fun hm => ?_, ih h.2⟩
        rcases (mem_keys_put r k e.1 a).1 hm with hk | hk
        · exact he hk
        · exact h.1 hk

/-- Keys stay apart when one is erased. -/
theorem nodup_erase {t : Keyed κ α} (h : (keys t).Nodup) (k : κ) : (keys (erase t k)).Nodup :=
  h.sublist (List.Sublist.map _ List.filter_sublist)

/-! ### How many there are -/

/-- A value goes to the end only under a new key. -/
theorem length_put (t : Keyed κ α) (k : κ) (a : α) :
    (put t k a).length = t.length + if k ∈ keys t then 0 else 1 := by
  induction t with
  | nil => rfl
  | cons e r ih =>
      by_cases he : e.1 = k
      · simp [put, keys, he]
      · simp only [put, he, if_false, List.length_cons, ih, mem_keys_cons_of_ne he]
        omega

/-- At most one value is under a key. -/
theorem length_erase {t : Keyed κ α} (h : (keys t).Nodup) (k : κ) :
    t.length = (erase t k).length + if k ∈ keys t then 1 else 0 := by
  induction t with
  | nil => rfl
  | cons e r ih =>
      simp only [keys, List.map_cons, List.nodup_cons] at h
      have hrest := ih h.2
      by_cases he : e.1 = k
      · subst he
        have hgone : erase (e :: r) e.1 = erase r e.1 := by simp [erase]
        have hnew : e.1 ∉ keys r := h.1
        rw [if_neg hnew] at hrest
        rw [hgone, List.length_cons, hrest]
        simp [keys]
      · have hkept : erase (e :: r) k = e :: erase r k := by simp [erase, he]
        simp only [hkept, List.length_cons, mem_keys_cons_of_ne he]
        omega

end Keyed

end RevocationLab
