/-
**Laws of decoders.**

A value reads back when its octets, in front of anything, give the value and leave the rest.  Some
values are written that no decoder accepts, so the law says for each value whether it reads back or is
refused.  The laws of the combinators build that of a type from those of its parts, along the grammar;
a field that may be absent needs to know what follows it.

Main definitions:

* `Der.Decoder.ReadsBack` — a value reads back, or is refused, in front of anything;
* `Der.Decoder.Absent` — what may follow a numbered field that is not there.

Main results:

* `Der.Decoder.ReadsBack.inside`, `Der.Decoder.ReadsBack.reading`, `Der.Decoder.ReadsBack.listOf` —
  elements and lists;
* `Der.Decoder.whole_bind`, `Der.Decoder.whole_explicit` — the fields of a sequence, in order;
* `Der.Decoder.whole_many` — **a list reads back exactly if all its values do**.
-/

import Mathlib.Tactic.IntervalCases
import RevocationLab.Der.Primitive
import RevocationLab.Proofs.Der.Element

set_option autoImplicit false

namespace RevocationLab

namespace Der

/-! ### Tags -/

/-- What is to be known about the tag of a numbered field. -/
theorem contextConstructed_spec {n : Nat} (hn : n < 31) :
    Tag.isKnown (Tag.contextConstructed n) = true ∧ Tag.isContext (Tag.contextConstructed n) = true
      ∧ Tag.number (Tag.contextConstructed n) = n
      ∧ Tag.isConstructed (Tag.contextConstructed n) = true := by
  revert n
  decide

namespace Decoder

variable {α β : Type}

/-! ### Running -/

theorem run_bind (d : Decoder α) (f : α → Decoder β) (b : Octets) :
    (d >>= f).run b = (d.run b).bind fun p => (f p.1).run p.2 := rfl

theorem run_map (f : α → β) (d : Decoder α) (b : Octets) :
    (f <$> d).run b = (d.run b).map fun p => (f p.1, p.2) := by
  rw [map_eq_pure_bind, run_bind]
  cases d.run b <;> rfl

theorem whole_eq_some_iff {d : Decoder α} {b : Octets} {x : α} :
    whole d b = some x ↔ d.run b = some (x, []) := by
  unfold whole
  split
  · next y h => simp [h]
  · next h =>
      simp only [reduceCtorEq, false_iff]
      exact fun hx => h x hx

theorem whole_pure (x : α) : whole (pure x) [] = some x := rfl

/-! ### Values that read back -/

/-- The octets in front of anything give the value and leave the rest, if `ok` is set, and are refused
otherwise. -/
def ReadsBack (d : Decoder α) (b : Octets) (x : α) (ok : Bool) : Prop :=
  ∀ rest, d.run (b ++ rest) = if ok then some (x, rest) else none

namespace ReadsBack

variable {d : Decoder α} {b : Octets} {x : α} {ok : Bool}

theorem whole (h : ReadsBack d b x ok) : whole d b = if ok then some x else none := by
  have hrun := h []
  rw [List.append_nil] at hrun
  unfold Decoder.whole
  rw [hrun]
  cases ok <;> rfl

theorem map (h : ReadsBack d b x ok) (f : α → β) : ReadsBack (f <$> d) b (f x) ok := by
  intro rest
  rw [run_map, h rest]
  cases ok <;> rfl

end ReadsBack

theorem decode?_eq_some_iff {d : Decoder α} {b : Octets} {x : α} :
    decode? d b = some x ↔ b.length ≤ maxLength ∧ whole d b = some x := by
  unfold decode?
  exact Option.ite_none_right_eq_some

theorem ReadsBack.decode? {d : Decoder α} {b : Octets} {x : α} {ok : Bool} (h : ReadsBack d b x ok)
    (hlen : b.length ≤ maxLength) : decode? d b = if ok then some x else none := by
  unfold Der.decode?
  rw [if_pos hlen, h.whole]

/-- The first field of a sequence is read, and then the others. -/
theorem whole_bind {d : Decoder α} {b : Octets} {x : α} {ok : Bool} (h : ReadsBack d b x ok)
    (f : α → Decoder β) (r : Octets) :
    whole (d >>= f) (b ++ r) = if ok then whole (f x) r else none := by
  unfold whole
  rw [run_bind, h]
  cases ok <;> rfl

/-- The last field of a sequence is read. -/
theorem whole_bind_last {d : Decoder α} {b : Octets} {x : α} {ok : Bool} (h : ReadsBack d b x ok)
    (f : α → Decoder β) : whole (d >>= f) b = if ok then whole (f x) [] else none := by
  simpa using whole_bind h f []

/-! ### Elements -/

theorem run_content (tag : Tag) (b : Octets) :
    (content tag).run b =
      (readElement b).bind fun p => if p.1.tag = tag then some (p.1.content, p.2) else none := by
  change content tag b = _
  unfold content
  cases readElement b <;> rfl

/-- The content of an element reads back. -/
theorem ReadsBack.content {tag : Tag} {c : Octets} (ht : Tag.isKnown tag = true)
    (hc : c.length ≤ maxLength) : ReadsBack (content tag) (element tag c) c true := by
  intro rest
  rw [run_content, readElement_element ht hc]
  simp

/-- **A value that fills an element reads back** as its content does. -/
theorem ReadsBack.inside {tag : Tag} {c : Octets} {d : Decoder α} {x : α} {ok : Bool}
    (ht : Tag.isKnown tag = true) (hc : c.length ≤ maxLength)
    (h : Decoder.whole d c = if ok then some x else none) :
    ReadsBack (inside tag d) (element tag c) x ok := by
  intro rest
  have hwithin : (within d c).run rest = (Decoder.whole d c).map fun x => (x, rest) := rfl
  rw [Decoder.inside, run_bind, ReadsBack.content ht hc rest, if_pos rfl, Option.bind_some, hwithin, h]
  cases ok <;> rfl

/-- A value that a function reads out of a content reads back as the function says. -/
theorem ReadsBack.reading {tag : Tag} {c : Octets} {read : Octets → Option α} {x : α} {ok : Bool}
    (ht : Tag.isKnown tag = true) (hc : c.length ≤ maxLength)
    (h : read c = if ok then some x else none) :
    ReadsBack (reading tag read) (element tag c) x ok := by
  intro rest
  have hrun : (Decoder.reading tag read).run (element tag c ++ rest) =
      ((Decoder.content tag).run (element tag c ++ rest)).bind fun p =>
        (read p.1).bind fun x => some (x, p.2) := rfl
  rw [hrun, ReadsBack.content ht hc rest, if_pos rfl, Option.bind_some, h]
  cases ok <;> rfl

/-- What fills an element and is read back alone is read back in front of anything. -/
theorem ReadsBack.of_whole {tag : Tag} {c : Octets} {d : Decoder α} {x : α}
    (ht : Tag.isKnown tag = true) (hc : c.length ≤ maxLength)
    (h : Decoder.whole (Decoder.inside tag d) (element tag c) = some x) :
    ReadsBack (Decoder.inside tag d) (element tag c) x true := by
  refine ReadsBack.inside ht hc ?_
  have hrun := (ReadsBack.content ht hc) []
  rw [List.append_nil] at hrun
  have hwithin : (within d c).run [] = (Decoder.whole d c).map fun x => (x, []) := rfl
  rw [whole_eq_some_iff, Decoder.inside, run_bind, hrun, if_pos rfl, Option.bind_some, hwithin] at h
  simpa using h

/-- An element reads back if its tag may occur. -/
theorem ReadsBack.any {e : Element} (h : e.content.length ≤ maxLength) :
    ReadsBack any e.encode e (Tag.isKnown e.tag) :=
  fun rest => readElement_encode e h rest

/-- A value that is made of an element reads back as it is made. -/
theorem ReadsBack.ofElement {f : Element → Decoder α} {e : Element} {x : α} {ok : Bool}
    (ht : Tag.isKnown e.tag = true) (hc : e.content.length ≤ maxLength)
    (h : ∀ rest, (f e).run rest = if ok then some (x, rest) else none) :
    ReadsBack (Decoder.any >>= f) e.encode x ok := by
  intro rest
  rw [run_bind, ReadsBack.any hc rest, if_pos ht, Option.bind_some]
  exact h rest

/-! ### Lists -/

theorem manyUpTo_nil (d : Decoder α) (fuel : Nat) : manyUpTo d fuel [] = some [] := by
  cases fuel <;> rfl

theorem manyUpTo_cons (d : Decoder α) (fuel : Nat) {b : Octets} (hb : b ≠ []) :
    manyUpTo d (fuel + 1) b =
      (d.run b).bind fun p => (manyUpTo d fuel p.2).map fun xs => p.1 :: xs := by
  cases b with
  | nil => exact absurd rfl hb
  | cons y r =>
      have hdef : manyUpTo d (fuel + 1) (y :: r) = (d.run (y :: r)).bind fun p =>
          (manyUpTo d fuel p.2).bind fun xs => some (p.1 :: xs) := rfl
      rw [hdef]
      cases d.run (y :: r) with
      | none => rfl
      | some p =>
          simp only [Option.bind_some]
          cases manyUpTo d fuel p.2 <;> rfl

theorem manyUpTo_flatMap {d : Decoder α} {write : α → Octets} {ok : α → Bool} {xs : List α}
    (h : ∀ x ∈ xs, ReadsBack d (write x) x (ok x)) (hne : ∀ x ∈ xs, write x ≠ []) {fuel : Nat}
    (hfuel : (xs.flatMap write).length ≤ fuel) :
    manyUpTo d fuel (xs.flatMap write) = if xs.all ok then some xs else none := by
  -- the fuel is the length of what is left, and every value takes at least one octet of it
  induction xs generalizing fuel with
  | nil => exact manyUpTo_nil d fuel
  | cons x xs ih =>
      have hx : write x ≠ [] := hne x List.mem_cons_self
      have hpos : 0 < (write x).length := List.length_pos_iff.2 hx
      rw [List.flatMap_cons, List.length_append] at hfuel
      obtain ⟨fuel, rfl⟩ : ∃ k, fuel = k + 1 := ⟨fuel - 1, by omega⟩
      have hb : write x ++ xs.flatMap write ≠ [] := by simp [hx]
      have hroom : (xs.flatMap write).length ≤ fuel := by omega
      have hrest := ih (fun y hy => h y (List.mem_cons_of_mem _ hy))
        (fun y hy => hne y (List.mem_cons_of_mem _ hy)) hroom
      rw [List.flatMap_cons, manyUpTo_cons d fuel hb, h x List.mem_cons_self, List.all_cons]
      cases ok x with
      | false => rfl
      | true =>
          simp only [if_true, Option.bind_some, hrest, Bool.true_and]
          cases xs.all ok <;> rfl

/-- **A list reads back exactly if all its values do.** -/
theorem whole_many {d : Decoder α} {write : α → Octets} {ok : α → Bool} {xs : List α}
    (h : ∀ x ∈ xs, ReadsBack d (write x) x (ok x)) (hne : ∀ x ∈ xs, write x ≠ []) :
    whole (many d) (xs.flatMap write) = if xs.all ok then some xs else none := by
  have hrun : (many d).run (xs.flatMap write)
      = (manyUpTo d (xs.flatMap write).length (xs.flatMap write)).map fun xs => (xs, []) := rfl
  unfold whole
  rw [hrun, manyUpTo_flatMap h hne le_rfl]
  cases xs.all ok <;> rfl

theorem ReadsBack.listOf {d : Decoder α} {write : α → Octets} {ok : α → Bool} {xs : List α}
    (h : ∀ x ∈ xs, ReadsBack d (write x) x (ok x)) (hne : ∀ x ∈ xs, write x ≠ [])
    (hlen : (xs.flatMap write).length ≤ maxLength) :
    ReadsBack (listOf d) (element Tag.sequence (xs.flatMap write)) xs (xs.all ok) :=
  ReadsBack.inside (by decide) hlen (whole_many h hne)

/-! ### Fields that may be absent -/

theorem run_nextTag_cons {tag : Tag} {r : Octets} (ht : Tag.isKnown tag = true) :
    nextTag.run (tag :: r) = some (some tag, tag :: r) := by
  change nextTag (tag :: r) = _
  simp [nextTag, ht]

/-- No optional value is read in front of a tag that may not occur. -/
theorem run_optional_unknown (accepts : Tag → Bool) {tag : Tag} {r : Octets}
    (ht : Tag.isKnown tag = false) (d : Decoder α) : (optional accepts d).run (tag :: r) = none := by
  have htag : nextTag.run (tag :: r) = none := if_neg (by simp [ht])
  rw [optional, run_bind, htag]
  rfl

/-- An optional value is there if the next tag is one of its tags. -/
theorem run_optional_cons {accepts : Tag → Bool} {tag : Tag} {r : Octets}
    (ht : Tag.isKnown tag = true) (d : Decoder α) :
    (optional accepts d).run (tag :: r) =
      if accepts tag then (some <$> d).run (tag :: r) else some (none, tag :: r) := by
  rw [optional, run_bind, run_nextTag_cons ht, Option.bind_some]
  simp only
  split <;> rfl

/-- What may follow a field with number `n` that is not there: nothing, or an element that is no
field with a number up to `n`. -/
def Absent (n : Nat) (b : Octets) : Prop :=
  b = [] ∨ ∃ tag r, b = tag :: r ∧ Tag.isKnown tag = true
    ∧ (Tag.isContext tag = true → n < Tag.number tag)

theorem Absent.nil (n : Nat) : Absent n [] := Or.inl rfl

/-- A universal element follows any numbered field that is not there. -/
theorem Absent.element {tag : Tag} (ht : Tag.isKnown tag = true) (hc : Tag.isContext tag = false)
    (n : Nat) (c r : Octets) : Absent n (element tag c ++ r) :=
  Or.inr ⟨tag, lengthOctets c.length ++ c ++ r, rfl, ht, fun h => by rw [hc] at h; cases h⟩

/-- A field with a higher number follows one that is not there. -/
theorem Absent.field {n m : Nat} (hm : m < 31) (h : n < m) (c r : Octets) :
    Absent n (Der.element (Tag.contextConstructed m) c ++ r) := by
  obtain ⟨hknown, -, hnumber, -⟩ := contextConstructed_spec hm
  exact Or.inr ⟨_, lengthOctets c.length ++ c ++ r, rfl, hknown, fun _ => by rw [hnumber]; exact h⟩

theorem skipBelow_absent {n : Nat} {b : Octets} (h : Absent n b) (fuel : Nat) :
    skipBelow n fuel b = some b := by
  -- only fields with lower numbers are skipped, and the first element is none of them
  rcases h with rfl | ⟨tag, r, rfl, hknown, hnumber⟩
  · cases fuel <;> rfl
  · cases fuel with
    | zero => rfl
    | succ fuel =>
        rw [skipBelow, if_pos hknown]
        cases hc : Tag.isContext tag with
        | false => rfl
        | true =>
            have hlow : ¬ Tag.number tag < n := Nat.not_lt.2 (Nat.le_of_lt (hnumber hc))
            simp [hlow]

theorem run_numbered_absent {n : Nat} {b : Octets} (h : Absent n b) :
    (numbered n).run b = some (none, b) := by
  change numbered n b = _
  rw [numbered, skipBelow_absent h]
  rcases h with rfl | ⟨tag, r, rfl, hknown, hnumber⟩
  · rfl
  · cases hc : Tag.isContext tag with
    | false => simp [hc]
    | true =>
        have hne : Tag.number tag ≠ n := (Nat.ne_of_lt (hnumber hc)).symm
        simp [hc, hne]

theorem run_numbered_element {n : Nat} (hn : n < 31) {c : Octets} (hc : c.length ≤ maxLength)
    (rest : Octets) :
    (numbered n).run (element (Tag.contextConstructed n) c ++ rest)
      = some (some ⟨Tag.contextConstructed n, c⟩, rest) := by
  obtain ⟨hknown, hcontext, hnumber, -⟩ := contextConstructed_spec hn
  have hread := readElement_element hknown hc rest
  -- the tag in front is all that decides whether the field is there
  obtain ⟨r, hr⟩ : ∃ r, element (Tag.contextConstructed n) c ++ rest
      = Tag.contextConstructed n :: r := ⟨lengthOctets c.length ++ c ++ rest, rfl⟩
  rw [hr] at hread ⊢
  have hskip : ∀ fuel, skipBelow n fuel (Tag.contextConstructed n :: r)
      = some (Tag.contextConstructed n :: r) := by
    intro fuel
    cases fuel with
    | zero => rfl
    | succ fuel => simp [skipBelow, hknown, hnumber]
  change numbered n (Tag.contextConstructed n :: r) = _
  simp [numbered, hskip, hcontext, hnumber, hread]

/-- A numbered field that is not there takes nothing. -/
theorem run_explicit_absent {n : Nat} {b : Octets} (h : Absent n b) (d : Decoder α) :
    (explicit n d).run b = some (none, b) := by
  rw [explicit, run_bind, run_numbered_absent h]
  rfl

theorem run_implicit_absent {n : Nat} {b : Octets} (h : Absent n b) (read : Octets → Option α) :
    (implicit n read).run b = some (none, b) := by
  rw [implicit, run_bind, run_numbered_absent h]
  rfl

theorem whole_explicit_absent {n : Nat} {b : Octets} (h : Absent n b) (d : Decoder α)
    (f : Option α → Decoder β) : whole (explicit n d >>= f) b = whole (f none) b := by
  unfold whole
  rw [run_bind, run_explicit_absent h]
  rfl

theorem whole_implicit_absent {n : Nat} {b : Octets} (h : Absent n b) (read : Octets → Option α)
    (f : Option α → Decoder β) : whole (implicit n read >>= f) b = whole (f none) b := by
  unfold whole
  rw [run_bind, run_implicit_absent h]
  rfl

/-- A numbered field around a value reads back as the value does. -/
theorem ReadsBack.explicit {n : Nat} (hn : n < 31) {c : Octets} (hc : c.length ≤ maxLength)
    {d : Decoder α} {x : α} {ok : Bool}
    (h : Decoder.whole d c = if ok then some x else none) :
    ReadsBack (explicit n d) (element (Tag.contextConstructed n) c) (some x) ok := by
  intro rest
  obtain ⟨-, -, -, hconstructed⟩ := contextConstructed_spec hn
  have hwithin : (within d c).run rest = (Decoder.whole d c).map fun x => (x, rest) := rfl
  rw [Decoder.explicit, run_bind, run_numbered_element hn hc, Option.bind_some]
  simp only [hconstructed, if_true]
  rw [run_map, hwithin, h]
  cases ok <;> rfl

/-- Numbered field `n` around what is written of a value, if there is one. -/
def writeField (n : Nat) (write : α → Octets) (o : Option α) : Octets :=
  (o.map fun x => element (Tag.contextConstructed n) (write x)).getD []

/-- A field with a higher number, there or not, follows one that is not there. -/
theorem Absent.writeField {n m : Nat} (hm : m < 31) (h : n < m) (write : α → Octets)
    (o : Option α) : Absent n (writeField m write o) := by
  cases o with
  | none => exact Absent.nil n
  | some x => simpa [Decoder.writeField] using Absent.field hm h (write x) []

/-- **A numbered field of a sequence reads back**, whether it is there or not, if what follows is no
field up to its number. -/
theorem whole_explicit {n : Nat} (hn : n < 31) {d : Decoder α} {write : α → Octets} {ok : α → Bool}
    {o : Option α} (h : ∀ x ∈ o, Decoder.whole d (write x) = if ok x then some x else none)
    (hlen : ∀ x ∈ o, (write x).length ≤ maxLength) {r : Octets} (hr : Absent n r)
    (f : Option α → Decoder β) :
    whole (explicit n d >>= f) (writeField n write o ++ r)
      = if o.all ok then whole (f o) r else none := by
  cases o with
  | none =>
      rw [writeField, Option.map_none, Option.getD_none, List.nil_append, whole_explicit_absent hr]
      rfl
  | some x =>
      have hx : x ∈ some x := rfl
      exact whole_bind (ReadsBack.explicit hn (hlen x hx) (h x hx)) f r

/-- A numbered field at the end of a sequence reads back. -/
theorem whole_explicit_last {n : Nat} (hn : n < 31) {d : Decoder α} {write : α → Octets}
    {ok : α → Bool} {o : Option α}
    (h : ∀ x ∈ o, Decoder.whole d (write x) = if ok x then some x else none)
    (hlen : ∀ x ∈ o, (write x).length ≤ maxLength) (f : Option α → Decoder β) :
    whole (explicit n d >>= f) (writeField n write o) = if o.all ok then whole (f o) [] else none := by
  simpa using whole_explicit hn h hlen (Absent.nil n) f

end Decoder

end Der

end RevocationLab
