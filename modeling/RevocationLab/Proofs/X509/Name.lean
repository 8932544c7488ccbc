/-
**Names are read back.**

A set of attributes is read back if it is in order, has no twins and holds readable attributes only.
Putting a set in order twice changes nothing, so the names that a text writes are in order.

Main definitions:

* `X509.Name.IsOrdered` — every set of a name is in its order;
* `X509.Name.isReadable` — every attribute of a name is readable.

Main results:

* `X509.RelativeName.sorted?_of_sorted?` — a set that was put in order is in order;
* `X509.Name.readsBack` — **a name in order reads back** if it is readable;
* `X509.Name.isOrdered_ofCommonName?` — **the name that a common name writes is in order**.
-/

import Mathlib.Data.List.Sort
import RevocationLab.Proofs.X509.Extension
import RevocationLab.X509.NameText

set_option autoImplicit false

namespace RevocationLab

open Der

namespace X509

/-! ### Attributes -/

/-- Whether a decoder accepts what is written: a readable kind, and a tag that may occur. -/
def Attribute.isReadable (a : Attribute) : Bool :=
  ObjectId.isReadable a.kind.octets && Tag.isKnown a.value.tag

/-- **An attribute reads back** if it is readable. -/
theorem Attribute.readsBack (a : Attribute) (h : a.encode.length ≤ maxLength) :
    Decoder.ReadsBack decoder a.encode a a.isReadable := by
  have hlen := content_length_le h
  have hparts : a.kind.encode.length + a.value.encode.length ≤ maxLength := by
    rw [← List.length_append]
    exact hlen
  have hvalue : a.value.encode.length ≤ maxLength := by omega
  refine Decoder.ReadsBack.inside (by decide) hlen ?_
  rw [Decoder.whole_bind (a.kind.readsBack (by omega)),
    Decoder.whole_bind_last (Decoder.ReadsBack.any (content_length_le hvalue))]
  unfold isReadable
  cases ObjectId.isReadable a.kind.octets <;> rfl

/-! ### Sets of attributes -/

namespace RelativeName

/-- The order of the encodings. -/
def Before (a b : Attribute) : Prop := a.encode ≤ b.encode

instance (a b : Attribute) : Decidable (Before a b) :=
  inferInstanceAs (Decidable (a.encode ≤ b.encode))

instance : Std.Total Before where
  total a b := List.le_total a.encode b.encode

instance : IsTrans Attribute Before where
  trans _ _ _ := List.le_trans

theorem insert_eq_orderedInsert (a : Attribute) (r : RelativeName) :
    insert a r = List.orderedInsert Before a r := by
  induction r with
  | nil => rfl
  | cons b r ih =>
      rw [insert, ih, List.orderedInsert_cons]
      rfl

/-- Putting a set in order is sorting by insertion. -/
theorem foldr_insert (attributes : List Attribute) :
    attributes.foldr insert [] = List.insertionSort Before attributes := by
  induction attributes with
  | nil => rfl
  | cons a attributes ih =>
      rw [List.foldr_cons, ih, insert_eq_orderedInsert, List.insertionSort_cons]

/-- **A set that was put in order is in order.** -/
theorem sorted?_of_sorted? {attributes : List Attribute} {r : RelativeName}
    (h : sorted? attributes = some r) : sorted? r = some r := by
  have hsplit : hasTwins (attributes.foldr insert []) = false
      ∧ attributes.foldr insert [] = r := by
    simp only [sorted?] at h
    split at h
    · cases h
    · next htwins => exact ⟨by simpa using htwins, by simpa using h⟩
  -- twins are looked for in the set that is in order, and to put it in order again changes nothing
  obtain ⟨htwins, rfl⟩ := hsplit
  rw [foldr_insert] at htwins ⊢
  have hsame : (List.insertionSort Before attributes).foldr insert []
      = List.insertionSort Before attributes := by
    rw [foldr_insert, (List.pairwise_insertionSort Before attributes).insertionSort_eq]
  unfold sorted?
  simp [hsame, htwins]

/-- **A set of attributes in order reads back** if its attributes do. -/
theorem readsBack {r : RelativeName} (hr : sorted? r = some r)
    (h : (encode r).length ≤ maxLength) :
    Decoder.ReadsBack decoder (encode r) r (r.all Attribute.isReadable) := by
  have hlen := content_length_le h
  have hmany : (Decoder.many Attribute.decoder).whole (r.flatMap Attribute.encode)
      = if r.all Attribute.isReadable then some r else none := by
    refine Decoder.whole_many (fun a ha => a.readsBack ?_) fun a _ => element_ne_nil _ _
    exact Nat.le_trans (Octets.length_le_of_mem_flatMap Attribute.encode ha) hlen
  have ht : Tag.isKnown Tag.set = true := by decide
  have hset := Decoder.ReadsBack.inside ht hlen hmany
  intro rest
  rw [decoder, Decoder.run_bind, encode, hset rest]
  cases r.all Attribute.isReadable with
  | false => rfl
  | true =>
      simp only [if_true, Option.bind_some, hr]
      rfl

end RelativeName

/-! ### Names -/

namespace Name

/-- Whether every attribute is readable. -/
def isReadable (n : Name) : Bool := n.all fun r => r.all Attribute.isReadable

/-- Every set of attributes is in its order. -/
def IsOrdered (n : Name) : Prop := ∀ r ∈ n, RelativeName.sorted? r = some r

/-- **A name in order reads back** if it is readable. -/
theorem readsBack {n : Name} (hn : n.IsOrdered) (h : n.encode.length ≤ maxLength) :
    Decoder.ReadsBack Decoder.name n.encode n n.isReadable := by
  have hlen := content_length_le h
  refine Decoder.ReadsBack.listOf (fun r hr => RelativeName.readsBack (hn r hr) ?_)
    (fun r _ => element_ne_nil _ _) hlen
  exact Nat.le_trans (Octets.length_le_of_mem_flatMap RelativeName.encode hr) hlen

/-- What a list of texts writes is written by one of them. -/
theorem exists_of_mem_mapM {α β : Type} {read : α → Option β} {xs : List α} {ys : List β}
    (h : xs.mapM read = some ys) {y : β} (hy : y ∈ ys) : ∃ x ∈ xs, read x = some y := by
  induction xs generalizing ys with
  | nil =>
      cases h
      cases hy
  | cons x xs ih =>
      simp only [List.mapM_cons, Option.bind_eq_bind, Option.bind_eq_some_iff, Option.pure_def,
        Option.some.injEq] at h
      obtain ⟨z, hz, zs, hzs, rfl⟩ := h
      rcases List.mem_cons.1 hy with rfl | hy
      · exact ⟨x, List.mem_cons_self, hz⟩
      · obtain ⟨w, hw, hread⟩ := ih hzs hy
        exact ⟨w, List.mem_cons_of_mem _ hw, hread⟩

/-- **The name that a text writes is in order.** -/
theorem isOrdered_ofText? {s : String} {n : Name} (h : ofText? s = some n) : n.IsOrdered := by
  intro r hr
  simp only [ofText?, Option.map_eq_map, Option.map_eq_some_iff] at h
  obtain ⟨sets, hsets, rfl⟩ := h
  rw [List.mem_reverse] at hr
  obtain ⟨text, -, htext⟩ := exists_of_mem_mapM hsets hr
  simp only [RelativeName.ofText?, Option.bind_eq_bind, Option.bind_eq_some_iff] at htext
  obtain ⟨attributes, -, hsorted⟩ := htext
  exact RelativeName.sorted?_of_sorted? hsorted

theorem isOrdered_ofCommonName? {text : String} {n : Name} (h : ofCommonName? text = some n) :
    n.IsOrdered := isOrdered_ofText? h

end Name

end X509

end RevocationLab
