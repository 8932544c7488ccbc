/-
**Encodings that end by themselves.**

An element says how long it is, so that two strings that start with an element and are equal start with
the same one and go on alike.  Nothing has to be read back for that: it holds of contents and tags that
no decoder accepts.  A sequence of fields that end by themselves ends by itself, and a list of them is
determined by the octets of all its members.

Main definitions:

* `Der.EndsByItself` — **an encoding that shows where it ends**, and what was written.

Main results:

* `Der.EndsByItself.encode` — elements end by themselves;
* `Der.EndsByItself.inside` — so does an element whose content determines a value;
* `Der.EndsByItself.eq_of_flatMap`, `Der.EndsByItself.eq_of_optional` — lists, and fields that may be
  absent.
-/

import RevocationLab.Proofs.Der.Element
import RevocationLab.X509.Extension
import RevocationLab.X509.SerialNumber

set_option autoImplicit false

namespace RevocationLab

namespace Der

/-! ### Ends -/

/-- **An encoding that shows where it ends**, and what was written. -/
def EndsByItself {α : Type} (write : α → Octets) : Prop :=
  ∀ x y r r', (write x).length ≤ maxLength → (write y).length ≤ maxLength →
    write x ++ r = write y ++ r' → x = y ∧ r = r'

namespace EndsByItself

variable {α : Type} {write : α → Octets}

/-- **Elements end by themselves**, whatever their tag is. -/
theorem encode : EndsByItself Element.encode := by
  intro x y r r' hx hy heq
  have hxc : x.content.length ≤ maxLength := content_length_le hx
  have hyc : y.content.length ≤ maxLength := content_length_le hy
  simp only [Element.encode, List.cons_append, List.append_assoc, List.cons.injEq] at heq
  obtain ⟨htag, hrest⟩ := heq
  -- the length is read back, and cuts the content off
  have hread := congrArg readLength hrest
  rw [readLength_lengthOctets hxc, readLength_lengthOctets hyc] at hread
  obtain ⟨hlength, hcontent⟩ := Prod.mk.inj (Option.some.inj hread)
  obtain ⟨hcontent, hr⟩ := List.append_inj hcontent hlength
  rcases x with ⟨tag, content⟩
  rcases y with ⟨tag', content'⟩
  subst htag hcontent
  exact ⟨rfl, hr⟩

/-- An element ends by itself if its content determines what it was written of. -/
theorem inside {content : α → Octets} (tag : Tag)
    (h : ∀ x y, (content x).length ≤ maxLength → (content y).length ≤ maxLength →
      content x = content y → x = y) : EndsByItself fun x => element tag (content x) := by
  intro x y r r' hx hy heq
  obtain ⟨helement, hr⟩ := encode ⟨tag, content x⟩ ⟨tag, content y⟩ r r' hx hy heq
  exact ⟨h x y (content_length_le hx) (content_length_le hy) (Element.mk.inj helement).2, hr⟩

/-- The octets determine what was written. -/
theorem eq (h : EndsByItself write) {x y : α} (hx : (write x).length ≤ maxLength)
    (heq : write x = write y) : x = y :=
  (h x y [] [] hx (heq ▸ hx) (by rw [heq])).1

/-- The octets of an element determine its content. -/
theorem content_eq {tag : Tag} {c c' : Octets} (h : (element tag c).length ≤ maxLength)
    (heq : element tag c = element tag c') : c = c' :=
  (Element.mk.inj (encode.eq h heq)).2

/-- The octets of a list determine its members. -/
theorem eq_of_flatMap (h : EndsByItself write) (hne : ∀ x, write x ≠ []) {xs ys : List α}
    (hxs : (xs.flatMap write).length ≤ maxLength) (heq : xs.flatMap write = ys.flatMap write) :
    xs = ys := by
  induction xs generalizing ys with
  | nil =>
      cases ys with
      | nil => rfl
      | cons y ys =>
          rw [List.flatMap_nil, List.flatMap_cons, eq_comm, List.append_eq_nil_iff] at heq
          exact absurd heq.1 (hne y)
  | cons x xs ih =>
      cases ys with
      | nil =>
          rw [List.flatMap_nil, List.flatMap_cons, List.append_eq_nil_iff] at heq
          exact absurd heq.1 (hne x)
      | cons y ys =>
          have hys := heq ▸ hxs
          rw [List.flatMap_cons, List.length_append] at hxs hys
          rw [List.flatMap_cons, List.flatMap_cons] at heq
          obtain ⟨rfl, hrest⟩ := h x y _ _ (by omega) (by omega) heq
          rw [ih (by omega) hrest]

/-- A field at the end shows whether it is there. -/
theorem eq_of_optional (h : EndsByItself write) (hne : ∀ x, write x ≠ []) {x y : Option α}
    (hx : ((x.map write).getD []).length ≤ maxLength)
    (heq : (x.map write).getD [] = (y.map write).getD []) : x = y := by
  cases x with
  | none =>
      cases y with
      | none => rfl
      | some y => exact absurd heq.symm (hne y)
  | some x =>
      cases y with
      | none => exact absurd heq (hne x)
      | some y => exact congrArg some (h.eq hx heq)

/-! ### Primitive fields -/

theorem octetString : EndsByItself Der.octetString := inside Tag.octetString fun _ _ _ _ h => h

theorem objectId : EndsByItself ObjectId.encode :=
  inside Tag.objectId fun x y _ _ h => by
    cases x
    cases y
    exact congrArg ObjectId.mk h

end EndsByItself

end Der

namespace X509

open Der

/-- The octets of an algorithm determine it, with its parameters. -/
theorem AlgorithmIdentifier.endsByItself : EndsByItself AlgorithmIdentifier.encode := by
  refine EndsByItself.inside Tag.sequence fun x y hx hy heq => ?_
  rw [List.length_append] at hx hy
  obtain ⟨hid, hparameters⟩ := EndsByItself.objectId _ _ _ _ (by omega) (by omega) heq
  have hsame := EndsByItself.encode.eq_of_optional (fun e => element_ne_nil e.tag e.content)
    (by omega) hparameters
  cases x
  cases y
  exact congrArg₂ AlgorithmIdentifier.mk hid hsame

theorem SerialNumber.endsByItself : EndsByItself SerialNumber.encode :=
  EndsByItself.inside Tag.integer fun x y _ _ h => by
    cases x
    cases y
    exact congrArg SerialNumber.mk h

end X509

end RevocationLab
