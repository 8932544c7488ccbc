/-
**The spellings of a segment.**

A text without percent signs may be spelled with each of its slashes as it is or as one of two escapes.
The escapes are undone in two passes, one for each letter case of the escape; neither pass makes or
hides an escape of the other, so that every spelling is read as the text.

Main definitions:

* `Ocsp.Segment.Spells` — **how a text may be spelled**.

Main results:

* `Ocsp.Segment.normalizeChars_of_spells` — **every spelling is read as the text**;
* `Ocsp.Segment.decode?_of_spells` — the octets in a spelling of their base64 text.
-/

import RevocationLab.Ocsp.Segment
import RevocationLab.Proofs.Base64

set_option autoImplicit false

namespace RevocationLab

namespace Ocsp

namespace Segment

/-! ### Spellings -/

/-- **A spelling of a text**: each slash is written as it is, or escaped with a letter in either case,
and every other character as it is. -/
inductive Spells : List Char → List Char → Prop
  | nil : Spells [] []
  | plain (c : Char) {s t : List Char} (h : Spells s t) : Spells (c :: s) (c :: t)
  | upper {s t : List Char} (h : Spells s t) : Spells ('/' :: s) ('%' :: '2' :: 'F' :: t)
  | lower {s t : List Char} (h : Spells s t) : Spells ('/' :: s) ('%' :: '2' :: 'f' :: t)

namespace Spells

/-- A text is a spelling of itself. -/
theorem refl (s : List Char) : Spells s s := by
  induction s with
  | nil => exact .nil
  | cons c s ih => exact .plain c ih

/-- Spellings behind each other. -/
theorem append {s t s' t' : List Char} (h : Spells s t) (h' : Spells s' t') :
    Spells (s ++ s') (t ++ t') := by
  induction h with
  | nil => exact h'
  | plain c _ ih => exact .plain c ih
  | upper _ ih => exact .upper ih
  | lower _ ih => exact .lower ih

/-- A spelling of nothing is empty, and of nothing else. -/
theorem eq_nil_iff {s t : List Char} (h : Spells s t) : t = [] ↔ s = [] := by
  cases h <;> simp

/-- A spelling is no shorter than the text. -/
theorem length_le {s t : List Char} (h : Spells s t) : s.length ≤ t.length := by
  induction h with
  | nil => exact Nat.le_refl 0
  | plain c h ih => exact Nat.succ_le_succ ih
  | upper h ih =>
      simp only [List.length_cons]
      omega
  | lower h ih =>
      simp only [List.length_cons]
      omega

end Spells

/-! ### Reading a spelling -/

theorem unescape_cons_of_ne {c : Char} (hc : c ≠ '%') (last : Char) (r : List Char) :
    unescape last (c :: r) = c :: unescape last r := by
  rw [unescape]
  rintro d r' rfl
  exact absurd rfl hc

/-- An escape of the case that is undone. -/
theorem unescape_escape (last : Char) (r : List Char) :
    unescape last ('%' :: '2' :: last :: r) = '/' :: unescape last r := by
  rw [unescape, if_pos rfl]

/-- An escape of the other case stays. -/
theorem unescape_other {last c : Char} (hne : c ≠ last) (hc : c ≠ '%') (r : List Char) :
    unescape last ('%' :: '2' :: c :: r) = '%' :: '2' :: c :: unescape last r := by
  rw [unescape, if_neg hne, unescape_cons_of_ne (by decide), unescape_cons_of_ne hc]

/-- **Every spelling is read as the text** that it spells, if the text has no percent sign. -/
theorem normalizeChars_of_spells {s t : List Char} (h : Spells s t) (hs : '%' ∉ s) :
    normalizeChars t = s := by
  unfold normalizeChars
  -- the first pass leaves the escapes of the second one alone, and adds no percent sign
  induction h with
  | nil => rfl
  | plain c h ih =>
      have hc : c ≠ '%' := fun heq => hs (heq ▸ List.mem_cons_self)
      have hrest := ih fun hmem => hs (List.mem_cons_of_mem c hmem)
      rw [unescape_cons_of_ne hc, unescape_cons_of_ne hc, hrest]
  | upper h ih =>
      have hrest := ih fun hmem => hs (List.mem_cons_of_mem '/' hmem)
      rw [unescape_escape, unescape_cons_of_ne (by decide), hrest]
  | lower h ih =>
      have hrest := ih fun hmem => hs (List.mem_cons_of_mem '/' hmem)
      rw [unescape_other (by decide) (by decide), unescape_escape, hrest]

/-- **The octets in a spelling** of their base64 text; an empty spelling has none. -/
theorem decode?_of_spells {b : Octets} {t : List Char} (h : Spells (Base64.encode b) t) :
    decode? (String.ofList t) = if b = [] then none else some b := by
  have htext := normalizeChars_of_spells h (Base64.percent_not_mem_encode b)
  have hnil : t = [] ↔ b = [] := by
    rw [h.eq_nil_iff]
    constructor
    · intro hb
      have hback := Base64.decode?_encode b
      rw [hb] at hback
      exact (Option.some.inj hback).symm
    · rintro rfl
      rfl
  rw [decode?, String.toList_ofList, htext, Base64.decode?_encode]
  simp only [hnil]

end Segment

end Ocsp

end RevocationLab
