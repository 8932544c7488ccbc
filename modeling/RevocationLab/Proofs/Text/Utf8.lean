/-
**Octets of a text.**

A character below 128 is written as one octet, its own number, and no other character has an octet
below 128 in it.  So a scan of the octets of a text for such a character finds the character and
nothing else.

Main results:

* `Octets.utf8EncodeChar_of_lt` — the octet of a character below 128;
* `Octets.eq_of_mem_utf8EncodeChar` — **an octet below 128 is a character of its own**;
* `Octets.ofText_append`, `Octets.length_ofText` — texts behind each other, and the size of a text.
-/

import RevocationLab.Octets

set_option autoImplicit false

namespace RevocationLab

namespace Octets

/-! ### One character -/

/-- The octet of a character below 128 is its number. -/
theorem utf8EncodeChar_of_lt {c : Char} (h : c.toNat < 128) :
    String.utf8EncodeChar c = [UInt8.ofNat c.toNat] := by
  have hle : c.val.toNat ≤ 0x7f := Nat.le_of_lt_succ h
  simp only [String.utf8EncodeChar, hle, if_true]
  rfl

/-- **An octet below 128 is a character of its own.** -/
theorem eq_of_mem_utf8EncodeChar {c : Char} {b : UInt8} (hb : b ∈ String.utf8EncodeChar c)
    (hlt : b.toNat < 128) : c.toNat = b.toNat := by
  by_cases hc : c.toNat < 128
  · rw [utf8EncodeChar_of_lt hc, List.mem_singleton] at hb
    subst hb
    rw [UInt8.toNat_ofNat']
    omega
  · -- every octet of a longer character has its first bit set
    exfalso
    have hlong : ¬ c.val.toNat ≤ 0x7f := fun h => hc (Nat.lt_succ_of_le h)
    have hhigh : ∀ x ∈ String.utf8EncodeChar c, 128 ≤ x.toNat := by
      simp only [String.utf8EncodeChar, hlong, if_false]
      split
      · simp only [List.mem_cons, List.not_mem_nil, or_false, forall_eq_or_imp, forall_eq,
          UInt8.toNat_ofNat']
        omega
      · split
        · simp only [List.mem_cons, List.not_mem_nil, or_false, forall_eq_or_imp, forall_eq,
            UInt8.toNat_ofNat']
          omega
        · simp only [List.mem_cons, List.not_mem_nil, or_false, forall_eq_or_imp, forall_eq,
            UInt8.toNat_ofNat']
          omega
    have hle := hhigh b hb
    omega

/-! ### Texts -/

@[simp] theorem ofText_ofList (t : List Char) :
    ofText (String.ofList t) = t.flatMap String.utf8EncodeChar := by
  rw [ofText, String.toList_ofList]

theorem ofText_append (s t : String) : ofText (s ++ t) = ofText s ++ ofText t := by
  rw [ofText, ofText, ofText, String.toList_append, List.flatMap_append]

/-- The number of octets of a text is its size. -/
theorem length_ofText (s : String) : (ofText s).length = s.utf8ByteSize := by
  have hsize : s.utf8ByteSize = (String.ofList s.toList).toByteArray.size := by
    rw [String.ofList_toList, String.size_toByteArray]
  rw [hsize, String.toByteArray_ofList, List.utf8Encode, List.size_toByteArray, ofText]

/-- Every character has an octet. -/
theorem length_le_length_ofText (t : List Char) :
    t.length ≤ (ofText (String.ofList t)).length := by
  rw [ofText_ofList]
  induction t with
  | nil => exact Nat.le_refl 0
  | cons c t ih =>
      have hc := List.length_pos_iff.2 (String.utf8EncodeChar_ne_nil (c := c))
      rw [List.flatMap_cons, List.length_append, List.length_cons]
      omega

/-- A text of characters below 128 is written with one octet for each. -/
theorem ofText_of_forall_lt {t : List Char} (h : ∀ c ∈ t, c.toNat < 128) :
    ofText (String.ofList t) = t.map fun c => UInt8.ofNat c.toNat := by
  rw [ofText_ofList]
  induction t with
  | nil => rfl
  | cons c t ih =>
      have hc := h c List.mem_cons_self
      have ht := ih fun d hd => h d (List.mem_cons_of_mem c hd)
      rw [List.flatMap_cons, utf8EncodeChar_of_lt hc, ht]
      rfl

end Octets

end RevocationLab
