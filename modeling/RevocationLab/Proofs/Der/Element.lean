/-
**One element, written and read.**

The element of a tag that may occur, with a content that is not too long, is read back from the front
of any string that starts with it.  The other way round, whatever is read off the front of a string is
one element as it is written: lengths have one form.

Main results:

* `Der.readLength_lengthOctets`, `Der.eq_of_readLength` — lengths;
* `Der.readElement_element` — **an element is read back**, if its tag may occur;
* `Der.eq_of_readElement` — **a string that is read is written**.
-/

import RevocationLab.Der.Element
import RevocationLab.Proofs.Octets

set_option autoImplicit false

namespace RevocationLab

namespace Der

/-! ### Lengths -/

theorem lengthWidth_pos (n : Nat) : 1 ≤ lengthWidth n := by
  unfold lengthWidth
  split_ifs <;> omega

theorem lengthWidth_le (n : Nat) : lengthWidth n ≤ 4 := by
  unfold lengthWidth
  split_ifs <;> omega

/-- A length has room in its octets. -/
theorem lt_pow_lengthWidth {n : Nat} (h : n ≤ maxLength) : n < 256 ^ lengthWidth n := by
  unfold maxLength at h
  unfold lengthWidth
  split_ifs <;> omega

/-- **A length is read back.** -/
theorem readLength_lengthOctets {n : Nat} (h : n ≤ maxLength) (rest : Octets) :
    readLength (lengthOctets n ++ rest) = some (n, rest) := by
  -- short lengths are one octet; long ones are a head with a width and that many digits
  by_cases hshort : n < 128
  · have hn : (UInt8.ofNat n).toNat = n := by
      rw [UInt8.toNat_ofNat']
      omega
    have hlt : UInt8.ofNat n < 0x80 := by
      rw [UInt8.lt_iff_toNat_lt, hn]
      exact hshort
    simp [lengthOctets, readLength, hshort, hlt, hn]
  · have hpos := lengthWidth_pos n
    have hle := lengthWidth_le n
    have hhead : (UInt8.ofNat (0x80 + lengthWidth n)).toNat = 0x80 + lengthWidth n := by
      rw [UInt8.toNat_ofNat']
      omega
    have hlong : ¬ UInt8.ofNat (0x80 + lengthWidth n) < 0x80 := by
      rw [UInt8.lt_iff_toNat_lt, hhead]
      change ¬ 0x80 + lengthWidth n < 0x80
      omega
    have hwidth : 0x80 + lengthWidth n - 0x80 = lengthWidth n := by omega
    have htake : (Octets.ofNatPadded (lengthWidth n) n ++ rest).take (lengthWidth n)
        = Octets.ofNatPadded (lengthWidth n) n := List.take_left' (by simp)
    have hdrop : (Octets.ofNatPadded (lengthWidth n) n ++ rest).drop (lengthWidth n) = rest :=
      List.drop_left' (by simp)
    have hvalue : Octets.toNat (Octets.ofNatPadded (lengthWidth n) n) = n := by
      rw [Octets.toNat_ofNatPadded, Nat.mod_eq_of_lt (lt_pow_lengthWidth h)]
    have hroom : lengthWidth n ≤ (Octets.ofNatPadded (lengthWidth n) n ++ rest).length := by simp
    have hlow : 128 ≤ n := by omega
    rw [lengthOctets, if_neg hshort, List.cons_append, readLength]
    simp only [hlong, if_false, hhead, hwidth, htake, hdrop, hvalue]
    exact if_pos ⟨hroom, hlow, h, trivial⟩

/-- **A length that is read is the one that is written.** -/
theorem eq_of_readLength {b rest : Octets} {n : Nat} (h : readLength b = some (n, rest)) :
    b = lengthOctets n ++ rest ∧ n ≤ maxLength := by
  cases b with
  | nil => cases h
  | cons x r =>
      simp only [readLength] at h
      by_cases hshort : x < 0x80
      · simp only [hshort, if_true, Option.some.injEq, Prod.mk.injEq] at h
        obtain ⟨rfl, rfl⟩ := h
        have hx : x.toNat < 128 := UInt8.lt_iff_toNat_lt.1 hshort
        refine ⟨by simp [lengthOctets, hx], ?_⟩
        unfold maxLength
        omega
      · simp only [hshort, if_false] at h
        split at h
        · next hc =>
            obtain ⟨hwidth, hlow, hmax, heq⟩ := hc
            simp only [Option.some.injEq, Prod.mk.injEq] at h
            obtain ⟨rfl, rfl⟩ := h
            have hx : ¬ x.toNat < 128 := fun hx => hshort (UInt8.lt_iff_toNat_lt.2 hx)
            have hlen : (r.take (x.toNat - 0x80)).length = x.toNat - 0x80 := by
              rw [List.length_take]
              omega
            -- the width in the head and the digits after it give back the octets that were read
            have hhead : UInt8.ofNat (0x80 + (x.toNat - 0x80)) = x := by
              rw [show 0x80 + (x.toNat - 0x80) = x.toNat by omega, UInt8.ofNat_toNat]
            have hback := Octets.ofNatPadded_toNat (r.take (x.toNat - 0x80))
            rw [hlen] at hback
            refine ⟨?_, hmax⟩
            rw [lengthOctets, if_neg (by omega), heq, hhead, hback, List.cons_append,
              List.take_append_drop]
        · cases h

/-! ### Elements -/

theorem length_element (tag : Tag) (c : Octets) :
    (element tag c).length = 1 + (lengthOctets c.length).length + c.length := by
  simp only [element, Element.encode, List.cons_append, List.length_cons, List.length_append]
  omega

theorem content_length_le {tag : Tag} {c : Octets} {n : Nat} (h : (element tag c).length ≤ n) :
    c.length ≤ n := by
  rw [length_element] at h
  omega

theorem element_ne_nil (tag : Tag) (c : Octets) : element tag c ≠ [] := by
  simp [element, Element.encode]

/-- **An element is read back** off the front of a string, if its tag may occur. -/
theorem readElement_encode (e : Element) (h : e.content.length ≤ maxLength) (rest : Octets) :
    readElement (e.encode ++ rest) = if Tag.isKnown e.tag then some (e, rest) else none := by
  have hread := readLength_lengthOctets h (e.content ++ rest)
  have hlen : e.content.length ≤ (e.content ++ rest).length := by simp
  rw [Element.encode, List.cons_append, List.cons_append, List.append_assoc, readElement, hread]
  simp

theorem readElement_element {tag : Tag} {c : Octets} (ht : Tag.isKnown tag = true)
    (h : c.length ≤ maxLength) (rest : Octets) :
    readElement (element tag c ++ rest) = some (⟨tag, c⟩, rest) := by
  rw [element, readElement_encode ⟨tag, c⟩ h, if_pos ht]

/-- **A string that is read is written.** -/
theorem eq_of_readElement {b rest : Octets} {e : Element} (h : readElement b = some (e, rest)) :
    b = e.encode ++ rest ∧ Tag.isKnown e.tag = true ∧ e.content.length ≤ maxLength := by
  cases b with
  | nil => cases h
  | cons tag r =>
      simp only [readElement] at h
      split at h
      · next ht =>
          simp only [Option.bind_eq_bind, Option.bind_eq_some_iff, Prod.exists] at h
          obtain ⟨n, r', hn, h⟩ := h
          split at h
          · next hle =>
              simp only [Option.some.injEq, Prod.mk.injEq] at h
              obtain ⟨rfl, rfl⟩ := h
              obtain ⟨rfl, hmax⟩ := eq_of_readLength hn
              have hlen : (r'.take n).length = n := List.length_take_of_le hle
              refine ⟨?_, ht, by simpa [hlen] using hmax⟩
              simp [Element.encode, hlen, List.take_append_drop]
          · cases h
      · cases h

end Der

end RevocationLab
