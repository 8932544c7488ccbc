/-
**Header values as texts and numbers.**

The values that are read as text are those that were written from visible characters.  A text loses the
blanks at its ends and nothing else.  A number is a run of digits, in front of which a plus sign may
stand; a run of digits alone has no blanks to lose and no sign, so that it is read as its number.

Main definitions:

* `Ascii.isVisibleChar` — the characters of a value that is read as text.

Main results:

* `Ascii.visible?_eq_some_iff` — **the values that are read as text**, and as which text;
* `Ascii.exists_trim`, `Ascii.trim_append` — **what a text loses at its ends**;
* `Ascii.word64?_eq_some_iff` — **the texts that are read as numbers**, and as which number;
* `Ascii.decimalValue_eq_ofDigits` — the number of a run of digits;
* `Ascii.isVisibleChar_of_toLower` — the letter case of a text does not matter to that.
-/

import Mathlib.Data.List.DropRight
import Mathlib.Data.List.Induction
import Mathlib.Data.Nat.Digits.Defs
import RevocationLab.Proofs.Text.Utf8
import RevocationLab.Text.Ascii

set_option autoImplicit false

namespace RevocationLab

namespace Ascii

/-! ### Visible texts -/

/-- The characters that a value read as text may hold: visible ASCII, the space and the tab. -/
def isVisibleChar (c : Char) : Bool := c.toNat == 9 || (32 ≤ c.toNat && c.toNat < 127)

theorem lt_of_isVisibleChar {c : Char} (h : isVisibleChar c = true) : c.toNat < 128 := by
  simp only [isVisibleChar, Bool.or_eq_true, beq_iff_eq, Bool.and_eq_true, decide_eq_true_eq] at h
  omega

/-- The octet of a visible character is visible. -/
theorem isVisible_ofNat {c : Char} (h : isVisibleChar c = true) :
    isVisible (UInt8.ofNat c.toNat) = true := by
  have hall : ∀ n < 128, (n == 9 || (32 ≤ n && n < 127)) = true →
      isVisible (UInt8.ofNat n) = true := by decide
  exact hall c.toNat (lt_of_isVisibleChar h) h

/-- **A visible text is read back** from the octets that are written of it. -/
theorem visible?_ofText {t : List Char} (h : t.all isVisibleChar = true) :
    visible? (Octets.ofText (String.ofList t)) = some t := by
  rw [List.all_eq_true] at h
  have hoctets := Octets.ofText_of_forall_lt fun c hc => lt_of_isVisibleChar (h c hc)
  have hvisible : (t.map fun c => UInt8.ofNat c.toNat).all isVisible = true := by
    simp only [List.all_map, List.all_eq_true, Function.comp_apply]
    exact fun c hc => isVisible_ofNat (h c hc)
  have hback : ∀ c ∈ t, Char.ofNat (UInt8.ofNat c.toNat).toNat = c := by
    intro c hc
    have hlt := lt_of_isVisibleChar (h c hc)
    have hnat : (UInt8.ofNat c.toNat).toNat = c.toNat := by
      rw [UInt8.toNat_ofNat']
      omega
    rw [hnat, Char.ofNat_toNat]
  rw [hoctets, visible?, if_pos hvisible, List.map_map]
  exact congrArg some ((List.map_congr_left hback).trans (List.map_id' t))

/-- A value that is read as text was written from that text, and all of it is visible. -/
theorem of_visible? {value : Octets} {t : List Char} (h : visible? value = some t) :
    t.all isVisibleChar = true ∧ value = Octets.ofText (String.ofList t) := by
  obtain ⟨hvalue, heq⟩ := Option.ite_none_right_eq_some.1 h
  obtain rfl := Option.some.inj heq
  rw [List.all_eq_true] at hvalue
  have hsmall : ∀ n < 128, (Char.ofNat n).toNat = n := by decide
  have hbounds : ∀ b ∈ value, b.toNat = 9 ∨ (32 ≤ b.toNat ∧ b.toNat < 127) := by
    intro b hb
    have hb := hvalue b hb
    simpa [isVisible, UInt8.le_iff_toNat_le, UInt8.lt_iff_toNat_lt, ← UInt8.toNat_inj] using hb
  have hnat : ∀ b ∈ value, (Char.ofNat b.toNat).toNat = b.toNat := by
    intro b hb
    have hbound := hbounds b hb
    exact hsmall _ (by omega)
  have hvisible : ∀ c ∈ value.map fun b => Char.ofNat b.toNat, isVisibleChar c = true := by
    intro c hc
    obtain ⟨b, hb, rfl⟩ := List.mem_map.1 hc
    simpa [isVisibleChar, hnat b hb] using hbounds b hb
  have hback : ∀ b ∈ value, UInt8.ofNat (Char.ofNat b.toNat).toNat = b := by
    intro b hb
    rw [hnat b hb, UInt8.ofNat_toNat]
  refine ⟨List.all_eq_true.2 hvisible, ?_⟩
  rw [Octets.ofText_of_forall_lt fun c hc => lt_of_isVisibleChar (hvisible c hc), List.map_map]
  exact ((List.map_congr_left hback).trans (List.map_id' value)).symm

/-- **The values that are read as text**: those that a visible text was written to. -/
theorem visible?_eq_some_iff {value : Octets} {t : List Char} :
    visible? value = some t ↔
      t.all isVisibleChar = true ∧ value = Octets.ofText (String.ofList t) := by
  constructor
  · exact of_visible?
  · rintro ⟨ht, rfl⟩
    exact visible?_ofText ht

/-! ### Letter case -/

theorem toLower_eq_self_or (c : Char) :
    c.toLower = c ∨ (65 ≤ c.toNat ∧ c.toNat ≤ 90) := by
  unfold Char.toLower
  split
  · next h => exact Or.inr h
  · exact Or.inl rfl

/-- A character is visible if it is so in lowercase. -/
theorem isVisibleChar_of_toLower {c : Char} (h : isVisibleChar c.toLower = true) :
    isVisibleChar c = true := by
  rcases toLower_eq_self_or c with heq | ⟨hlow, hhigh⟩
  · rwa [heq] at h
  · simp only [isVisibleChar, Bool.or_eq_true, beq_iff_eq, Bool.and_eq_true, decide_eq_true_eq]
    omega

/-- A text is visible if it is so in lowercase. -/
theorem all_isVisibleChar_of_map_toLower {t : List Char}
    (h : (t.map Char.toLower).all isVisibleChar = true) : t.all isVisibleChar = true := by
  rw [List.all_map, List.all_eq_true] at h
  rw [List.all_eq_true]
  exact fun c hc => isVisibleChar_of_toLower (h c hc)

/-! ### Digits -/

theorem toNat_of_isDigit {c : Char} (h : c.isDigit = true) : 48 ≤ c.toNat ∧ c.toNat ≤ 57 := by
  simp only [Char.isDigit, Bool.and_eq_true, decide_eq_true_eq] at h
  exact h

theorem isVisibleChar_of_isDigit {c : Char} (h : c.isDigit = true) : isVisibleChar c = true := by
  have hbounds := toNat_of_isDigit h
  simp only [isVisibleChar, Bool.or_eq_true, beq_iff_eq, Bool.and_eq_true, decide_eq_true_eq]
  omega

theorem isBlank_of_isDigit {c : Char} (h : c.isDigit = true) : isBlank c = false := by
  have hbounds := toNat_of_isDigit h
  rw [isBlank, Bool.or_eq_false_iff, beq_eq_false_iff_ne, beq_eq_false_iff_ne]
  constructor
  · rintro rfl
    exact absurd hbounds.1 (by decide)
  · rintro rfl
    exact absurd hbounds.1 (by decide)

/-! ### Blanks -/

theorem isVisibleChar_of_isBlank {c : Char} (h : isBlank c = true) : isVisibleChar c = true := by
  rw [isBlank, Bool.or_eq_true, beq_iff_eq, beq_iff_eq] at h
  rcases h with rfl | rfl <;> decide

/-- A text is its trimmed form between blanks. -/
theorem exists_trim (s : List Char) :
    ∃ before after, s = before ++ trim s ++ after ∧ (∀ c ∈ before, isBlank c = true)
      ∧ ∀ c ∈ after, isBlank c = true := by
  have htrim : trim s = (s.dropWhile isBlank).rdropWhile isBlank := rfl
  refine ⟨s.takeWhile isBlank, (s.dropWhile isBlank).rtakeWhile isBlank, ?_, ?_, ?_⟩
  · rw [htrim, List.append_assoc, List.rdropWhile_append_rtakeWhile,
      List.takeWhile_append_dropWhile]
  · exact fun c hc => List.mem_takeWhile_imp hc
  · exact fun c hc => List.mem_rtakeWhile_imp hc

/-- A text loses the blanks around it, and nothing else if there are none in it. -/
theorem trim_append {before s after : List Char} (hne : s ≠ [])
    (hbefore : ∀ c ∈ before, isBlank c = true) (hs : ∀ c ∈ s, isBlank c = false)
    (hafter : ∀ c ∈ after, isBlank c = true) : trim (before ++ s ++ after) = s := by
  have hstop : ∀ {r : List Char}, r ≠ [] → (∀ c ∈ r, isBlank c = false) → ∀ rest,
      (r ++ rest).dropWhile isBlank = r ++ rest := by
    intro r hr hall rest
    cases r with
    | nil => exact absurd rfl hr
    | cons c r => exact List.dropWhile_cons_of_neg (by simp [hall c])
  have hback := hstop (List.reverse_ne_nil_iff.2 hne) (fun c hc => hs c (List.mem_reverse.1 hc)) []
  rw [List.append_nil] at hback
  rw [trim, List.append_assoc, List.dropWhile_append_of_pos hbefore, hstop hne hs,
    List.reverse_append, List.dropWhile_append_of_pos fun c hc => hafter c (List.mem_reverse.1 hc),
    hback, List.reverse_reverse]

/-! ### Numbers -/

/-- The number of a run of digits, the last of which counts once. -/
theorem decimalValue_eq_ofDigits (ds : List Char) :
    decimalValue ds = Nat.ofDigits 10 (ds.reverse.map fun c => c.toNat - 48) := by
  -- on the last digit, which is the first one of the reversed list
  induction ds using List.reverseRecOn with
  | nil => rfl
  | append_singleton ds c ih =>
      rw [List.reverse_append, List.reverse_singleton, List.singleton_append, List.map_cons,
        Nat.ofDigits_cons, ← ih, decimalValue, List.foldl_append, List.foldl_cons, List.foldl_nil,
        ← decimalValue]
      exact Nat.add_comm _ _

/-- **The texts that are read as numbers**: digits, or digits behind one plus sign, whose number has
sixty-four bits. -/
theorem word64?_eq_some_iff {s : List Char} {n : Nat} :
    word64? s = some n ↔ ∃ ds, (s = ds ∨ s = '+' :: ds) ∧ ds ≠ [] ∧ ds.all Char.isDigit = true
      ∧ decimalValue ds < UInt64.size ∧ n = decimalValue ds := by
  have hdigits : ∀ {ds : List Char}, (digits? ds).filter (· < UInt64.size) = some n ↔
      ds ≠ [] ∧ ds.all Char.isDigit = true ∧ decimalValue ds < UInt64.size ∧ n = decimalValue ds := by
    intro ds
    rw [digits?, Option.filter_eq_some_iff, Option.ite_none_right_eq_some, Option.some.injEq,
      decide_eq_true_eq]
    constructor
    · rintro ⟨⟨⟨hne, hds⟩, rfl⟩, hlt⟩
      exact ⟨hne, hds, hlt, rfl⟩
    · rintro ⟨hne, hds, hlt, rfl⟩
      exact ⟨⟨⟨hne, hds⟩, rfl⟩, hlt⟩
  unfold word64?
  split
  · next r =>
      rw [hdigits]
      constructor
      · exact fun h => ⟨r, .inr rfl, h⟩
      · rintro ⟨ds, heq | heq, hne, hds, h⟩
        · -- the first digit is no sign
          subst heq
          exact absurd (List.all_eq_true.1 hds '+' List.mem_cons_self) (by decide)
        · cases heq
          exact ⟨hne, hds, h⟩
  · next hsign =>
      rw [hdigits]
      constructor
      · exact fun h => ⟨s, .inl rfl, h⟩
      · rintro ⟨ds, rfl | heq, h⟩
        · exact h
        · exact absurd heq (hsign ds)

/-- **Digits are read as their number**, if it has sixty-four bits. -/
theorem word64?_trim {ds : List Char} (hne : ds ≠ []) (hds : ds.all Char.isDigit = true)
    (hlt : decimalValue ds < UInt64.size) : word64? (trim ds) = some (decimalValue ds) := by
  have hblank : ∀ c ∈ ds, isBlank c = false := fun c hc =>
    isBlank_of_isDigit (List.all_eq_true.1 hds c hc)
  have htrim : trim ds = ds := by
    simpa using @trim_append [] ds [] hne (by simp) hblank (by simp)
  rw [htrim]
  exact word64?_eq_some_iff.2 ⟨ds, .inl rfl, hne, hds, hlt, rfl⟩

end Ascii

end RevocationLab
