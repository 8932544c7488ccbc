/-
**Declared lengths.**

The length of a body is declared by the first header of that name.  Its value is a run of digits between
blanks, and the number of the digits has sixty-four bits; zeros may stand in front.  One plus sign may
stand in front of the digits as well, which a length that is well formed does not have.  All other
values, and headers without that name, declare no length, and then no body is read.

Main definitions:

* `Http.IsLength` — **the texts of a length**, with a given sign in front of the digits;
* `Http.Headers.IsFirst` — the value of the first header of a name;
* `Http.Headers.Declares` — the length that headers declare;
* `Http.Headers.ReadsLength` — which lengths are read.

Main results:

* `Http.Headers.contentLength?_eq_some_iff` — the lengths that are read;
* `Http.Headers.readsLength_contentLength?` — **a length is read exactly if it is well formed, up to a
  plus sign**, and without one no body is read;
* `Http.Headers.contentLength?_plusSign` — **a length that is not well formed and is read**.
-/

import Mathlib.Data.Nat.Digits.Defs
import RevocationLab.Proofs.Http.Request

set_option autoImplicit false

namespace RevocationLab

namespace Http

/-! ### The texts of a length -/

/-- The number of some digits. -/
def digitsNumber (digits : List Char) : Nat :=
  Nat.ofDigits 10 (digits.reverse.map fun c => c.toNat - '0'.toNat)

/-- **The texts of a length**: one or more digits behind a sign and between blanks.  A length that is
well formed has no sign. -/
inductive IsLength (sign : List Char) : List Char → Nat → Prop
  | intro (before digits after : List Char) (hbefore : ∀ c ∈ before, c = ' ' ∨ c = '\t')
      (hne : digits ≠ []) (hdigits : ∀ c ∈ digits, '0' ≤ c ∧ c ≤ '9')
      (hafter : ∀ c ∈ after, c = ' ' ∨ c = '\t') (hfits : digitsNumber digits < 2 ^ 64) :
      IsLength sign (before ++ (sign ++ digits) ++ after) (digitsNumber digits)

theorem isBlank_iff {c : Char} : Ascii.isBlank c = true ↔ c = ' ' ∨ c = '\t' := by
  rw [Ascii.isBlank, Bool.or_eq_true, beq_iff_eq, beq_iff_eq]

theorem isDigit_iff {c : Char} : c.isDigit = true ↔ '0' ≤ c ∧ c ≤ '9' := by
  rw [Char.isDigit, Bool.and_eq_true, decide_eq_true_eq, decide_eq_true_eq]
  rfl

/-- The signs that are read over. -/
theorem isVisibleChar_of_sign {sign : List Char} (h : sign = [] ∨ sign = ['+']) {c : Char}
    (hc : c ∈ sign) : Ascii.isVisibleChar c = true ∧ Ascii.isBlank c = false := by
  rcases h with rfl | rfl
  · cases hc
  · obtain rfl := List.mem_singleton.1 hc
    decide

/-- The text of a length is visible. -/
theorem IsLength.all_isVisibleChar {sign text : List Char} {n : Nat} (h : IsLength sign text n)
    (hsign : sign = [] ∨ sign = ['+']) : text.all Ascii.isVisibleChar = true := by
  obtain ⟨before, digits, after, hbefore, -, hdigits, hafter, -⟩ := h
  rw [List.all_eq_true]
  intro c hc
  rcases List.mem_append.1 hc with hc | hc
  · rcases List.mem_append.1 hc with hc | hc
    · exact Ascii.isVisibleChar_of_isBlank (isBlank_iff.2 (hbefore c hc))
    · rcases List.mem_append.1 hc with hc | hc
      · exact (isVisibleChar_of_sign hsign hc).1
      · exact Ascii.isVisibleChar_of_isDigit (isDigit_iff.2 (hdigits c hc))
  · exact Ascii.isVisibleChar_of_isBlank (isBlank_iff.2 (hafter c hc))

/-- A length that is well formed has no plus sign. -/
theorem IsLength.plus_not_mem {text : List Char} {n : Nat} (h : IsLength [] text n) :
    '+' ∉ text := by
  obtain ⟨before, digits, after, hbefore, -, hdigits, hafter, -⟩ := h
  intro hplus
  rcases List.mem_append.1 hplus with hin | hin
  · rcases List.mem_append.1 hin with hin | hin
    · exact absurd (hbefore _ hin) (by decide)
    · exact absurd (hdigits _ hin) (by decide)
  · exact absurd (hafter _ hin) (by decide)

/-- The text of a length is read as its number. -/
theorem IsLength.word64?_trim {sign text : List Char} {n : Nat} (h : IsLength sign text n)
    (hsign : sign = [] ∨ sign = ['+']) : Ascii.word64? (Ascii.trim text) = some n := by
  obtain ⟨before, digits, after, hbefore, hne, hdigits, hafter, hfits⟩ := h
  have hinside : ∀ c ∈ sign ++ digits, Ascii.isBlank c = false := by
    intro c hc
    rcases List.mem_append.1 hc with hc | hc
    · exact (isVisibleChar_of_sign hsign hc).2
    · exact Ascii.isBlank_of_isDigit (isDigit_iff.2 (hdigits c hc))
  rw [Ascii.trim_append (List.append_ne_nil_of_right_ne_nil sign hne)
    (fun c hc => isBlank_iff.2 (hbefore c hc)) hinside fun c hc => isBlank_iff.2 (hafter c hc)]
  have hvalue : Ascii.decimalValue digits = digitsNumber digits :=
    Ascii.decimalValue_eq_ofDigits digits
  refine Ascii.word64?_eq_some_iff.2 ⟨digits, ?_, hne, ?_, ?_, hvalue.symm⟩
  · rcases hsign with rfl | rfl
    · exact .inl rfl
    · exact .inr rfl
  · exact List.all_eq_true.2 fun c hc => isDigit_iff.2 (hdigits c hc)
  · rw [hvalue]
    exact hfits

/-- A text that is read as a number is the text of a length. -/
theorem isLength_of_word64?_trim {text : List Char} {n : Nat}
    (h : Ascii.word64? (Ascii.trim text) = some n) : IsLength [] text n ∨ IsLength ['+'] text n := by
  obtain ⟨before, after, htext, hbefore, hafter⟩ := Ascii.exists_trim text
  obtain ⟨digits, hsign, hne, hdigits, hfits, rfl⟩ := Ascii.word64?_eq_some_iff.1 h
  have hvalue : Ascii.decimalValue digits = digitsNumber digits :=
    Ascii.decimalValue_eq_ofDigits digits
  have hlength : ∀ sign : List Char,
      IsLength sign (before ++ (sign ++ digits) ++ after) (Ascii.decimalValue digits) := by
    intro sign
    rw [hvalue]
    exact .intro before digits after (fun c hc => isBlank_iff.1 (hbefore c hc)) hne
      (fun c hc => isDigit_iff.1 (List.all_eq_true.1 hdigits c hc))
      (fun c hc => isBlank_iff.1 (hafter c hc)) (hvalue ▸ hfits)
  rcases hsign with htrim | htrim
  · rw [htext, htrim]
    exact .inl (hlength [])
  · rw [htext, htrim]
    exact .inr (hlength ['+'])

/-! ### Headers -/

namespace Headers

/-- The value of the first header of a name, whatever headers come behind it. -/
def IsFirst (hs : Headers) (name : String) (value : Octets) : Prop :=
  ∃ before after, hs = before ++ ⟨name, value⟩ :: after ∧ ∀ h ∈ before, h.name ≠ name

/-- The length that headers declare, with a sign in front of its digits. -/
def Declares (hs : Headers) (sign : List Char) (n : Nat) : Prop :=
  ∃ text, hs.IsFirst "content-length" (Octets.ofText (String.ofList text)) ∧ IsLength sign text n

/-- **Which lengths are read.** -/
structure ReadsLength (hs : Headers) : Prop where
  /-- The length that is read is the one that the headers declare, without a sign or with a plus. -/
  some_iff : ∀ n, hs.contentLength? = some n ↔ hs.Declares [] n ∨ hs.Declares ['+'] n
  /-- If they declare none, then none is read, and no body is read for want of a length. -/
  missing : (∀ n, ¬ hs.Declares [] n ∧ ¬ hs.Declares ['+'] n) →
    hs.contentLength? = none ∧ ∀ limit body, readBody hs limit body = .error .missingLength

theorem get?_eq_some_iff {hs : Headers} {name : String} {value : Octets} :
    hs.get? name = some value ↔ hs.IsFirst name value := by
  rw [get?, Option.map_eq_some_iff]
  constructor
  · rintro ⟨⟨kind, octets⟩, hfind, rfl⟩
    obtain ⟨hname, before, after, rfl, hbefore⟩ := List.find?_eq_some_iff_append.1 hfind
    obtain rfl := beq_iff_eq.1 hname
    exact ⟨before, after, rfl, fun h hh => by simpa using hbefore h hh⟩
  · rintro ⟨before, after, rfl, hbefore⟩
    refine ⟨⟨name, value⟩, List.find?_eq_some_iff_append.2 ⟨by simp, before, after, rfl, ?_⟩, rfl⟩
    exact fun h hh => by simpa using hbefore h hh

/-- **The lengths that are read** are those that headers declare, without a sign or with a plus. -/
theorem contentLength?_eq_some_iff {hs : Headers} {n : Nat} :
    hs.contentLength? = some n ↔ hs.Declares [] n ∨ hs.Declares ['+'] n := by
  have hdeclared : hs.contentLength? = some n ↔ ∃ text,
      hs.IsFirst "content-length" (Octets.ofText (String.ofList text))
        ∧ text.all Ascii.isVisibleChar = true ∧ Ascii.word64? (Ascii.trim text) = some n := by
    simp only [contentLength?, text?, Option.bind_eq_bind, Option.bind_eq_some_iff,
      get?_eq_some_iff, Ascii.visible?_eq_some_iff]
    constructor
    · rintro ⟨text, ⟨value, hvalue, hvisible, rfl⟩, hword⟩
      exact ⟨text, hvalue, hvisible, hword⟩
    · rintro ⟨text, hvalue, hvisible, hword⟩
      exact ⟨text, ⟨_, hvalue, hvisible, rfl⟩, hword⟩
  rw [hdeclared]
  -- the text of a length is visible by itself, so that this need not be said of it
  constructor
  · rintro ⟨text, hvalue, -, hword⟩
    rcases isLength_of_word64?_trim hword with h | h
    · exact .inl ⟨text, hvalue, h⟩
    · exact .inr ⟨text, hvalue, h⟩
  · rintro (⟨text, hvalue, h⟩ | ⟨text, hvalue, h⟩)
    · exact ⟨text, hvalue, h.all_isVisibleChar (.inl rfl), h.word64?_trim (.inl rfl)⟩
    · exact ⟨text, hvalue, h.all_isVisibleChar (.inr rfl), h.word64?_trim (.inr rfl)⟩

/-- **A length is read exactly if it is well formed, up to a plus sign**, and without one no body is
read. -/
theorem readsLength_contentLength? (hs : Headers) : hs.ReadsLength where
  some_iff _ := contentLength?_eq_some_iff
  missing h := by
    have hnone : hs.contentLength? = none := by
      rw [Option.eq_none_iff_forall_ne_some]
      intro n hn
      rcases contentLength?_eq_some_iff.1 hn with hplain | hplus
      · exact (h n).1 hplain
      · exact (h n).2 hplus
    refine ⟨hnone, fun limit body => ?_⟩
    rw [readBody_endings, hnone]

/-- Headers whose length has a plus sign. -/
def plusSigned : Headers := [⟨"content-length", Octets.ofText "+5"⟩]

/-- **A length that is not well formed and is read.** -/
theorem contentLength?_plusSign :
    plusSigned.contentLength? = some 5 ∧ ∀ n, ¬ plusSigned.Declares [] n := by
  refine ⟨by decide, fun n => ?_⟩
  rintro ⟨text, hfirst, h⟩
  have hvalue : Octets.ofText (String.ofList text) = [0x2b, 0x35] := by
    have hget := get?_eq_some_iff.2 hfirst
    exact (Option.some.inj hget).symm
  have hvisible := Ascii.visible?_ofText (h.all_isVisibleChar (.inl rfl))
  rw [hvalue] at hvisible
  have htext : text = ['+', '5'] := Option.some.inj (hvisible.symm.trans (by decide))
  rw [htext] at h
  exact h.plus_not_mem List.mem_cons_self

/-- Zeros in front count for nothing, and blanks at the ends are lost. -/
example : contentLength? [⟨"content-length", Octets.ofText "\t007 "⟩] = some 7 := by decide

end Headers

end Http

end RevocationLab
