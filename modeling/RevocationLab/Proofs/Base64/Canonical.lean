/-
**Base64 has one text for a string of octets.**

Whatever is read is what would be written: each character that has a value is the one for that value,
a full group is that of its three octets, and the bits that a last group leaves over are zero, as they
are when it is written.  So the form of a text says everything about what is read: groups of four,
padding only where the octets end, and nothing in the bits that are left over.

Main definitions:

* `Base64.padding` — how much padding some octets need;
* `Base64.IsText` — **the form of a text**.

Main results:

* `Base64.eq_character_of_value?` — a value has one character;
* `Base64.decode?_eq_some_iff` — **what is read is what would be written**;
* `Base64.isText_encode` — every text has the form.
-/

import Mathlib.Data.Nat.Digits.Defs
import Mathlib.Tactic.Ring
import Mathlib.Tactic.SplitIfs
import RevocationLab.Proofs.Base64
import RevocationLab.Proofs.Octets

set_option autoImplicit false

namespace RevocationLab

namespace Base64

/-! ### The alphabet -/

/-- **A value has one character.** -/
theorem eq_character_of_value? {c : Char} {n : Nat} (h : value? c = some n) :
    n < 64 ∧ c = character n := by
  have hback : Char.ofNat c.toNat = c := Char.ofNat_toNat c
  unfold value? at h
  -- one case for each row of the alphabet
  split_ifs at h with hupper hlower hdigit hplus hslash
  · cases h
    have hfirst : 65 ≤ c.toNat := hupper.1
    have hlast : c.toNat ≤ 90 := hupper.2
    have hrow : 65 + (c.toNat - 65) = c.toNat := by omega
    exact ⟨by omega, by rw [character, if_pos (by omega), hrow, hback]⟩
  · cases h
    have hfirst : 97 ≤ c.toNat := hlower.1
    have hlast : c.toNat ≤ 122 := hlower.2
    have hrow : 71 + (c.toNat - 71) = c.toNat := by omega
    exact ⟨by omega, by rw [character, if_neg (by omega), if_pos (by omega), hrow, hback]⟩
  · cases h
    have hfirst : 48 ≤ c.toNat := hdigit.1
    have hlast : c.toNat ≤ 57 := hdigit.2
    have hrow : c.toNat + 4 - 4 = c.toNat := by omega
    exact ⟨by omega, by
      rw [character, if_neg (by omega), if_neg (by omega), if_pos (by omega), hrow, hback]⟩
  · cases h
    exact ⟨by decide, hplus⟩
  · cases h
    exact ⟨by decide, hslash⟩

/-! ### Groups -/

/-- The characters of a full group, with whatever comes behind it. -/
theorem encode_group {n : Nat} (h : n < 16777216) (r : Octets) :
    encode ([UInt8.ofNat (n / 65536), UInt8.ofNat (n / 256 % 256), UInt8.ofNat (n % 256)] ++ r)
      = character (n / 262144) :: character (n / 4096 % 64) :: character (n / 64 % 64) ::
        character (n % 64) :: encode r := by
  have hfirst : (UInt8.ofNat (n / 65536)).toNat = n / 65536 := UInt8.toNat_ofNat_of_lt' (by
    rw [UInt8.size]
    omega)
  have hsecond : (UInt8.ofNat (n / 256 % 256)).toNat = n / 256 % 256 :=
    UInt8.toNat_ofNat_of_lt' (Nat.mod_lt _ (by decide))
  have hthird : (UInt8.ofNat (n % 256)).toNat = n % 256 :=
    UInt8.toNat_ofNat_of_lt' (Nat.mod_lt _ (by decide))
  have hvalue : n / 65536 * 65536 + n / 256 % 256 * 256 + n % 256 = n := by omega
  rw [List.cons_append, List.cons_append, List.cons_append, List.nil_append, encode]
  simp only [hfirst, hsecond, hthird, hvalue]

/-- A full group that is read is that of its octets. -/
theorem exists_of_group? {a b c d : Char} {g : Octets} (h : group? a b c d = some g) :
    ∃ n < 16777216,
      g = [UInt8.ofNat (n / 65536), UInt8.ofNat (n / 256 % 256), UInt8.ofNat (n % 256)]
        ∧ a = character (n / 262144) ∧ b = character (n / 4096 % 64)
        ∧ c = character (n / 64 % 64) ∧ d = character (n % 64) := by
  simp only [group?, Option.bind_eq_bind, Option.bind_eq_some_iff, Option.pure_def,
    Option.some.injEq] at h
  obtain ⟨i, hi, j, hj, k, hk, l, hl, rfl⟩ := h
  obtain ⟨hi, rfl⟩ := eq_character_of_value? hi
  obtain ⟨hj, rfl⟩ := eq_character_of_value? hj
  obtain ⟨hk, rfl⟩ := eq_character_of_value? hk
  obtain ⟨hl, rfl⟩ := eq_character_of_value? hl
  have hfirst : (i * 262144 + j * 4096 + k * 64 + l) / 262144 = i := by omega
  have hsecond : (i * 262144 + j * 4096 + k * 64 + l) / 4096 % 64 = j := by omega
  have hthird : (i * 262144 + j * 4096 + k * 64 + l) / 64 % 64 = k := by omega
  have hfourth : (i * 262144 + j * 4096 + k * 64 + l) % 64 = l := by omega
  refine ⟨i * 262144 + j * 4096 + k * 64 + l, by omega, rfl, ?_, ?_, ?_, ?_⟩
  · rw [hfirst]
  · rw [hsecond]
  · rw [hthird]
  · rw [hfourth]

/-- A last group of two characters that is read is that of its octet. -/
theorem encode_of_lastOne? {a b : Char} {g : Octets} (h : lastOne? a b = some g) :
    encode g = [a, b, '=', '='] := by
  simp only [lastOne?, Option.bind_eq_bind, Option.bind_eq_some_iff,
    Option.ite_none_right_eq_some, Option.some.injEq] at h
  obtain ⟨i, hi, j, hj, hover, rfl⟩ := h
  obtain ⟨hi, rfl⟩ := eq_character_of_value? hi
  obtain ⟨hj, rfl⟩ := eq_character_of_value? hj
  have hoctet : (UInt8.ofNat ((i * 64 + j) / 16)).toNat = (i * 64 + j) / 16 :=
    UInt8.toNat_ofNat_of_lt' (by
      rw [UInt8.size]
      omega)
  -- the bits that are left over are zero, so that they are written again
  have hfirst : (i * 64 + j) / 16 / 4 = i := by omega
  have hsecond : (i * 64 + j) / 16 % 4 * 16 = j := by omega
  simp only [encode, hoctet, hfirst, hsecond]

/-- A last group of three characters that is read is that of its two octets. -/
theorem encode_of_lastTwo? {a b c : Char} {g : Octets} (h : lastTwo? a b c = some g) :
    encode g = [a, b, c, '='] := by
  simp only [lastTwo?, Option.bind_eq_bind, Option.bind_eq_some_iff,
    Option.ite_none_right_eq_some, Option.some.injEq] at h
  obtain ⟨i, hi, j, hj, k, hk, hover, rfl⟩ := h
  obtain ⟨hi, rfl⟩ := eq_character_of_value? hi
  obtain ⟨hj, rfl⟩ := eq_character_of_value? hj
  obtain ⟨hk, rfl⟩ := eq_character_of_value? hk
  have hhigh : (UInt8.ofNat ((i * 4096 + j * 64 + k) / 1024)).toNat
      = (i * 4096 + j * 64 + k) / 1024 :=
    UInt8.toNat_ofNat_of_lt' (by
      rw [UInt8.size]
      omega)
  have hlow : (UInt8.ofNat ((i * 4096 + j * 64 + k) / 4 % 256)).toNat
      = (i * 4096 + j * 64 + k) / 4 % 256 :=
    UInt8.toNat_ofNat_of_lt' (Nat.mod_lt _ (by decide))
  have hvalue : (i * 4096 + j * 64 + k) / 1024 * 256 + (i * 4096 + j * 64 + k) / 4 % 256
      = (i * 4096 + j * 64 + k) / 4 := by omega
  have hfirst : (i * 4096 + j * 64 + k) / 4 / 1024 = i := by omega
  have hsecond : (i * 4096 + j * 64 + k) / 4 / 16 % 64 = j := by omega
  have hthird : (i * 4096 + j * 64 + k) / 4 % 16 * 4 = k := by omega
  simp only [encode, hhigh, hlow, hvalue, hfirst, hsecond, hthird]

/-! ### Texts -/

/-- Whatever is read is what would be written. -/
theorem encode_of_decode? {t : List Char} {b : Octets} (h : decode? t = some b) : encode b = t := by
  induction t using decode?.induct generalizing b with
  | case1 =>
      cases h
      rfl
  | case2 a b => exact encode_of_lastOne? h
  | case3 a b c hc =>
      rw [decode?] at h
      · exact encode_of_lastTwo? h
      · exact hc
  | case4 a b c d r hone htwo ih =>
      rw [decode?] at h
      · simp only [Option.bind_eq_bind, Option.bind_eq_some_iff, Option.pure_def,
          Option.some.injEq] at h
        obtain ⟨g, hg, rest, hrest, rfl⟩ := h
        obtain ⟨n, hn, rfl, rfl, rfl, rfl, rfl⟩ := exists_of_group? hg
        rw [encode_group hn, ih hrest]
      · exact hone
      · exact htwo
  | case5 t hnil hone htwo hgroup =>
      rw [decode?] at h
      · cases h
      all_goals assumption

/-- **What is read is what would be written.** -/
theorem decode?_eq_some_iff {t : List Char} {b : Octets} : decode? t = some b ↔ t = encode b := by
  constructor
  · exact fun h => (encode_of_decode? h).symm
  · rintro rfl
    exact decode?_encode b

/-! ### The form of a text -/

/-- How much padding some octets need. -/
def padding (b : Octets) : Nat := (3 - b.length % 3) % 3

/-- **The form of a text** of some octets. -/
structure IsText (b : Octets) (t : List Char) : Prop where
  /-- There are four characters for three octets, the last of which may be missing. -/
  length : t.length = 4 * ((b.length + 2) / 3)
  /-- Digits are followed by as much padding as is needed.  They write the number of the octets, with
  two bits left over for each padding, which are zero. -/
  digits : ∃ ds : List Nat, t = ds.map character ++ List.replicate (padding b) '='
    ∧ (∀ d ∈ ds, d < 64) ∧ Nat.ofDigits 64 ds.reverse = b.toNat * 4 ^ padding b
    ∧ ∀ d ∈ ds.getLast?, d % 4 ^ padding b = 0

theorem padding_cons_cons_cons (x y z : UInt8) (r : Octets) :
    padding (x :: y :: z :: r) = padding r := by
  unfold padding
  simp only [List.length_cons]
  omega

/-- The four digits of a full group write its number, in front of those of the rest. -/
theorem ofDigits_group (n : Nat) (ds : List Nat) :
    Nat.ofDigits 64 ([n / 262144, n / 4096 % 64, n / 64 % 64, n % 64] ++ ds).reverse
      = n * 64 ^ ds.length + Nat.ofDigits 64 ds.reverse := by
  have hgroup : Nat.ofDigits 64 [n / 262144, n / 4096 % 64, n / 64 % 64, n % 64].reverse = n := by
    simp only [List.reverse_cons, List.reverse_nil, List.nil_append, List.cons_append,
      Nat.ofDigits_cons, Nat.ofDigits_nil]
    omega
  rw [List.reverse_append, Nat.ofDigits_append, hgroup, List.length_reverse]
  ring

/-- The digits of a text have the bits of its octets, and two more for each padding. -/
theorem pow_places {r : Octets} {k : Nat} (h : k + padding r = 4 * ((r.length + 2) / 3)) :
    64 ^ k = 256 ^ r.length * 4 ^ padding r := by
  have hbits : 6 * k = 8 * r.length + 2 * padding r := by
    unfold padding at h ⊢
    omega
  rw [show 64 = 2 ^ 6 from rfl, show 256 = 2 ^ 8 from rfl, show 4 = 2 ^ 2 from rfl,
    ← pow_mul, ← pow_mul, ← pow_mul, ← pow_add, hbits]

/-- **Every text has the form.** -/
theorem isText_encode (b : Octets) : IsText b (encode b) := by
  -- the induction is on the groups of three octets
  induction b using encode.induct with
  | case1 => exact ⟨rfl, [], rfl, by simp, rfl, by simp⟩
  | case2 a =>
      have ha := a.toNat_lt
      have hvalue : Nat.ofDigits 64 [a.toNat / 4, a.toNat % 4 * 16].reverse
          = Octets.toNat [a] * 4 ^ 2 := by
        simp [Nat.ofDigits_cons, Octets.toNat_cons]
        omega
      refine ⟨by simp [encode], [a.toNat / 4, a.toNat % 4 * 16], rfl, ?_, hvalue, ?_⟩
      · simp only [List.mem_cons, List.not_mem_nil, or_false, forall_eq_or_imp, forall_eq]
        omega
      · rintro d ⟨⟩
        change a.toNat % 4 * 16 % 16 = 0
        omega
  | case3 a b =>
      have ha := a.toNat_lt
      have hb := b.toNat_lt
      have hvalue : Nat.ofDigits 64 [(a.toNat * 256 + b.toNat) / 1024,
          (a.toNat * 256 + b.toNat) / 16 % 64, (a.toNat * 256 + b.toNat) % 16 * 4].reverse
            = Octets.toNat [a, b] * 4 ^ 1 := by
        simp [Nat.ofDigits_cons, Octets.toNat_cons]
        omega
      refine ⟨by simp [encode], [(a.toNat * 256 + b.toNat) / 1024,
        (a.toNat * 256 + b.toNat) / 16 % 64, (a.toNat * 256 + b.toNat) % 16 * 4], rfl, ?_, hvalue, ?_⟩
      · simp only [List.mem_cons, List.not_mem_nil, or_false, forall_eq_or_imp, forall_eq]
        omega
      · rintro d ⟨⟩
        change (a.toNat * 256 + b.toNat) % 16 * 4 % 4 = 0
        omega
  | case4 x y z r ih =>
      have hx := x.toNat_lt
      have hy := y.toNat_lt
      have hz := z.toNat_lt
      obtain ⟨hlength, ds, htext, hds, hvalue, hover⟩ := ih
      obtain ⟨n, hn⟩ : ∃ n, n = x.toNat * 65536 + y.toNat * 256 + z.toNat := ⟨_, rfl⟩
      have hgroup : encode (x :: y :: z :: r) = character (n / 262144) :: character (n / 4096 % 64)
          :: character (n / 64 % 64) :: character (n % 64) :: encode r := by
        rw [hn]
        rfl
      have hcount : ds.length + padding r = 4 * ((r.length + 2) / 3) := by
        have hall := congrArg List.length htext
        rw [hlength, List.length_append, List.length_map, List.length_replicate] at hall
        exact hall.symm
      rw [hgroup]
      refine ⟨?_, [n / 262144, n / 4096 % 64, n / 64 % 64, n % 64] ++ ds, ?_, ?_, ?_, ?_⟩
      · simp only [List.length_cons, hlength]
        omega
      · rw [padding_cons_cons_cons, htext]
        simp
      · simp only [List.mem_append, List.mem_cons, List.not_mem_nil, or_false, or_imp,
          forall_and, forall_eq]
        exact ⟨by omega, hds⟩
      · have hnumber : Octets.toNat (x :: y :: z :: r) = n * 256 ^ r.length + Octets.toNat r := by
          rw [Octets.toNat_cons, Octets.toNat_cons, Octets.toNat_cons, hn]
          simp only [List.length_cons, pow_succ]
          ring
        rw [padding_cons_cons_cons, ofDigits_group, pow_places hcount, hvalue, hnumber]
        ring
      · rw [padding_cons_cons_cons, List.getLast?_append]
        rcases hlast : ds.getLast? with - | d
        · -- the group is the last one, so that nothing is left over
          have hnil := List.getLast?_eq_none_iff.1 hlast
          rw [hnil, List.length_nil] at hcount
          have hnone : padding r = 0 := by
            unfold padding at hcount ⊢
            omega
          rintro d ⟨⟩
          rw [hnone]
          exact Nat.mod_one _
        · rintro d' ⟨⟩
          exact hover d hlast

end Base64

end RevocationLab
