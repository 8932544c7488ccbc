/-
**Base64, written and read.**

Each character of the alphabet is read as the value that it was written for, and the padding is no
character of the alphabet.  So a group of octets is read back from its characters, whether it is full
or the last one, and a text from its groups.

Main results:

* `Base64.value?_character`, `Base64.character_ne_pad` — the alphabet and the padding;
* `Base64.decode?_encode` — **what was written is read back**;
* `Base64.exists_of_mem_encode` — the characters of a text.
-/

import RevocationLab.Base64

set_option autoImplicit false

namespace RevocationLab

namespace Base64

/-! ### The alphabet -/

/-- A character is read as the value that it was written for. -/
theorem value?_character {n : Nat} (h : n < 64) : value? (character n) = some n := by
  revert n
  decide

/-- The padding is no character of the alphabet. -/
theorem character_ne_pad {n : Nat} (h : n < 64) : character n ≠ '=' := by
  revert n
  decide

/-! ### Groups -/

/-- The number of a full group is read back as its three octets. -/
theorem group?_characters {n : Nat} (h : n < 16777216) :
    group? (character (n / 262144)) (character (n / 4096 % 64)) (character (n / 64 % 64))
        (character (n % 64))
      = some [UInt8.ofNat (n / 65536), UInt8.ofNat (n / 256 % 256), UInt8.ofNat (n % 256)] := by
  have hfirst : value? (character (n / 262144)) = some (n / 262144) := value?_character (by omega)
  have hsecond := value?_character (Nat.mod_lt (n / 4096) (show 0 < 64 by decide))
  have hthird := value?_character (Nat.mod_lt (n / 64) (show 0 < 64 by decide))
  have hfourth := value?_character (Nat.mod_lt n (show 0 < 64 by decide))
  have hvalue : n / 262144 * 262144 + n / 4096 % 64 * 4096 + n / 64 % 64 * 64 + n % 64 = n := by
    omega
  unfold group?
  rw [hfirst, hsecond, hthird, hfourth]
  simp only [Option.bind_eq_bind, Option.bind_some, Option.pure_def, hvalue]

/-- The number of a last group of one octet is read back, and leaves no bits over. -/
theorem lastOne?_characters {n : Nat} (h : n < 256) :
    lastOne? (character (n / 4)) (character (n % 4 * 16)) = some [UInt8.ofNat n] := by
  have hfirst : value? (character (n / 4)) = some (n / 4) := value?_character (by omega)
  have hsecond : value? (character (n % 4 * 16)) = some (n % 4 * 16) := value?_character (by omega)
  have hvalue : n / 4 * 64 + n % 4 * 16 = n * 16 := by omega
  have hover : n * 16 % 16 = 0 := Nat.mul_mod_left n 16
  have hback : n * 16 / 16 = n := Nat.mul_div_left n (by decide)
  unfold lastOne?
  rw [hfirst, hsecond]
  simp only [Option.bind_eq_bind, Option.bind_some, hvalue, hover, hback, if_true]

/-- The number of a last group of two octets is read back, and leaves no bits over. -/
theorem lastTwo?_characters {n : Nat} (h : n < 65536) :
    lastTwo? (character (n / 1024)) (character (n / 16 % 64)) (character (n % 16 * 4))
      = some [UInt8.ofNat (n / 256), UInt8.ofNat (n % 256)] := by
  have hfirst : value? (character (n / 1024)) = some (n / 1024) := value?_character (by omega)
  have hsecond := value?_character (Nat.mod_lt (n / 16) (show 0 < 64 by decide))
  have hthird : value? (character (n % 16 * 4)) = some (n % 16 * 4) := value?_character (by omega)
  have hvalue : n / 1024 * 4096 + n / 16 % 64 * 64 + n % 16 * 4 = n * 4 := by omega
  have hover : n * 4 % 4 = 0 := Nat.mul_mod_left n 4
  have hhigh : n * 4 / 1024 = n / 256 := by omega
  have hlow : n * 4 / 4 % 256 = n % 256 := by omega
  unfold lastTwo?
  rw [hfirst, hsecond, hthird]
  simp only [Option.bind_eq_bind, Option.bind_some, hvalue, hover, hhigh, hlow, if_true]

/-! ### Texts -/

/-- Four characters that do not end in padding are a full group. -/
theorem decode?_cons {a b c d : Char} (hd : d ≠ '=') (r : List Char) :
    decode? (a :: b :: c :: d :: r) =
      (group? a b c d).bind fun group => (decode? r).bind fun rest => some (group ++ rest) := by
  rw [decode?.eq_4]
  · rfl
  · rintro rfl heq
    cases heq
    exact absurd rfl hd
  · rintro heq
    cases heq
    exact absurd rfl hd

/-- **What was written is read back.** -/
theorem decode?_encode (b : Octets) : decode? (encode b) = some b := by
  -- the induction is on the groups of three octets
  induction b using encode.induct with
  | case1 => rfl
  | case2 a =>
      have hback := lastOne?_characters a.toNat_lt
      rw [UInt8.ofNat_toNat] at hback
      exact hback
  | case3 a b =>
      have ha := a.toNat_lt
      have hb := b.toNat_lt
      have hback := lastTwo?_characters (n := a.toNat * 256 + b.toNat) (by omega)
      have hhigh : (a.toNat * 256 + b.toNat) / 256 = a.toNat := by omega
      have hlow : (a.toNat * 256 + b.toNat) % 256 = b.toNat := by omega
      rw [hhigh, hlow, UInt8.ofNat_toNat, UInt8.ofNat_toNat] at hback
      rw [encode, decode?]
      · exact hback
      · exact character_ne_pad (by omega)
  | case4 a b c r ih =>
      have ha := a.toNat_lt
      have hb := b.toNat_lt
      have hc := c.toNat_lt
      have hback := group?_characters (n := a.toNat * 65536 + b.toNat * 256 + c.toNat) (by omega)
      have hfirst : (a.toNat * 65536 + b.toNat * 256 + c.toNat) / 65536 = a.toNat := by omega
      have hsecond : (a.toNat * 65536 + b.toNat * 256 + c.toNat) / 256 % 256 = b.toNat := by omega
      have hthird : (a.toNat * 65536 + b.toNat * 256 + c.toNat) % 256 = c.toNat := by omega
      rw [hfirst, hsecond, hthird, UInt8.ofNat_toNat, UInt8.ofNat_toNat, UInt8.ofNat_toNat] at hback
      rw [encode, decode?_cons (character_ne_pad (Nat.mod_lt _ (by decide))), hback, ih]
      rfl

/-- There are no fewer characters than octets. -/
theorem length_le_length_encode (b : Octets) : b.length ≤ (encode b).length := by
  induction b using encode.induct with
  | case1 => exact Nat.le_refl 0
  | case2 a => exact Nat.le_add_left 1 3
  | case3 a b => exact Nat.le_add_left 2 2
  | case4 a b c r ih =>
      simp only [encode, List.length_cons]
      omega

/-- The characters of a text are those of the alphabet and the padding. -/
theorem exists_of_mem_encode {b : Octets} {c : Char} (h : c ∈ encode b) :
    (∃ n < 64, c = character n) ∨ c = '=' := by
  induction b using encode.induct with
  | case1 => simp [encode] at h
  | case2 a =>
      have ha := a.toNat_lt
      simp only [encode, List.mem_cons, List.not_mem_nil, or_false] at h
      rcases h with rfl | rfl | rfl | rfl
      · exact Or.inl ⟨_, by omega, rfl⟩
      · exact Or.inl ⟨_, by omega, rfl⟩
      · exact Or.inr rfl
      · exact Or.inr rfl
  | case3 a b =>
      have ha := a.toNat_lt
      have hb := b.toNat_lt
      simp only [encode, List.mem_cons, List.not_mem_nil, or_false] at h
      rcases h with rfl | rfl | rfl | rfl
      · exact Or.inl ⟨_, by omega, rfl⟩
      · exact Or.inl ⟨_, by omega, rfl⟩
      · exact Or.inl ⟨_, by omega, rfl⟩
      · exact Or.inr rfl
  | case4 a b c r ih =>
      have ha := a.toNat_lt
      have hb := b.toNat_lt
      have hc := c.toNat_lt
      simp only [encode, List.mem_cons] at h
      rcases h with rfl | rfl | rfl | rfl | h
      · exact Or.inl ⟨_, by omega, rfl⟩
      · exact Or.inl ⟨_, by omega, rfl⟩
      · exact Or.inl ⟨_, by omega, rfl⟩
      · exact Or.inl ⟨_, by omega, rfl⟩
      · exact ih h

/-- No character of a text is a percent sign. -/
theorem percent_not_mem_encode (b : Octets) : '%' ∉ encode b := by
  intro h
  have hall : ∀ n < 64, '%' ≠ character n := by decide
  rcases exists_of_mem_encode h with ⟨n, hn, heq⟩ | heq
  · exact hall n hn heq
  · exact absurd heq (by decide)

end Base64

end RevocationLab
