/-
**Strings of octets.**

Everything that travels — DER, digests, bodies, header values — is a list of octets.  This module
gives the readings of such a list that the rest of the library needs: hexadecimal text, big-endian
numbers, and UTF-8 text.

Main definitions:

* `Octets` — a list of octets;
* `Octets.toHex`, `Octets.ofHex?` — lowercase hexadecimal text, and reading it in either case;
* `Octets.toNat`, `Octets.ofNat`, `Octets.ofNatPadded` — big-endian numbers;
* `Octets.ofText`, `Octets.toText?` — UTF-8.
-/

set_option autoImplicit false

namespace RevocationLab

/-- A string of octets. -/
abbrev Octets := List UInt8

namespace Octets

/-! ### Hexadecimal text -/

/-- The lowercase digit of a value below sixteen. -/
def hexDigit (n : Nat) : Char :=
  if n < 10 then Char.ofNat (48 + n) else Char.ofNat (87 + n)

/-- The value of a hexadecimal digit in either case. -/
def hexValue? (c : Char) : Option Nat :=
  if '0' ≤ c ∧ c ≤ '9' then some (c.toNat - 48)
  else if 'a' ≤ c ∧ c ≤ 'f' then some (c.toNat - 87)
  else if 'A' ≤ c ∧ c ≤ 'F' then some (c.toNat - 55)
  else none

/-- The two digits of an octet. -/
def hexPair (b : UInt8) : List Char :=
  [hexDigit (b.toNat / 16), hexDigit (b.toNat % 16)]

/-- Two lowercase digits for each octet. -/
def toHex (b : Octets) : String :=
  String.ofList (b.flatMap hexPair)

/-- Reads pairs of digits; an odd number of characters, or one that is no digit, is refused. -/
def ofHexChars? : List Char → Option Octets
  | [] => some []
  | [_] => none
  | h :: l :: r => do
      let high ← hexValue? h
      let low ← hexValue? l
      let rest ← ofHexChars? r
      return UInt8.ofNat (16 * high + low) :: rest

/-- The octets that a hexadecimal text writes out. -/
def ofHex? (s : String) : Option Octets :=
  ofHexChars? s.toList

/-! ### Big-endian numbers -/

/-- The number that the octets write in base 256, most significant first. -/
def toNat (b : Octets) : Nat :=
  b.foldl (fun n x => 256 * n + x.toNat) 0

/-- The last `width` base-256 digits of `n`, most significant first, before those in `acc`. -/
def digitsOnto : Nat → Nat → Octets → Octets
  | 0, _, acc => acc
  | width + 1, n, acc => digitsOnto width (n / 256) (UInt8.ofNat (n % 256) :: acc)

/-- `n` in exactly `width` octets, most significant first; higher digits are dropped. -/
def ofNatPadded (width n : Nat) : Octets :=
  digitsOnto width n []

/-- The number of base-256 digits of `n`; zero has none. -/
def digitCount (n : Nat) : Nat :=
  if n = 0 then 0 else Nat.log2 n / 8 + 1

/-- `n` in as few octets as possible; zero is the empty string. -/
def ofNat (n : Nat) : Octets :=
  ofNatPadded (digitCount n) n

@[simp] theorem toNat_nil : toNat [] = 0 := rfl

@[simp] theorem length_digitsOnto (width n : Nat) (acc : Octets) :
    (digitsOnto width n acc).length = width + acc.length := by
  induction width generalizing n acc with
  | zero => simp [digitsOnto]
  | succ width ih => simp only [digitsOnto, ih, List.length_cons]; omega

@[simp] theorem length_ofNatPadded (width n : Nat) : (ofNatPadded width n).length = width := by
  simp [ofNatPadded]

/-! ### Text -/

/-- The UTF-8 octets of a text. -/
def ofText (s : String) : Octets :=
  s.toList.flatMap String.utf8EncodeChar

/-- The text whose UTF-8 octets these are. -/
def toText? (b : Octets) : Option String :=
  String.fromUTF8? ⟨b.toArray⟩

end Octets

end RevocationLab
