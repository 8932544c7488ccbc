/-
**The standard padded base64 alphabet.**

Three octets are four characters; a last group of one or two octets is padded with `=`.  Reading
accepts only what writing produces: the padding has to be there, nothing may follow it, and the bits
it leaves over are zero.

Main definitions:

* `Base64.character`, `Base64.value?` — the alphabet and its inverse;
* `Base64.encode`, `Base64.decode?` — writing and reading.
-/

import RevocationLab.Octets

set_option autoImplicit false

namespace RevocationLab

namespace Base64

/-! ### The alphabet -/

/-- The character for a value below sixty-four. -/
def character (n : Nat) : Char :=
  if n < 26 then Char.ofNat (65 + n)
  else if n < 52 then Char.ofNat (71 + n)
  else if n < 62 then Char.ofNat (n - 4)
  else if n = 62 then '+'
  else '/'

/-- The value of a character of the alphabet. -/
def value? (c : Char) : Option Nat :=
  if 'A' ≤ c ∧ c ≤ 'Z' then some (c.toNat - 65)
  else if 'a' ≤ c ∧ c ≤ 'z' then some (c.toNat - 71)
  else if '0' ≤ c ∧ c ≤ '9' then some (c.toNat + 4)
  else if c = '+' then some 62
  else if c = '/' then some 63
  else none

/-! ### Writing -/

/-- The padded text of a string of octets. -/
def encode : Octets → List Char
  | [] => []
  | [a] =>
      let n := a.toNat
      [character (n / 4), character (n % 4 * 16), '=', '=']
  | [a, b] =>
      let n := a.toNat * 256 + b.toNat
      [character (n / 1024), character (n / 16 % 64), character (n % 16 * 4), '=']
  | a :: b :: c :: r =>
      let n := a.toNat * 65536 + b.toNat * 256 + c.toNat
      character (n / 262144) :: character (n / 4096 % 64) :: character (n / 64 % 64) ::
        character (n % 64) :: encode r

/-! ### Reading -/

/-- The octet of a last group of two characters; the four bits left over must be zero. -/
def lastOne? (a b : Char) : Option Octets := do
  let n := (← value? a) * 64 + (← value? b)
  if n % 16 = 0 then some [UInt8.ofNat (n / 16)] else none

/-- The octets of a last group of three characters; the two bits left over must be zero. -/
def lastTwo? (a b c : Char) : Option Octets := do
  let n := (← value? a) * 4096 + (← value? b) * 64 + (← value? c)
  if n % 4 = 0 then some [UInt8.ofNat (n / 1024), UInt8.ofNat (n / 4 % 256)] else none

/-- The three octets of a full group. -/
def group? (a b c d : Char) : Option Octets := do
  let n := (← value? a) * 262144 + (← value? b) * 4096 + (← value? c) * 64 + (← value? d)
  return [UInt8.ofNat (n / 65536), UInt8.ofNat (n / 256 % 256), UInt8.ofNat (n % 256)]

/-- The octets of a padded text. -/
def decode? : List Char → Option Octets
  | [] => some []
  | [a, b, '=', '='] => lastOne? a b
  | [a, b, c, '='] => lastTwo? a b c
  | a :: b :: c :: d :: r => do
      let group ← group? a b c d
      let rest ← decode? r
      return group ++ rest
  | _ => none

end Base64

end RevocationLab
