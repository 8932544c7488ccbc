/-
**Percent encoding.**

Each part of a URL has a set of ASCII characters that are written as a percent sign and two capital
digits.  Controls and everything beyond ASCII are always written so.

Main definitions:

* `Url.encodeWith` — a text with the characters of a set encoded;
* `Url.inPath`, `Url.inQuery`, `Url.inSpecialQuery`, `Url.inFragment`, `Url.inUserInfo` — the sets;
* `Url.decode` — the octets of a text with its escapes undone.
-/

import RevocationLab.Octets

set_option autoImplicit false

namespace RevocationLab

namespace Url

/-! ### Encoding -/

/-- The digit of a value below sixteen, in capitals. -/
def capitalDigit (n : Nat) : Char := if n < 10 then Char.ofNat (48 + n) else Char.ofNat (55 + n)

/-- An octet as a percent sign and two digits. -/
def escapeOctet (b : UInt8) : List Char :=
  ['%', capitalDigit (b.toNat / 16), capitalDigit (b.toNat % 16)]

/-- Whether a character is a control or beyond ASCII. -/
def isOutside (c : Char) : Bool := c < ' ' || '~' < c

/-- A character, encoded if it is outside or in the set. -/
def encodeChar (inSet : Char → Bool) (c : Char) : List Char :=
  if isOutside c || inSet c then (String.utf8EncodeChar c).flatMap escapeOctet else [c]

/-- A text with the characters of a set encoded. -/
def encodeWith (inSet : Char → Bool) (s : List Char) : List Char :=
  s.flatMap (encodeChar inSet)

/-! ### Sets -/

/-- No ASCII characters that can be seen. -/
def inNone (_ : Char) : Bool := false

/-- The set of fragments. -/
def inFragment (c : Char) : Bool := " \"<>`".toList.contains c

/-- The set of queries. -/
def inQuery (c : Char) : Bool := " \"#<>".toList.contains c

/-- The set of queries of special schemes. -/
def inSpecialQuery (c : Char) : Bool := inQuery c || c == '\''

/-- The set of paths. -/
def inPath (c : Char) : Bool := inFragment c || "#?\x7b\x7d".toList.contains c

/-- The set of user names and passwords. -/
def inUserInfo (c : Char) : Bool := inPath c || "/:;=@[\\]^|".toList.contains c

/-! ### Decoding -/

/-- The octets of a text, with each percent sign and two digits as one octet. -/
def decode : List Char → Octets
  | '%' :: h :: l :: r =>
      match Octets.hexValue? h, Octets.hexValue? l with
      | some a, some b => UInt8.ofNat (16 * a + b) :: decode r
      | _, _ => 0x25 :: decode (h :: l :: r)
  | c :: r => String.utf8EncodeChar c ++ decode r
  | [] => []

end Url

end RevocationLab
