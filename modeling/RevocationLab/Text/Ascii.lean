/-
**ASCII rules on texts.**

Protocol tokens are compared without regard to the case of ASCII letters, header values are read as
text only when every octet of them is visible, and lengths are written in decimal.  This module
holds those rules on lists of characters and octets.

Main definitions:

* `Ascii.eqIgnoreCase` — equality up to the case of ASCII letters;
* `Ascii.visible?` — the text of a header value made of visible ASCII, spaces and tabs;
* `Ascii.trim` — a text without the blanks at its ends;
* `Ascii.word64?` — a decimal number below `2 ^ 64`.
-/

import RevocationLab.Octets

set_option autoImplicit false

namespace RevocationLab

namespace Ascii

/-! ### Letter case -/

/-- Whether two texts are equal once ASCII letters are made lowercase. -/
def eqIgnoreCase (a b : List Char) : Bool :=
  a.map Char.toLower == b.map Char.toLower

/-- A text in lowercase. -/
def lowercase (s : String) : String :=
  String.ofList (s.toList.map Char.toLower)

theorem eqIgnoreCase_iff {a b : List Char} :
    eqIgnoreCase a b = true ↔ a.map Char.toLower = b.map Char.toLower := by
  simp [eqIgnoreCase]

/-! ### Header values as text -/

/-- The octets that a value read as text may hold: visible ASCII, the space and the tab. -/
def isVisible (b : UInt8) : Bool :=
  b == 9 || (32 ≤ b && b < 127)

/-- The value as text, when every octet of it is visible. -/
def visible? (value : Octets) : Option (List Char) :=
  if value.all isVisible then some (value.map fun b => Char.ofNat b.toNat) else none

/-! ### Blanks -/

/-- The two characters that may surround a value. -/
def isBlank (c : Char) : Bool :=
  c == ' ' || c == '\t'

/-- The text without leading and trailing blanks. -/
def trim (s : List Char) : List Char :=
  ((s.dropWhile isBlank).reverse.dropWhile isBlank).reverse

/-! ### Decimal numbers -/

/-- The number that a list of digits writes, leading digits first. -/
def decimalValue (ds : List Char) : Nat :=
  ds.foldl (fun n c => 10 * n + (c.toNat - 48)) 0

/-- A non-empty run of digits. -/
def digits? (s : List Char) : Option Nat :=
  if s ≠ [] ∧ s.all Char.isDigit then some (decimalValue s) else none

/-- A decimal number below `2 ^ 64`.  One plus sign may stand in front. -/
def word64? (s : List Char) : Option Nat :=
  (digits? (match s with | '+' :: r => r | r => r)).filter (· < UInt64.size)

end Ascii

end RevocationLab
