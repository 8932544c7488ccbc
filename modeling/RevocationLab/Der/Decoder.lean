/-
**Reading elements in order.**

A decoder takes a value off the front of a string of octets and returns the rest.  The combinators
follow the grammar of a type: an element with a fixed tag whose content is read to its end, a list of
values, a field that may be absent, a numbered field.  Numbered fields may be preceded by fields with
lower numbers, which are skipped.

Main definitions:

* `Der.Decoder` — a reader of a value;
* `Der.Decoder.whole`, `Der.decode?` — reading a string to its end;
* `Der.Decoder.content`, `Der.Decoder.inside`, `Der.Decoder.sequence`, `Der.Decoder.listOf`;
* `Der.Decoder.optional`, `Der.Decoder.explicit`, `Der.Decoder.implicit`.
-/

import RevocationLab.Der.Element

set_option autoImplicit false

namespace RevocationLab

namespace Der

/-- Takes a value off the front of a string of octets, or refuses. -/
abbrev Decoder (α : Type) := StateT Octets Option α

namespace Decoder

variable {α : Type}

/-! ### Whole strings -/

/-- The value of a string that holds nothing after it. -/
def whole (d : Decoder α) (b : Octets) : Option α :=
  match d.run b with
  | some (x, []) => some x
  | _ => none

/-- A decoder that reads a value out of octets already taken. -/
def within (d : Decoder α) (b : Octets) : Decoder α :=
  fun rest => (whole d b).map fun x => (x, rest)

/-! ### Elements -/

/-- Any element. -/
def any : Decoder Element := readElement

/-- The content of an element with this tag. -/
def content (tag : Tag) : Decoder Octets := fun b =>
  match readElement b with
  | some (e, rest) => if e.tag = tag then some (e.content, rest) else none
  | none => none

/-- A value that fills the content of an element with this tag. -/
def inside (tag : Tag) (d : Decoder α) : Decoder α := do
  within d (← content tag)

/-- A value that fills a SEQUENCE. -/
def sequence (d : Decoder α) : Decoder α := inside Tag.sequence d

/-! ### Lists -/

/-- At most `fuel` values up to the end of the string. -/
def manyUpTo (d : Decoder α) : Nat → Octets → Option (List α)
  | _, [] => some []
  | 0, _ => none
  | fuel + 1, b => do
      let (x, rest) ← d.run b
      let xs ← manyUpTo d fuel rest
      return x :: xs

/-- Values up to the end of the string; each takes at least one octet. -/
def many (d : Decoder α) : Decoder (List α) := fun b =>
  (manyUpTo d b.length b).map fun xs => (xs, [])

/-- A SEQUENCE of values. -/
def listOf (d : Decoder α) : Decoder (List α) := sequence (many d)

/-! ### Fields that may be absent -/

/-- The tag of the next element, which stays where it is; an unknown tag is refused. -/
def nextTag : Decoder (Option Tag) := fun b =>
  match b with
  | [] => some (none, [])
  | tag :: rest => if Tag.isKnown tag then some (some tag, tag :: rest) else none

/-- A value that is there if the next tag is one of its tags. -/
def optional (accepts : Tag → Bool) (d : Decoder α) : Decoder (Option α) := do
  match ← nextTag with
  | some tag => if accepts tag then some <$> d else pure none
  | none => pure none

/-- Drops numbered fields below `n`, at most `fuel` of them. -/
def skipBelow (n : Nat) : Nat → Octets → Option Octets
  | 0, b => some b
  | _, [] => some []
  | fuel + 1, tag :: r =>
      if Tag.isKnown tag then
        if Tag.isContext tag && decide (Tag.number tag < n) then do
          let (_, rest) ← readElement (tag :: r)
          skipBelow n fuel rest
        else some (tag :: r)
      else none

/-- The element of numbered field `n`, if it is there. -/
def numbered (n : Nat) : Decoder (Option Element) := fun b => do
  match ← skipBelow n b.length b with
  | [] => some (none, [])
  | tag :: r =>
      if Tag.isContext tag && Tag.number tag == n then do
        let (e, rest) ← readElement (tag :: r)
        return (some e, rest)
      else some (none, tag :: r)

/-- Numbered field `n` around the whole element of a value. -/
def explicit (n : Nat) (d : Decoder α) : Decoder (Option α) := do
  match ← numbered n with
  | none => pure none
  | some e => if Tag.isConstructed e.tag then some <$> within d e.content else failure

/-- Numbered field `n` in place of the tag of a primitive value, whose content `read` reads. -/
def implicit (n : Nat) (read : Octets → Option α) : Decoder (Option α) := do
  match ← numbered n with
  | none => pure none
  | some e =>
      if Tag.isConstructed e.tag then failure
      else match read e.content with
        | some x => pure (some x)
        | none => failure

end Decoder

/-- The value of an encoding that holds nothing after it and is not too long. -/
def decode? {α : Type} (d : Decoder α) (b : Octets) : Option α :=
  if b.length ≤ maxLength then d.whole b else none

end Der

end RevocationLab
