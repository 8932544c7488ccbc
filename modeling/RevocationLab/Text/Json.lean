/-
**Objects as text.**

Small reports are written as objects: fields in the order of their names, without blanks.

Main definitions:

* `Json.Scalar` — the values of fields;
* `Json.quoted` — a text in quotes;
* `Json.object` — an object.
-/

import RevocationLab.Octets

set_option autoImplicit false

namespace RevocationLab

namespace Json

/-- A character inside quotes. -/
def character (c : Char) : List Char :=
  if c = '"' then ['\\', '"']
  else if c = '\\' then ['\\', '\\']
  else if c = '\n' then ['\\', 'n']
  else if c = '\r' then ['\\', 'r']
  else if c = '\t' then ['\\', 't']
  else if c = '\x08' then ['\\', 'b']
  else if c = '\x0c' then ['\\', 'f']
  else if c.toNat < 0x20 then ['\\', 'u', '0', '0'] ++ Octets.hexPair (UInt8.ofNat c.toNat)
  else [c]

/-- A text in quotes. -/
def quoted (s : String) : String :=
  String.ofList ('"' :: s.toList.flatMap character ++ ['"'])

/-- The value of a field. -/
inductive Scalar where
  | null
  | bool (b : Bool)
  | number (n : Nat)
  | text (s : String)
  deriving DecidableEq, Repr

namespace Scalar

/-- The text of a value. -/
def toText : Scalar → String
  | null => "null"
  | bool b => if b then "true" else "false"
  | number n => toString n
  | text s => quoted s

/-- A number, or nothing. -/
def ofNat? : Option Nat → Scalar
  | some n => number n
  | none => null

/-- A text, or nothing. -/
def ofText? : Option String → Scalar
  | some s => text s
  | none => null

end Scalar

/-- The object with these fields, which are given in the order of their names. -/
def object (fields : List (String × Scalar)) : String :=
  "\x7b" ++ String.intercalate "," (fields.map fun f => quoted f.1 ++ ":" ++ f.2.toText) ++ "\x7d"

end Json

end RevocationLab
