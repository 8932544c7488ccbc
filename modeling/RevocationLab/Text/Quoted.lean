/-
**Quoted text.**

A text in double quotes, in which quotes, backslashes and everything that cannot be seen are escaped.
A character that joins the one before it is escaped too.

Main definitions:

* `Quoted.text` — a text in quotes.
-/

import RevocationLab.Text.Printable

set_option autoImplicit false

namespace RevocationLab

namespace Quoted

/-- The number of a character in hexadecimal, in braces. -/
def numbered (c : Char) : List Char :=
  '\\' :: 'u' :: '\x7b' :: Nat.toDigits 16 c.toNat ++ ['\x7d']

/-- A character inside quotes. -/
def character (c : Char) : List Char :=
  if c = '"' then ['\\', '"']
  else if c = '\\' then ['\\', '\\']
  else if c = '\n' then ['\\', 'n']
  else if c = '\r' then ['\\', 'r']
  else if c = '\t' then ['\\', 't']
  else if c = '\x00' then ['\\', '0']
  else if Printable.isJoining c || !Printable.isPrintable c then numbered c
  else [c]

/-- A text in quotes. -/
def text (s : String) : String :=
  String.ofList ('"' :: s.toList.flatMap character ++ ['"'])

end Quoted

end RevocationLab
