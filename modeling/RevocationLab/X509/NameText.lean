/-
**Names as text.**

A name is written with its last set of attributes first, commas between the sets, plus signs between
the attributes of a set, and each attribute as a key, an equals sign and a value.  A backslash keeps
a separator from being one.

A value is text with its special characters escaped, or a number sign and the hexadecimal octets of
an element.  Reading gives text the tag that its kind of attribute asks for, and does not check that
the text has the characters of that tag; writing falls back on octets where it does not.

Main definitions:

* `X509.Name.ofText?` — the name that a text writes;
* `X509.Name.toText` — the text of a name;
* `X509.Name.ofCommonName?` — the name that a common name, put behind its key, writes.
-/

import RevocationLab.Der.Decoder
import RevocationLab.X509.Descriptor
import RevocationLab.X509.DirectoryText
import RevocationLab.X509.Name

set_option autoImplicit false

namespace RevocationLab

namespace X509

open Der

/-! ### Separators -/

/-- The parts of a text between separators, where `earlier` and `last` are the characters before it.
A separator behind a backslash is none, unless another backslash stands before that one. -/
def splitParts (separator : Char) : Char → Char → List Char → List (List Char)
  | _, _, [] => [[]]
  | earlier, last, c :: r =>
      let parts := splitParts separator last c r
      if c = separator ∧ (last ≠ '\\' ∨ earlier = '\\') then [] :: parts
      else match parts with
        | [] => [[c]]
        | p :: ps => (c :: p) :: ps

/-- The parts of a text between separators. -/
def parts (separator : Char) (s : List Char) : List (List Char) :=
  splitParts separator '\x00' '\x00' s

/-! ### Reading values -/

/-- The characters that may follow a backslash and then stand for themselves. -/
def isEscapable (c : Char) : Bool := " \"#=\\+,;<>".toList.contains c

/-- The octets of a text with its escapes undone: a backslash with a special character or with two
hexadecimal digits.  What an escape at the end lacks is dropped with it. -/
def unescape? : List Char → Option Octets
  | [] => some []
  | '\\' :: c :: r =>
      if isEscapable c then do return UInt8.ofNat c.toNat :: (← unescape? r)
      else do
        let high ← Octets.hexValue? c
        match r with
        | [] => return []
        | d :: r =>
            let low ← Octets.hexValue? d
            return UInt8.ofNat (16 * high + low) :: (← unescape? r)
  | c :: r => if c = '\\' then some [] else do return String.utf8EncodeChar c ++ (← unescape? r)

/-- The tag of the text of a kind of attribute. -/
def textTag (kind : ObjectId) : Tag :=
  if kind = country ∨ kind = deviceSerial then Tag.printableString
  else if kind = domainPart then Tag.ia5String
  else Tag.utf8String

/-- The value of a kind of attribute that a text writes. -/
def value? (kind : ObjectId) : List Char → Option Element
  | '#' :: r => do Der.decode? Decoder.any (← Octets.ofHexChars? r)
  | r => do return ⟨textTag kind, ← unescape? r⟩

/-- The attribute that a text writes: a name or an identifier, an equals sign and a value. -/
def Attribute.ofText? (s : List Char) : Option Attribute := do
  let key := s.takeWhile (· != '=')
  match s.dropWhile (· != '=') with
  | [] => none
  | _ :: text => do
      let kind ← kindOfName? key <|> ObjectId.ofText? (String.ofList key)
      return ⟨kind, ← value? kind text⟩

/-- The set of attributes that a text writes. -/
def RelativeName.ofText? (s : List Char) : Option RelativeName := do
  RelativeName.sorted? (← (parts '+' s).mapM Attribute.ofText?)

/-- The name that a text writes. -/
def Name.ofText? (s : String) : Option Name :=
  List.reverse <$> (parts ',' s.toList).mapM RelativeName.ofText?

/-- The name that a text gives as its common name.  The text is not escaped, so that separators in it
add further attributes. -/
def Name.ofCommonName? (text : String) : Option Name := Name.ofText? ("CN=" ++ text)

/-! ### Writing values -/

/-- The text of a value, when its tag is one of text and its octets are in the tag's alphabet. -/
def valueText? (e : Element) : Option (List Char) :=
  if (e.tag = Tag.ia5String ∧ isAscii e.content) ∨ DirectoryText.isValid e.tag e.content then
    (Octets.toText? e.content).map String.toList
  else none

/-- A character of a value, escaped where it has to be. -/
def escapeCharacter (isFirst isLast : Bool) (c : Char) : List Char :=
  if (c = '#' ∧ isFirst) ∨ (c = ' ' ∧ (isFirst ∨ isLast)) ∨ "\"+,;<>\\".toList.contains c then
    ['\\', c]
  else if c.toNat < 0x20 ∨ c.toNat = 0x7f then '\\' :: Octets.hexPair (UInt8.ofNat c.toNat)
  else [c]

/-- The characters of a value, escaped where they have to be. -/
def escapeText : Bool → List Char → List Char
  | _, [] => []
  | isFirst, c :: r => escapeCharacter isFirst r.isEmpty c ++ escapeText false r

/-- The text of an attribute: its name and its value, or its identifier and its octets. -/
def Attribute.toText (a : Attribute) : String :=
  match nameOfKind? a.kind, valueText? a.value with
  | some name, some text =>
      String.ofList (name.toList.map Char.toUpper ++ '=' :: escapeText true text)
  | _, _ => a.kind.toText ++ "=#" ++ a.value.encode.toHex

/-- The text of a set of attributes. -/
def RelativeName.toText (r : RelativeName) : String :=
  String.intercalate "+" (r.map Attribute.toText)

/-- The text of a name. -/
def Name.toText (n : Name) : String :=
  String.intercalate "," (n.reverse.map RelativeName.toText)

end X509

end RevocationLab
