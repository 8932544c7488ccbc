/-
**General names.**

The ways to name a requestor: a mail address, a host, a directory name and so on, each in a numbered
field.  Text in the ASCII forms has no octet above 127.

Main definitions:

* `X509.GeneralName`, `X509.GeneralName.encode`, `X509.GeneralName.decoder`.
-/

import RevocationLab.X509.DirectoryText
import RevocationLab.X509.Name

set_option autoImplicit false

namespace RevocationLab

namespace X509

open Der

/-! ### Names -/

/-- A name of one of several kinds. -/
inductive GeneralName where
  | other (kind : ObjectId) (value : Element)
  | mail (text : Octets)
  | host (text : Octets)
  | directory (name : Name)
  | dataInterchange (assigner : Option DirectoryText) (party : DirectoryText)
  | uri (text : Octets)
  | address (octets : Octets)
  | registered (id : ObjectId)
  deriving DecidableEq, Repr

namespace GeneralName

/-- The element of a name. -/
def encode : GeneralName → Octets
  | other kind value =>
      element (Tag.contextConstructed 0)
        (kind.encode ++ element (Tag.contextConstructed 0) value.encode)
  | mail text => element (Tag.context 1) text
  | host text => element (Tag.context 2) text
  | directory name => element (Tag.contextConstructed 4) name.encode
  | dataInterchange assigner party =>
      element (Tag.contextConstructed 5)
        (((assigner.map fun a => element (Tag.contextConstructed 0) a.encode).getD [])
          ++ element (Tag.contextConstructed 1) party.encode)
  | uri text => element (Tag.context 6) text
  | address octets => element (Tag.context 7) octets
  | registered id => element (Tag.context 8) id.octets

/-- A value that a decoder must find in its numbered field. -/
def required {α : Type} (d : Decoder (Option α)) : Decoder α := do
  match ← d with
  | some x => pure x
  | none => failure

/-- The name in an element. -/
def ofElement? (e : Element) : Option GeneralName :=
  if e.tag = Tag.contextConstructed 0 then
    Decoder.whole
      (do return other (← Decoder.objectId) (← required (Decoder.explicit 0 Decoder.any))) e.content
  else if e.tag = Tag.context 1 then if isAscii e.content then some (mail e.content) else none
  else if e.tag = Tag.context 2 then if isAscii e.content then some (host e.content) else none
  else if e.tag = Tag.contextConstructed 4 then
    directory <$> Decoder.whole Decoder.name e.content
  else if e.tag = Tag.contextConstructed 5 then
    Decoder.whole
      (do
        let assigner ← Decoder.explicit 0 DirectoryText.decoder
        return dataInterchange assigner (← required (Decoder.explicit 1 DirectoryText.decoder)))
      e.content
  else if e.tag = Tag.context 6 then if isAscii e.content then some (uri e.content) else none
  else if e.tag = Tag.context 7 then some (address e.content)
  else if e.tag = Tag.context 8 then
    if ObjectId.isReadable e.content then some (registered ⟨e.content⟩) else none
  else none

/-- A name. -/
def decoder : Decoder GeneralName := do
  match ofElement? (← Decoder.any) with
  | some n => pure n
  | none => failure

end GeneralName

end X509

end RevocationLab
