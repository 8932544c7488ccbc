/-
**Hosts.**

The host of a special scheme is a name in lowercase, four numbers, or eight groups in brackets.  A
name whose last part is a number has to be an address; numbers may be decimal, octal or hexadecimal,
and the last one fills the octets that are left.  Other schemes take any host without separators.

Main definitions:

* `Url.ParseError` — why a text is no URL;
* `Url.Host.special` — the host of a special scheme;
* `Url.Host.other` — the host of any other scheme.
-/

import RevocationLab.SocketAddress
import RevocationLab.Text.Ascii
import RevocationLab.Url.Label
import RevocationLab.Url.Percent

set_option autoImplicit false

namespace RevocationLab

namespace Url

/-! ### Errors -/

/-- Why a text is no URL. -/
inductive ParseError where
  | emptyHost
  | badDomain
  | badHostCharacter
  | badPort
  | badFour
  | badSix
  | relativeWithoutBase
  | relativeToOpaque
  deriving DecidableEq, Repr

/-- The text of an error. -/
def ParseError.message : ParseError → String
  | emptyHost => "empty host"
  | badDomain => "invalid international domain name"
  | badHostCharacter => "invalid domain character"
  | badPort => "invalid port number"
  | badFour => "invalid IPv4 address"
  | badSix => "invalid IPv6 address"
  | relativeWithoutBase => "relative URL without a base"
  | relativeToOpaque => "relative URL with a cannot-be-a-base base"

namespace Host

/-! ### Addresses of four numbers -/

/-- The parts of a text between dots. -/
def splitDots : List Char → List (List Char)
  | [] => [[]]
  | c :: r =>
      if c = '.' then [] :: splitDots r
      else match splitDots r with
        | [] => [[c]]
        | p :: ps => (c :: p) :: ps

/-- The value of digits in a base, when all of them are digits. -/
def valueIn? (base : Nat) (s : List Char) : Option Nat :=
  (s.mapM fun c => (Octets.hexValue? c).filter (· < base)).map
    fun ds => ds.foldl (fun n d => base * n + d) 0

/-- A number in the base that its front tells; a front alone is zero. -/
def number? : List Char → Option Nat
  | [] => none
  | '0' :: 'x' :: r => valueIn? 16 r
  | '0' :: 'X' :: r => valueIn? 16 r
  | '0' :: c :: r => valueIn? 8 (c :: r)
  | s => valueIn? 10 s

/-- The parts of a name, without the empty one after a dot at its end. -/
def parts (s : List Char) : List (List Char) :=
  let ps := splitDots s
  if ps.getLast? = some [] ∧ 1 < ps.length then ps.dropLast else ps

/-- Whether the last part of a name is a number. -/
def endsInNumber (s : List Char) : Bool :=
  match (parts s).getLast? with
  | some last => last ≠ [] && (last.all Char.isDigit || (number? last).isSome)
  | none => false

/-- The octets of a number, of which there are `width`. -/
def octetsOf (width n : Nat) : List Nat := (Octets.ofNatPadded width n).map UInt8.toNat

/-- Four numbers, of which the last may stand for several. -/
def four (s : List Char) : Except ParseError String :=
  match (parts s).mapM number? with
  | none => .error .badFour
  | some numbers =>
      let front := numbers.dropLast
      let last := numbers.getLastD 0
      let width := 4 - front.length
      if 4 < numbers.length ∨ front.any (255 < ·) ∨ Nat.pow 256 width ≤ last then .error .badFour
      else .ok (SocketAddress.fourText (front ++ octetsOf width last))

/-! ### Addresses of eight groups -/

/-- Eight groups up to a closing bracket at the end. -/
def bracketed (s : List Char) : Except ParseError String :=
  match s.reverse with
  | ']' :: r =>
      match SocketAddress.eight? r.reverse with
      | some (gs, []) => .ok ("[" ++ SocketAddress.eightText gs ++ "]")
      | _ => .error .badSix
  | _ => .error .badSix

/-! ### Hosts -/

/-- A name in lowercase with each label as it stands in an address. -/
def domain? (s : List Char) : Option (List Char) :=
  ['.'].intercalate <$> (splitDots (s.map Char.toLower)).mapM Label.toAscii?

/-- The characters that no host name has. -/
def isForbidden (c : Char) : Bool :=
  c ≤ ' ' || "#/:<>?@[\\]^`\x7b|\x7d%\x7f".toList.contains c

/-- The host of a special scheme. -/
def special (s : List Char) : Except ParseError String :=
  match s with
  | '[' :: r => bracketed r
  | _ =>
      match Octets.toText? (decode s) with
      | none => .error .badDomain
      | some text =>
          match domain? text.toList with
          | none => .error .badDomain
          | some name =>
              if name.any isForbidden then .error .badDomain
              else if name = [] then .error .emptyHost
              else if endsInNumber name then four name
              else .ok (String.ofList name)

/-- The characters that no other host has. -/
def isSeparator (c : Char) : Bool := "\x00 #/:<>?@[\\]^|".toList.contains c

/-- The host of a scheme that is not special. -/
def other (s : List Char) : Except ParseError String :=
  match s with
  | '[' :: r => bracketed r
  | _ =>
      if s.any isSeparator then .error .badHostCharacter
      else .ok (String.ofList (encodeWith inNone s))

end Host

end Url

end RevocationLab
