/-
**Socket addresses.**

An address is four decimal numbers, or eight hexadecimal groups in brackets, with a port.  Groups of
zeros may be left out once, the last two groups may be written as four decimal numbers, and a scope
may follow the groups.

Main definitions:

* `SocketAddress`, `SocketAddress.ofText?`, `SocketAddress.toText`;
* `SocketAddress.ipText` — the address without its port.
-/

import RevocationLab.Octets

set_option autoImplicit false

namespace RevocationLab

/-- An address with a port. -/
inductive SocketAddress where
  | four (parts : List Nat) (port : Nat)
  | six (groups : List Nat) (scope : Nat) (port : Nat)
  deriving DecidableEq, Repr

namespace SocketAddress

/-! ### Numbers -/

/-- The digits at the front of a text, as values in base `base`, and the rest. -/
def spanDigits (base : Nat) : List Char → List Nat × List Char
  | [] => ([], [])
  | c :: r =>
      match Octets.hexValue? c with
      | some v =>
          if v < base then
            let (ds, rest) := spanDigits base r
            (v :: ds, rest)
          else ([], c :: r)
      | none => ([], c :: r)

/-- A number below `bound` at the front of a text: all digits there, of which there may be at most
`most`; a zero in front of other digits only if `zeros` is set. -/
def number? (base : Nat) (most : Option Nat) (zeros : Bool) (bound : Nat) (s : List Char) :
    Option (Nat × List Char) :=
  let (ds, rest) := spanDigits base s
  let value := ds.foldl (fun n d => base * n + d) 0
  if ds ≠ [] ∧ ds.length ≤ most.getD ds.length ∧ (zeros ∨ ds.length = 1 ∨ ds.head? ≠ some 0)
      ∧ value < bound then
    some (value, rest)
  else none

/-- The text after a character that has to be there. -/
def after? (c : Char) : List Char → Option (List Char)
  | d :: r => if d = c then some r else none
  | [] => none

/-! ### Four decimal numbers -/

/-- Four numbers below 256 with dots between them. -/
def four? (s : List Char) : Option (List Nat × List Char) := do
  let (a, s) ← number? 10 (some 3) false 256 s
  let (b, s) ← number? 10 (some 3) false 256 (← after? '.' s)
  let (c, s) ← number? 10 (some 3) false 256 (← after? '.' s)
  let (d, s) ← number? 10 (some 3) false 256 (← after? '.' s)
  return ([a, b, c, d], s)

/-- Four numbers as two groups. -/
def groupsOfFour : List Nat → List Nat
  | [a, b, c, d] => [256 * a + b, 256 * c + d]
  | _ => []

/-! ### Eight groups -/

/-- At most `room` groups with colons between them, of which `first` tells that none came before.
The last two may be four decimal numbers, after which no group follows. -/
def groups (first : Bool) : Nat → List Char → List Nat × Bool × List Char
  | 0, s => ([], false, s)
  | room + 1, s =>
      let start := if first then some s else after? ':' s
      let embedded := if room = 0 then none else start.bind four?
      match embedded with
      | some (parts, rest) => (groupsOfFour parts, true, rest)
      | none =>
          match start.bind (number? 16 (some 4) true 65536) with
          | none => ([], false, s)
          | some (g, rest) =>
              let (gs, ended, rest) := groups false room rest
              (g :: gs, ended, rest)

/-- Eight groups, of which a run of zeros may be left out. -/
def eight? (s : List Char) : Option (List Nat × List Char) := do
  let (head, ended, s) := groups true 8 s
  if head.length = 8 then return (head, s)
  else if ended then none
  else
    let s ← after? ':' s
    let s ← after? ':' s
    let (tail, _, s) := groups true (7 - head.length) s
    return (head ++ List.replicate (8 - head.length - tail.length) 0 ++ tail, s)

/-! ### Addresses -/

/-- A port up to the end of the text. -/
def port? (s : List Char) : Option Nat := do
  let (n, rest) ← number? 10 none true 65536 (← after? ':' s)
  if rest = [] then some n else none

/-- The address with its port that a text writes. -/
def ofText? (text : String) : Option SocketAddress :=
  match text.toList with
  | '[' :: s => do
      let (gs, s) ← eight? s
      let (scope, s) ← match s with
        | '%' :: r => number? 10 none true UInt32.size r
        | r => some (0, r)
      return six gs scope (← port? (← after? ']' s))
  | s => do
      let (parts, s) ← four? s
      return four parts (← port? s)

/-! ### Text -/

/-- The first longest run of zeros among groups from index `i` on: its start and length. -/
def longestZeros : Nat → List Nat → Nat × Nat
  | _, [] => (0, 0)
  | i, g :: r =>
      let here := ((g :: r).takeWhile (· == 0)).length
      let later := longestZeros (i + 1) r
      if later.2 ≤ here ∧ 0 < here then (i, here) else later

/-- Groups in hexadecimal with colons between them. -/
def groupsText (gs : List Nat) : String :=
  String.intercalate ":" (gs.map fun g => String.ofList (Nat.toDigits 16 g))

/-- Eight groups, with the longest run of at least two zeros left out. -/
def eightText (gs : List Nat) : String :=
  let (start, length) := longestZeros 0 gs
  if length < 2 then groupsText gs
  else groupsText (gs.take start) ++ "::" ++ groupsText (gs.drop (start + length))

/-- Four numbers with dots between them. -/
def fourText (parts : List Nat) : String :=
  String.intercalate "." (parts.map fun n => toString n)

/-- The text of an address without its port.  Addresses of four numbers inside the larger space keep
their decimal form. -/
def ipText : SocketAddress → String
  | four parts _ => fourText parts
  | six gs _ _ =>
      match gs with
      | [0, 0, 0, 0, 0, 0xffff, a, b] =>
          "::ffff:" ++ fourText [a / 256, a % 256, b / 256, b % 256]
      | _ => eightText gs

/-- The port of an address. -/
def port : SocketAddress → Nat
  | four _ p => p
  | six _ _ p => p

/-- The same address with another port. -/
def withPort (a : SocketAddress) (p : Nat) : SocketAddress :=
  match a with
  | four parts _ => four parts p
  | six gs scope _ => six gs scope p

/-- The text of an address with its port. -/
def toText (a : SocketAddress) : String :=
  match a with
  | four _ p => a.ipText ++ ":" ++ toString p
  | six _ scope p =>
      let zone := if scope = 0 then "" else "%" ++ toString scope
      "[" ++ a.ipText ++ zone ++ "]:" ++ toString p

end SocketAddress

end RevocationLab
