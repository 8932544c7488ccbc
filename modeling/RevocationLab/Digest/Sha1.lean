/-
**SHA-1.**

The digest of FIPS 180-4 with a 160-bit state: the message is padded to whole blocks of sixty-four
octets, each block is spread over eighty words, and the words are folded into the state.

Main definitions:

* `Digest.pad` — the padding shared by both digests of this library;
* `Digest.Sha1.digest` — the digest.
-/

import RevocationLab.Octets

set_option autoImplicit false

namespace RevocationLab

namespace Digest

/-! ### Words and padding -/

/-- The bits of a word turned left by `n` places. -/
def rotateLeft (x : UInt32) (n : UInt32) : UInt32 :=
  (x <<< n) ||| (x >>> (32 - n))

/-- The message followed by a one bit, as few zero bits as fill up a block, and the message's
length in bits as eight octets. -/
def pad (message : Octets) : Octets :=
  let length := message.length
  let zeros := (119 - length % 64) % 64
  message ++ 0x80 :: List.replicate zeros 0 ++ Octets.ofNatPadded 8 (8 * length)

/-- The big-endian words of a string of octets; up to three octets at the end are dropped. -/
def words : Octets → List UInt32
  | a :: b :: c :: d :: r =>
      (a.toUInt32 <<< 24 ||| b.toUInt32 <<< 16 ||| c.toUInt32 <<< 8 ||| d.toUInt32) :: words r
  | _ => []

/-- The four octets of a word. -/
def wordOctets (x : UInt32) : Octets :=
  [(x >>> 24).toUInt8, (x >>> 16).toUInt8, (x >>> 8).toUInt8, x.toUInt8]

/-- The words in groups of sixteen. -/
def blocks (ws : List UInt32) : List (List UInt32) :=
  if _ : ws = [] then [] else ws.take 16 :: blocks (ws.drop 16)
termination_by ws.length
decreasing_by
  have : 0 < ws.length := List.length_pos_iff.2 ‹_›
  simp only [List.length_drop]
  omega

namespace Sha1

/-! ### The digest -/

/-- The five words of the state. -/
structure State where
  a : UInt32
  b : UInt32
  c : UInt32
  d : UInt32
  e : UInt32

/-- The state before the first block. -/
def start : State :=
  ⟨0x67452301, 0xefcdab89, 0x98badcfe, 0x10325476, 0xc3d2e1f0⟩

/-- The words of a block spread over eighty rounds: each further word mixes four earlier ones. -/
def schedule (block : List UInt32) : Array UInt32 :=
  (List.range 64).foldl
    (fun w i =>
      let x := w.getD (i + 13) 0 ^^^ w.getD (i + 8) 0 ^^^ w.getD (i + 2) 0 ^^^ w.getD i 0
      w.push (rotateLeft x 1))
    block.toArray

/-- The mixing function and the constant of a round. -/
def roundPart (t : Nat) (s : State) : UInt32 :=
  if t < 20 then ((s.b &&& s.c) ||| (~~~s.b &&& s.d)) + 0x5a827999
  else if t < 40 then (s.b ^^^ s.c ^^^ s.d) + 0x6ed9eba1
  else if t < 60 then ((s.b &&& s.c) ||| (s.b &&& s.d) ||| (s.c &&& s.d)) + 0x8f1bbcdc
  else (s.b ^^^ s.c ^^^ s.d) + 0xca62c1d6

/-- One round. -/
def round (w : Array UInt32) (s : State) (t : Nat) : State :=
  ⟨rotateLeft s.a 5 + roundPart t s + s.e + w.getD t 0, s.a, rotateLeft s.b 30, s.c, s.d⟩

/-- Folds one block into the state. -/
def compress (s : State) (block : List UInt32) : State :=
  let r := (List.range 80).foldl (round (schedule block)) s
  ⟨s.a + r.a, s.b + r.b, s.c + r.c, s.d + r.d, s.e + r.e⟩

/-- The twenty octets of a message's digest. -/
def digest (message : Octets) : Octets :=
  let s := (blocks (words (pad message))).foldl compress start
  [s.a, s.b, s.c, s.d, s.e].flatMap wordOctets

@[simp] theorem length_digest (message : Octets) : (digest message).length = 20 := by
  simp [digest, wordOctets]

end Sha1

end Digest

end RevocationLab
