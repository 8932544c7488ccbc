/-
**SHA-256.**

The digest of FIPS 180-4 with eight words of state.  Padding and words are those of the shorter
digest; each block is spread over sixty-four words.

Main definitions:

* `Digest.Sha256.digest` — the digest.
-/

import RevocationLab.Digest.Sha1

set_option autoImplicit false

namespace RevocationLab

namespace Digest

/-- The bits of a word turned right by `n` places. -/
def rotateRight (x : UInt32) (n : UInt32) : UInt32 :=
  (x >>> n) ||| (x <<< (32 - n))

namespace Sha256

/-! ### Constants -/

/-- The constants of the rounds: the first bits of the fractions of cube roots of primes. -/
def constants : Array UInt32 := #[
  0x428a2f98, 0x71374491, 0xb5c0fbcf, 0xe9b5dba5, 0x3956c25b, 0x59f111f1, 0x923f82a4, 0xab1c5ed5,
  0xd807aa98, 0x12835b01, 0x243185be, 0x550c7dc3, 0x72be5d74, 0x80deb1fe, 0x9bdc06a7, 0xc19bf174,
  0xe49b69c1, 0xefbe4786, 0x0fc19dc6, 0x240ca1cc, 0x2de92c6f, 0x4a7484aa, 0x5cb0a9dc, 0x76f988da,
  0x983e5152, 0xa831c66d, 0xb00327c8, 0xbf597fc7, 0xc6e00bf3, 0xd5a79147, 0x06ca6351, 0x14292967,
  0x27b70a85, 0x2e1b2138, 0x4d2c6dfc, 0x53380d13, 0x650a7354, 0x766a0abb, 0x81c2c92e, 0x92722c85,
  0xa2bfe8a1, 0xa81a664b, 0xc24b8b70, 0xc76c51a3, 0xd192e819, 0xd6990624, 0xf40e3585, 0x106aa070,
  0x19a4c116, 0x1e376c08, 0x2748774c, 0x34b0bcb5, 0x391c0cb3, 0x4ed8aa4a, 0x5b9cca4f, 0x682e6ff3,
  0x748f82ee, 0x78a5636f, 0x84c87814, 0x8cc70208, 0x90befffa, 0xa4506ceb, 0xbef9a3f7, 0xc67178f2]

/-! ### The digest -/

/-- The eight words of the state. -/
structure State where
  a : UInt32
  b : UInt32
  c : UInt32
  d : UInt32
  e : UInt32
  f : UInt32
  g : UInt32
  h : UInt32

/-- The state before the first block. -/
def start : State :=
  ⟨0x6a09e667, 0xbb67ae85, 0x3c6ef372, 0xa54ff53a, 0x510e527f, 0x9b05688c, 0x1f83d9ab, 0x5be0cd19⟩

/-- The smaller mixing functions of the schedule. -/
def sigma (x : UInt32) (r s n : UInt32) : UInt32 :=
  rotateRight x r ^^^ rotateRight x s ^^^ (x >>> n)

/-- The larger mixing functions of the rounds. -/
def sum (x : UInt32) (r s t : UInt32) : UInt32 :=
  rotateRight x r ^^^ rotateRight x s ^^^ rotateRight x t

/-- The words of a block spread over sixty-four rounds. -/
def schedule (block : List UInt32) : Array UInt32 :=
  (List.range 48).foldl
    (fun w i =>
      w.push (sigma (w.getD (i + 14) 0) 17 19 10 + w.getD (i + 9) 0
        + sigma (w.getD (i + 1) 0) 7 18 3 + w.getD i 0))
    block.toArray

/-- One round. -/
def round (w : Array UInt32) (s : State) (t : Nat) : State :=
  let choice := (s.e &&& s.f) ^^^ (~~~s.e &&& s.g)
  let majority := (s.a &&& s.b) ^^^ (s.a &&& s.c) ^^^ (s.b &&& s.c)
  let x := s.h + sum s.e 6 11 25 + choice + constants.getD t 0 + w.getD t 0
  ⟨x + sum s.a 2 13 22 + majority, s.a, s.b, s.c, s.d + x, s.e, s.f, s.g⟩

/-- Folds one block into the state. -/
def compress (s : State) (block : List UInt32) : State :=
  let r := (List.range 64).foldl (round (schedule block)) s
  ⟨s.a + r.a, s.b + r.b, s.c + r.c, s.d + r.d, s.e + r.e, s.f + r.f, s.g + r.g, s.h + r.h⟩

/-- The thirty-two octets of a message's digest. -/
def digest (message : Octets) : Octets :=
  let s := (blocks (words (pad message))).foldl compress start
  [s.a, s.b, s.c, s.d, s.e, s.f, s.g, s.h].flatMap wordOctets

@[simp] theorem length_digest (message : Octets) : (digest message).length = 32 := by
  simp [digest, wordOctets]

end Sha256

end Digest

end RevocationLab
