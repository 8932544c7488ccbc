/-
**RSA signatures.**

Keys of two primes with the public exponent 65537, and signatures over SHA-256 digests in the first
version of the padding: the digest with its algorithm at the end of a block that is otherwise filled
with ones.

Main definitions:

* `Rsa.powMod`, `Rsa.inverseMod` — arithmetic modulo a number;
* `Rsa.KeyPair`, `Rsa.PublicKey`;
* `Rsa.KeyPair.sign?`, `Rsa.PublicKey.verifies` — signing and checking;
* `Rsa.PublicKey.info`, `Rsa.PublicKey.ofInfo?` — a key as part of a certificate.
-/

import RevocationLab.Digest.Sha256
import RevocationLab.X509.Extension

set_option autoImplicit false

namespace RevocationLab

namespace Rsa

open Der X509

/-! ### Arithmetic -/

/-- `base ^ exponent` modulo `modulus`, by squaring. -/
def powMod (base exponent modulus : Nat) : Nat :=
  if exponent = 0 then 1 % modulus
  else
    let half := powMod (base * base % modulus) (exponent / 2) modulus
    if exponent % 2 = 1 then base * half % modulus else half
termination_by exponent
decreasing_by omega

/-- The step of the extended Euclidean algorithm: `a` and `b` are remainders with coefficients `x`
and `y`. -/
def inverseStep (modulus : Nat) (a b : Nat) (x y : Int) : Nat :=
  if _ : b = 0 then (x % modulus).toNat
  else inverseStep modulus b (a % b) y (x - (a / b : Nat) * y)
termination_by b
decreasing_by exact Nat.mod_lt _ (by omega)

/-- The inverse of a number that has one modulo `modulus`. -/
def inverseMod (n modulus : Nat) : Nat :=
  inverseStep modulus (n % modulus) modulus 1 0

/-! ### Keys -/

/-- The public exponent of every key of this library. -/
def publicExponent : Nat := 65537

/-- A modulus with an exponent. -/
structure PublicKey where
  modulus : Nat
  exponent : Nat
  deriving DecidableEq, Repr

/-- The two primes of a key. -/
structure KeyPair where
  p : Nat
  q : Nat
  deriving DecidableEq, Repr

namespace KeyPair

/-- The product of the primes. -/
def modulus (k : KeyPair) : Nat := k.p * k.q

/-- The public half of a key. -/
def publicKey (k : KeyPair) : PublicKey := ⟨k.modulus, publicExponent⟩

/-- The exponent that undoes the public one. -/
def privateExponent (k : KeyPair) : Nat :=
  inverseMod publicExponent ((k.p - 1) * (k.q - 1))

end KeyPair

/-- The number of octets of a modulus. -/
def PublicKey.width (k : PublicKey) : Nat := Octets.digitCount k.modulus

/-! ### Keys in certificates -/

/-- The bits of a key: the sequence of its modulus and exponent. -/
def PublicKey.encode (k : PublicKey) : Octets :=
  element Tag.sequence (unsigned k.modulus ++ unsigned k.exponent)

/-- The key as part of a certificate. -/
def PublicKey.info (k : PublicKey) : PublicKeyInfo :=
  ⟨AlgorithmIdentifier.rsaEncryption, BitString.ofOctets k.encode⟩

/-- A natural number in an INTEGER. -/
def naturalDecoder : Decoder Nat :=
  Decoder.reading Tag.integer fun c =>
    if isMinimalInteger c ∧ c.headD 0 < 0x80 then some (Octets.toNat c) else none

/-- The key in a part of a certificate. -/
def PublicKey.ofInfo? (info : PublicKeyInfo) : Option PublicKey :=
  Decoder.whole
    (Decoder.sequence do return PublicKey.mk (← naturalDecoder) (← naturalDecoder))
    info.key.octets

/-! ### Signatures -/

/-- The SHA-256 digest of a message with its algorithm. -/
def digestInfo (message : Octets) : Octets :=
  [0x30, 0x31, 0x30, 0x0d, 0x06, 0x09, 0x60, 0x86, 0x48, 0x01, 0x65, 0x03, 0x04, 0x02, 0x01, 0x05,
    0x00, 0x04, 0x20] ++ Digest.Sha256.digest message

/-- The block of `width` octets that is signed, when there is room for eight octets of filling. -/
def paddedBlock? (width : Nat) (message : Octets) : Option Octets :=
  let info := digestInfo message
  if width < info.length + 11 then none
  else some (0 :: 1 :: List.replicate (width - info.length - 3) 0xff ++ 0 :: info)

/-- The signature of a message, unless the modulus is too short for a digest. -/
def KeyPair.sign? (k : KeyPair) (message : Octets) : Option Octets := do
  let width := k.publicKey.width
  let block ← paddedBlock? width message
  return Octets.ofNatPadded width (powMod block.toNat k.privateExponent k.modulus)

/-- Whether a key can sign at all. -/
def KeyPair.canSign (k : KeyPair) : Bool := 62 ≤ k.publicKey.width

/-- Whether a signature of a message belongs to a key. -/
def PublicKey.verifies (k : PublicKey) (message signature : Octets) : Bool :=
  signature.length == k.width
    && paddedBlock? k.width message
      == some (Octets.ofNatPadded k.width (powMod signature.toNat k.exponent k.modulus))

/-- Whether a signature of a message belongs to the key in a part of a certificate. -/
def infoVerifies (info : PublicKeyInfo) (message signature : Octets) : Bool :=
  match PublicKey.ofInfo? info with
  | some k => k.verifies message signature
  | none => false

end Rsa

end RevocationLab
