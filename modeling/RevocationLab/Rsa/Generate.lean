/-
**Making keys.**

A key has two primes of half its bits each, with the two highest bits set so that the product has
exactly the bits asked for.  Each prime is looked for upwards from a drawn number, and a number counts
as prime when it has no small factor and passes the test of Miller and Rabin for the first primes.

Main definitions:

* `Rsa.isProbablePrime` — the test;
* `Rsa.nextPrime?` — the first prime from a number on;
* `Rsa.KeyPair.generate?` — a key from two drawn numbers.
-/

import RevocationLab.Rsa

set_option autoImplicit false

namespace RevocationLab

namespace Rsa

/-! ### Primes -/

/-- The primes that are divided by and that serve as bases. -/
def smallPrimes : List Nat :=
  [2, 3, 5, 7, 11, 13, 17, 19, 23, 29, 31, 37, 41, 43, 47, 53, 59, 61, 67, 71, 73, 79, 83, 89, 97,
    101, 103, 107, 109, 113, 127, 131, 137, 139, 149, 151, 157, 163, 167, 173, 179, 181, 191, 193,
    197, 199, 211, 223, 227, 229, 233, 239, 241, 251]

/-- The odd part of a number and how often it was halved, for at most `fuel` halvings. -/
def oddPart : Nat → Nat → Nat × Nat
  | 0, n => (n, 0)
  | fuel + 1, n =>
      if n % 2 = 0 then
        let (d, s) := oddPart fuel (n / 2)
        (d, s + 1)
      else (n, 0)

/-- Whether squaring `x` at most `squarings` times modulo `n` meets `n - 1`. -/
def meetsMinusOne (n : Nat) : Nat → Nat → Bool
  | 0, _ => false
  | squarings + 1, x => x == n - 1 || meetsMinusOne n squarings (x * x % n)

/-- Whether `n` passes the test for one base. -/
def passes (n base : Nat) : Bool :=
  let (d, s) := oddPart (n.log2 + 1) (n - 1)
  let x := powMod base d n
  x == 1 || meetsMinusOne n s x

/-- Whether a number has no small factor and passes the test for the first small primes. -/
def isProbablePrime (n : Nat) : Bool :=
  if n < 256 then smallPrimes.contains n
  else smallPrimes.all (fun p => n % p != 0) && (smallPrimes.take 16).all (passes n)

/-- The first prime among `tries` numbers from `n` on in steps of two. -/
def nextPrime? : Nat → Nat → Option Nat
  | 0, _ => none
  | tries + 1, n => if isProbablePrime n then some n else nextPrime? tries (n + 2)

/-! ### Keys -/

/-- An odd number of some bits with its two highest bits set, from a drawn number. -/
def primeSeed (bits draw : Nat) : Nat :=
  let free := Nat.pow 2 (bits - 2)
  3 * free + (if free = 1 then 0 else draw % free / 2 * 2 + 1)

/-- The fewest bits of a key: with them the modulus is above the exponent. -/
def minBits : Nat := 17

/-- How many numbers are tried for a prime of some bits. -/
def primeTries (bits : Nat) : Nat := 40 * bits + 40

/-- The key whose primes are found from two drawn numbers.  There is none when too few bits are asked
for, or when the draws lead nowhere. -/
def KeyPair.generate? (bits drawP drawQ : Nat) : Option KeyPair := do
  let bitsP := bits / 2
  let bitsQ := bits - bitsP
  if bits < minBits then none
  else
    let p ← nextPrime? (primeTries bitsP) (primeSeed bitsP drawP)
    let q ← nextPrime? (primeTries bitsQ) (primeSeed bitsQ drawQ)
    let order := (p - 1) * (q - 1)
    if p ≠ q ∧ (p * q).log2 + 1 = bits ∧ Nat.gcd publicExponent order = 1 then some ⟨p, q⟩ else none

/-- The first key that some pairs of drawn numbers lead to. -/
def KeyPair.search? (bits : Nat) (draws : List (Nat × Nat)) : Option KeyPair :=
  draws.findSome? fun d => KeyPair.generate? bits d.1 d.2

/-- Whether a key can be used: an odd modulus above the exponent, and primes for which the private
exponent undoes the public one. -/
def KeyPair.isValid (k : KeyPair) : Bool :=
  publicExponent < k.modulus && k.modulus % 2 == 1 && 1 < k.p && 1 < k.q
    && publicExponent * k.privateExponent % (k.p - 1) == 1
    && publicExponent * k.privateExponent % (k.q - 1) == 1

end Rsa

end RevocationLab
