/-
**Labels of host names.**

A label with characters beyond ASCII is written in ASCII: its ASCII characters first, then numbers
that tell which other character stands where.  The numbers are distances from one such character to
the next, taken by code point and then by place.  They are written in base thirty-six, the least digit
first, and a bias that follows the numbers so far decides which digit is the last.

Main definitions:

* `Url.Label.encode`, `Url.Label.decode?`;
* `Url.Label.toAscii?` — a label as it stands in an address.
-/

set_option autoImplicit false

namespace RevocationLab

namespace Url

namespace Label

/-! ### Digits -/

/-- A digit in base thirty-six: the letters, then the numerals. -/
def digit (n : Nat) : Char := if n < 26 then Char.ofNat (97 + n) else Char.ofNat (22 + n)

/-- The value of a digit. -/
def digitValue? (c : Char) : Option Nat :=
  if 'a' ≤ c ∧ c ≤ 'z' then some (c.toNat - 97)
  else if '0' ≤ c ∧ c ≤ '9' then some (c.toNat - 22)
  else none

/-- The digit at weight position `k` is the last one when it is below this. -/
def threshold (k bias : Nat) : Nat :=
  if k ≤ bias then 1 else if bias + 26 ≤ k then 26 else k - bias

theorem threshold_pos (k bias : Nat) : 1 ≤ threshold k bias := by
  unfold threshold
  split
  · omega
  · split <;> omega

/-! ### Biases -/

/-- A distance scaled down to the range of a bias, on top of a bias so far. -/
def scale (distance bias : Nat) : Nat :=
  if 455 < distance then scale (distance / 35) (bias + 36)
  else bias + 36 * distance / (distance + 38)
termination_by distance
decreasing_by exact Nat.div_lt_self (by omega) (by omega)

/-- The bias after a distance, the first one or another, once `points` characters are placed. -/
def adapt (distance points : Nat) (isFirst : Bool) : Nat :=
  let d := if isFirst then distance / 700 else distance / 2
  scale (d + d / points) 0

/-! ### Writing -/

/-- The digits of a number from weight position `k` on. -/
def number (bias k n : Nat) : List Char :=
  let t := threshold k bias
  if n < t then [digit n]
  else digit (t + (n - t) % (36 - t)) :: number bias (k + 36) ((n - t) / (36 - t))
termination_by n
decreasing_by
  have := threshold_pos k bias
  have := Nat.div_le_self (n - threshold k bias) (36 - threshold k bias)
  omega

/-- What is written, with the distance since the last character, the bias, and the number of
characters that are placed. -/
structure Progress where
  written : List Char
  distance : Nat
  bias : Nat
  placed : Nat

/-- Goes past one code point of the label while those equal to `n` are placed. -/
def Progress.pass (ascii n : Nat) (p : Progress) (point : Nat) : Progress :=
  if point < n then { p with distance := p.distance + 1 }
  else if point = n then
    { written := p.written ++ number p.bias 36 p.distance
      distance := 0
      bias := adapt p.distance (p.placed + 1) (p.placed == ascii)
      placed := p.placed + 1 }
  else p

/-- Places the code points of a list in their order, of which the first is at least `n`. -/
def Progress.place (points : List Nat) (ascii : Nat) : List Nat → Nat → Progress → Progress
  | [], _, p => p
  | m :: r, n, p =>
      let q := points.foldl (Progress.pass ascii m)
        { p with distance := p.distance + (m - n) * (p.placed + 1) }
      place points ascii r (m + 1) { q with distance := q.distance + 1 }

/-- The ASCII characters of a label. -/
def asciiPart (s : List Char) : List Char := s.filter (· < '\x80')

/-- A label in ASCII: its ASCII characters with a hyphen behind, if there are any, and the numbers. -/
def encode (s : List Char) : List Char :=
  let ascii := asciiPart s
  let points := s.map Char.toNat
  let beyond := ((points.filter (128 ≤ ·)).mergeSort (· ≤ ·)).eraseReps
  let p := Progress.place points ascii.length beyond 128 ⟨[], 0, 72, ascii.length⟩
  ascii ++ (if ascii = [] then [] else ['-']) ++ p.written

/-! ### Reading -/

/-- The number at the front of some digits from weight position `k` on, in units of `weight` and on
top of a sum, and the rest. -/
def readNumber? (bias : Nat) : List Char → Nat → Nat → Nat → Option (Nat × List Char)
  | [], _, _, _ => none
  | c :: r, k, weight, sum =>
      match digitValue? c with
      | none => none
      | some d =>
          if d < threshold k bias then some (sum + d * weight, r)
          else readNumber? bias r (k + 36) (weight * (36 - threshold k bias)) (sum + d * weight)

theorem length_readNumber? (bias : Nat) : ∀ (s : List Char) (k weight sum : Nat)
    (r : Nat × List Char), readNumber? bias s k weight sum = some r → r.2.length < s.length
  | [], _, _, _, _, h => by simp [readNumber?] at h
  | c :: s, k, weight, sum, r, h => by
      rw [readNumber?] at h
      split at h
      · simp at h
      · split at h
        · rw [← Option.some.inj h]
          simp
        · have := length_readNumber? bias s (k + 36) _ _ r h
          simp only [List.length_cons]
          omega

/-- Puts the characters that numbers tell of among those that are placed. -/
def insertAll (bias point sum : Nat) (placed : List Char) (s : List Char) : Option (List Char) :=
  match s with
  | [] => some placed
  | c :: r =>
      match _h : readNumber? bias (c :: r) 36 1 sum with
      | none => none
      | some (next, rest) =>
          let count := placed.length + 1
          let m := point + next / count
          if m < 0xd800 ∨ 0xdfff < m ∧ m < 0x110000 then
            insertAll (adapt (next - sum) count (sum == 0)) m (next % count + 1)
              (placed.insertIdx (next % count) (Char.ofNat m)) rest
          else none
termination_by s.length
decreasing_by exact length_readNumber? bias (c :: r) 36 1 sum (next, rest) _h

/-- The label that a text in ASCII writes. -/
def decode? (s : List Char) : Option (List Char) :=
  let digits := (s.reverse.takeWhile (· != '-')).reverse
  insertAll 72 128 0 (s.take (s.length - digits.length - 1)) digits

/-! ### Labels in addresses -/

/-- What stands in front of a label whose characters are not all in ASCII. -/
def mark : List Char := "xn--".toList

/-- A label as it stands in an address.  One with a mark has to write characters beyond ASCII, and in
the one way there is. -/
def toAscii? (s : List Char) : Option (List Char) :=
  if mark.isPrefixOf s then
    match decode? (s.drop mark.length) with
    | some t => if mark ++ encode t = s ∧ t ≠ asciiPart t then some s else none
    | none => none
  else if s = asciiPart s then some s
  else some (mark ++ encode s)

end Label

end Url

end RevocationLab
