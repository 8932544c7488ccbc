/-
**How alike two words are.**

Two equal characters match when they stand no further apart than half of the longer word, and each
character matches once.  The share of matching characters in either word, and the share of them that
come in the same order, are averaged.

Main definitions:

* `Similarity.ofWords` — how alike two words are, from zero to one;
* `Similarity.closest?` — the word most like another, if it is alike enough.
-/

set_option autoImplicit false

namespace RevocationLab

namespace Similarity

/-- Marks the first unmarked character `c` among those at places from `low` to below `high`, `i` being
the place of the first one. -/
def mark (c : Char) (low high : Nat) : Nat → List (Char × Bool) → Option (List (Char × Bool))
  | _, [] => none
  | i, d :: r =>
      if low ≤ i ∧ i < high ∧ d.1 = c ∧ d.2 = false then some ((c, true) :: r)
      else (mark c low high (i + 1) r).map (d :: ·)

/-- The characters of a word, from place `i` on, that match some in another, and the other with its
matches marked. -/
def matching (range : Nat) : Nat → List Char → List (Char × Bool) → List Char × List (Char × Bool)
  | _, [], other => ([], other)
  | i, c :: r, other =>
      match mark c (i - range) (i + range + 1) 0 other with
      | some other =>
          let (found, other) := matching range (i + 1) r other
          (c :: found, other)
      | none => matching range (i + 1) r other

/-- How alike two words are, from zero to one. -/
def ofWords (a b : List Char) : Rat :=
  if a = [] ∧ b = [] then 1
  else
    let range := max a.length b.length / 2 - 1
    let (found, other) := matching range 0 a (b.map fun c => (c, false))
    let inOther := (other.filter Prod.snd).map Prod.fst
    let swapped := ((found.zip inOther).countP fun p => p.1 ≠ p.2) / 2
    let n := found.length
    if n = 0 then 0
    else
      ((n : Rat) / (a.length : Rat) + (n : Rat) / (b.length : Rat) + ((n - swapped : Nat) : Rat) / (n : Rat)) / 3

/-- How alike words have to be. -/
def threshold : Rat := 7 / 10

/-- The word most like another one, if it is alike enough; of two alike ones the later. -/
def closest? (word : String) (candidates : List String) : Option String :=
  candidates.foldl
    (fun best c =>
      let likeness := ofWords word.toList c.toList
      if likeness ≤ threshold then best
      else match best with
        | some b => if ofWords word.toList b.toList ≤ likeness then some c else best
        | none => some c)
    none

end Similarity

end RevocationLab
