/-
**Routing keys.**

A request is routed by the first segment of its path.  The key is the path up to and including the
slash after that segment; a path without such a slash has none.

Main definitions:

* `Routing.keySpan` — the segment and the rest of a path;
* `Routing.key?` — the key of a path;
* `Routing.remainder` — what follows a key;
* `Routing.isKey` — the paths that are their own key and have a segment.

Main results:

* `Routing.keySpan_eq_some_iff` — **a path has a key exactly when it is a slash, a segment without
  slashes, a slash and a rest**;
* `Routing.isKey_iff` — the keys that can be registered.
-/

set_option autoImplicit false

namespace RevocationLab

namespace Routing

/-! ### Splitting a path -/

/-- The characters up to the first slash and those after it. -/
def splitSlash : List Char → Option (List Char × List Char)
  | [] => none
  | c :: r => if c = '/' then some ([], r) else (splitSlash r).map fun s => (c :: s.1, s.2)

/-- The first segment of a path and what follows the slash after it. -/
def keySpan : List Char → Option (List Char × List Char)
  | '/' :: r => splitSlash r
  | _ => none

theorem splitSlash_eq_some_iff {p s r : List Char} :
    splitSlash p = some (s, r) ↔ p = s ++ '/' :: r ∧ '/' ∉ s := by
  induction p generalizing s with
  | nil => simp [splitSlash]
  | cons c p ih =>
      by_cases hc : c = '/'
      · subst hc
        constructor
        · intro h
          simp only [splitSlash, if_true, Option.some.injEq, Prod.mk.injEq] at h
          obtain ⟨rfl, rfl⟩ := h
          simp
        · rintro ⟨h, hs⟩
          cases s with
          | nil => simp at h; simp [splitSlash, h]
          | cons d s =>
              simp only [List.cons_append, List.cons.injEq] at h
              exact absurd (h.1 ▸ List.mem_cons_self) hs
      · simp only [splitSlash, if_neg hc, Option.map_eq_some_iff, Prod.exists, Prod.mk.injEq]
        constructor
        · rintro ⟨a, b, h, rfl, rfl⟩
          obtain ⟨rfl, hs⟩ := ih.1 h
          refine ⟨rfl, ?_⟩
          simp only [List.mem_cons, not_or]
          exact ⟨fun e => hc e.symm, hs⟩
        · rintro ⟨h, hs⟩
          cases s with
          | nil => simp at h; exact absurd h.1 hc
          | cons d s =>
              simp only [List.cons_append, List.cons.injEq] at h
              obtain ⟨rfl, rfl⟩ := h
              simp only [List.mem_cons, not_or] at hs
              exact ⟨s, r, ih.2 ⟨rfl, hs.2⟩, rfl, rfl⟩

/-- **A path has a key exactly when it is a slash, a segment without slashes, a slash and a rest.** -/
theorem keySpan_eq_some_iff {p s r : List Char} :
    keySpan p = some (s, r) ↔ p = '/' :: s ++ '/' :: r ∧ '/' ∉ s := by
  cases p with
  | nil => simp [keySpan]
  | cons c p =>
      by_cases hc : c = '/'
      · subst hc
        simp [keySpan, splitSlash_eq_some_iff]
      · have : keySpan (c :: p) = none := by
          unfold keySpan
          split
          · rename_i h; exact absurd (List.cons.inj h).1 hc
          · rfl
        simp [this, hc]

/-! ### Keys -/

/-- The key of a path: everything up to and including the slash after the first segment. -/
def key? (path : String) : Option String :=
  (keySpan path.toList).map fun s => String.ofList ('/' :: s.1 ++ ['/'])

/-- The part of a path after a key, and nothing if the path does not start with the key. -/
def remainder (path key : String) : String :=
  if key.toList.isPrefixOf path.toList then
    String.ofList (path.toList.drop key.toList.length)
  else ""

/-- Whether a path is itself a key with a segment in it. -/
def isKey (path : String) : Bool :=
  match keySpan path.toList with
  | some (s, r) => s ≠ [] && r = []
  | none => false

/-- The keys that can be registered. -/
theorem isKey_iff {path : String} :
    isKey path = true ↔ ∃ s : List Char, path.toList = '/' :: s ++ ['/'] ∧ s ≠ [] ∧ '/' ∉ s := by
  constructor
  · intro h
    unfold isKey at h
    split at h
    · next s r hs =>
        obtain ⟨hp, hn⟩ := keySpan_eq_some_iff.1 hs
        simp only [ne_eq, Bool.and_eq_true, decide_eq_true_eq] at h
        exact ⟨s, by rw [hp, h.2], h.1, hn⟩
    · cases h
  · rintro ⟨s, hp, hs, hn⟩
    have : keySpan path.toList = some (s, []) := keySpan_eq_some_iff.2 ⟨hp, hn⟩
    simp [isKey, this, hs]

end Routing

end RevocationLab
