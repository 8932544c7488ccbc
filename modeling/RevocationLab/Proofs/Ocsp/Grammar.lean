/-
**The grammar of segments.**

The octets of a segment are found exactly if there are some and the segment spells their base64 text.
The escapes are undone in two passes, but these do what one pass would do: the first one makes no
escape for the second, and takes none away from it.  So every text is a spelling of what is left once
its escapes are undone, and base64 leaves no choice in that.

Main definitions:

* `Ocsp.Segment.unescapeBoth` — both escapes undone in one pass;
* `Ocsp.Segment.IsReadable` — **the form of a segment that is read**.

Main results:

* `Ocsp.Segment.normalizeChars_eq_unescapeBoth` — **two passes are one**;
* `Ocsp.Segment.spells_normalizeChars` — every text is a spelling of what it is read as;
* `Ocsp.Segment.decode?_grammar` — **a segment is read exactly if it is in the grammar**.
-/

import RevocationLab.Proofs.Base64.Canonical
import RevocationLab.Proofs.Ocsp.Segment

set_option autoImplicit false

namespace RevocationLab

namespace Ocsp

namespace Segment

/-! ### One pass -/

/-- The text with its slashes unescaped in one pass. -/
def unescapeBoth : List Char → List Char
  | '%' :: '2' :: 'F' :: r => '/' :: unescapeBoth r
  | '%' :: '2' :: 'f' :: r => '/' :: unescapeBoth r
  | c :: r => c :: unescapeBoth r
  | [] => []

/-- A percent sign that starts no escape of a pass stays. -/
theorem unescape_percent {last : Char} {r : List Char} (h : ∀ s, r ≠ '2' :: last :: s) :
    unescape last ('%' :: r) = '%' :: unescape last r := by
  rcases r with - | ⟨c, - | ⟨d, s⟩⟩
  · rfl
  · rw [unescape]
    rintro e s' - heq
    cases heq
  · by_cases hc : c = '2'
    · subst hc
      have hd : d ≠ last := by
        rintro rfl
        exact h s rfl
      rw [unescape, if_neg hd]
    · rw [unescape]
      rintro e s' - heq
      cases heq
      exact hc rfl

/-- A pass makes nothing but slashes: any other character was there before. -/
theorem eq_cons_of_unescape {last c : Char} {t s : List Char} (h : unescape last t = c :: s)
    (hc : c ≠ '/') : ∃ r, t = c :: r ∧ s = unescape last r := by
  rcases t with - | ⟨d, r⟩
  · cases h
  · by_cases hd : d = '%'
    · subst hd
      by_cases hescape : ∃ s', r = '2' :: last :: s'
      · obtain ⟨s', rfl⟩ := hescape
        rw [unescape_escape] at h
        cases h
        exact absurd rfl hc
      · rw [unescape_percent fun s' hs' => hescape ⟨s', hs'⟩] at h
        cases h
        exact ⟨r, rfl, rfl⟩
    · rw [unescape_cons_of_ne hd] at h
      cases h
      exact ⟨r, rfl, rfl⟩

/-- **Two passes are one**: the first one makes no escape for the second, and hides none. -/
theorem normalizeChars_eq_unescapeBoth (t : List Char) : normalizeChars t = unescapeBoth t := by
  unfold normalizeChars
  induction t using unescapeBoth.induct with
  | case1 r ih => rw [unescape_escape, unescape_cons_of_ne (by decide), ih, unescapeBoth]
  | case2 r ih =>
      rw [unescape_other (by decide) (by decide), unescape_escape, ih, unescapeBoth]
  | case3 c r hupper hlower ih =>
      have hboth : unescapeBoth (c :: r) = c :: unescapeBoth r := by
        rw [unescapeBoth]
        · exact hupper
        · exact hlower
      rw [hboth, ← ih]
      by_cases hc : c = '%'
      · subst hc
        rw [unescape_percent fun s hs => hupper s rfl hs]
        refine unescape_percent fun s hs => ?_
        -- an escape behind the first pass would have been one before it
        obtain ⟨r', rfl, hs'⟩ := eq_cons_of_unescape hs (by decide)
        obtain ⟨r'', rfl, -⟩ := eq_cons_of_unescape hs'.symm (by decide)
        exact hlower r'' rfl rfl
      · rw [unescape_cons_of_ne hc, unescape_cons_of_ne hc]
  | case4 => rfl

/-- **Every text is a spelling of what it is read as.** -/
theorem spells_normalizeChars (t : List Char) : Spells (normalizeChars t) t := by
  rw [normalizeChars_eq_unescapeBoth]
  induction t using unescapeBoth.induct with
  | case1 r ih =>
      rw [unescapeBoth]
      exact .upper ih
  | case2 r ih =>
      rw [unescapeBoth]
      exact .lower ih
  | case3 c r hupper hlower ih =>
      rw [unescapeBoth]
      · exact .plain c ih
      · exact hupper
      · exact hlower
  | case4 => exact .nil

/-! ### Segments that are read -/

/-- A segment is read as octets exactly if there are some and it spells their base64 text. -/
theorem decode?_eq_some_iff {s : String} {b : Octets} :
    decode? s = some b ↔ b ≠ [] ∧ Spells (Base64.encode b) s.toList := by
  constructor
  · intro h
    unfold decode? at h
    split at h
    · cases h
    · next hs =>
        have htext := Base64.decode?_eq_some_iff.1 h
        have hspells := spells_normalizeChars s.toList
        rw [htext] at hspells
        refine ⟨?_, hspells⟩
        rintro rfl
        exact hs (hspells.eq_nil_iff.2 rfl)
  · rintro ⟨hb, hspells⟩
    have hread := decode?_of_spells hspells
    rwa [String.ofList_toList, if_neg hb] at hread

/-- A percent sign in a spelling of a text without any starts an escape. -/
theorem Spells.escape_of_percent {u before after : List Char}
    (h : Spells u (before ++ '%' :: after)) (hu : '%' ∉ u) :
    ∃ r, after = '2' :: 'F' :: r ∨ after = '2' :: 'f' :: r := by
  generalize ht : before ++ '%' :: after = t at h
  induction h generalizing before with
  | nil => simp at ht
  | plain c h ih =>
      have hc : c ≠ '%' := fun heq => hu (heq ▸ List.mem_cons_self)
      cases before with
      | nil =>
          cases ht
          exact absurd rfl hc
      | cons d before =>
          cases ht
          exact ih (fun hmem => hu (List.mem_cons_of_mem _ hmem)) rfl
  | upper h ih =>
      -- the sign is that of this escape, or it comes behind the escape
      rcases before with - | ⟨d, - | ⟨e, - | ⟨f, before⟩⟩⟩
      · cases ht
        exact ⟨_, Or.inl rfl⟩
      · cases ht
      · cases ht
      · cases ht
        exact ih (fun hmem => hu (List.mem_cons_of_mem _ hmem)) rfl
  | lower h ih =>
      rcases before with - | ⟨d, - | ⟨e, - | ⟨f, before⟩⟩⟩
      · cases ht
        exact ⟨_, Or.inr rfl⟩
      · cases ht
      · cases ht
      · cases ht
        exact ih (fun hmem => hu (List.mem_cons_of_mem _ hmem)) rfl

/-- The characters of a spelling are those of the text and those of escapes. -/
theorem Spells.mem_of_mem {u t : List Char} (h : Spells u t) {c : Char} (hc : c ∈ t) :
    c ∈ u ∨ c ∈ ['%', '2', 'F', 'f'] := by
  induction h with
  | nil => cases hc
  | plain d h ih =>
      rcases List.mem_cons.1 hc with rfl | hc
      · exact Or.inl List.mem_cons_self
      · exact (ih hc).imp_left (List.mem_cons_of_mem _)
  | upper h ih =>
      simp only [List.mem_cons] at hc
      rcases hc with rfl | rfl | rfl | hc
      · exact Or.inr (by decide)
      · exact Or.inr (by decide)
      · exact Or.inr (by decide)
      · exact (ih hc).imp_left (List.mem_cons_of_mem _)
  | lower h ih =>
      simp only [List.mem_cons] at hc
      rcases hc with rfl | rfl | rfl | hc
      · exact Or.inr (by decide)
      · exact Or.inr (by decide)
      · exact Or.inr (by decide)
      · exact (ih hc).imp_left (List.mem_cons_of_mem _)

/-- **The form of a segment that is read** as some octets. -/
structure IsReadable (b : Octets) (s : List Char) : Prop where
  /-- No percent sign starts anything but an escaped slash. -/
  escapes : ∀ before after, s = before ++ '%' :: after →
    ∃ r, after = '2' :: 'F' :: r ∨ after = '2' :: 'f' :: r
  /-- There is nothing but the alphabet, the padding and percent signs. -/
  characters : ∀ c ∈ s, (∃ n < 64, c = Base64.character n) ∨ c = '=' ∨ c = '%'
  /-- What is left once the escapes are undone has the form of a base64 text. -/
  text : Base64.IsText b (normalizeChars s)

theorem isReadable_of_spells {b : Octets} {s : List Char} (h : Spells (Base64.encode b) s) :
    IsReadable b s where
  escapes := by
    rintro before after rfl
    exact h.escape_of_percent (Base64.percent_not_mem_encode b)
  characters := by
    intro c hc
    rcases h.mem_of_mem hc with hc | hc
    · exact (Base64.exists_of_mem_encode hc).imp_right Or.inl
    · simp only [List.mem_cons, List.not_mem_nil, or_false] at hc
      rcases hc with rfl | rfl | rfl | rfl
      · exact Or.inr (Or.inr rfl)
      · exact Or.inl ⟨54, by decide, rfl⟩
      · exact Or.inl ⟨5, by decide, rfl⟩
      · exact Or.inl ⟨31, by decide, rfl⟩
  text := by
    rw [normalizeChars_of_spells h (Base64.percent_not_mem_encode b)]
    exact Base64.isText_encode b

/-! ### Segments that are written -/

/-- Escaping all slashes is a spelling. -/
theorem spells_escape (s : List Char) : Spells s (escape s) := by
  induction s with
  | nil => exact .nil
  | cons c s ih =>
      by_cases hc : c = '/'
      · subst hc
        exact .upper ih
      · have hkeep : escape (c :: s) = c :: escape s := by simp [escape, hc]
        rw [hkeep]
        exact .plain c ih

/-- What is written spells the base64 text, with its slashes escaped or not. -/
theorem spells_encode (b : Octets) (escaped : Bool) :
    Spells (Base64.encode b) (encode b escaped).toList := by
  rw [encode, String.toList_ofList]
  cases escaped with
  | true => exact spells_escape _
  | false => exact Spells.refl _

/-- **A segment is read exactly if it is in the grammar**: as octets that are not empty, if it spells
their padded base64 text with each slash as it is or as one of its two escapes.  So all spellings are
read alike, and what is written is read back, with its slashes escaped or not; a segment that is read
has no other escape, nothing outside the alphabet, as much padding as is needed, and nothing in the bits
that are left over; and undoing the escapes one after the other is undoing them at once. -/
theorem decode?_grammar :
    (∀ s b, decode? s = some b ↔ b ≠ [] ∧ Spells (Base64.encode b) s.toList)
    ∧ (∀ b t, Spells (Base64.encode b) t →
        decode? (String.ofList t) = if b = [] then none else some b)
    ∧ (∀ b escaped, decode? (encode b escaped) = if b = [] then none else some b)
    ∧ (∀ s b, decode? s = some b → IsReadable b s.toList)
    ∧ ∀ t, normalizeChars t = unescapeBoth t := by
  refine ⟨fun _ _ => decode?_eq_some_iff, fun _ _ => decode?_of_spells, fun b escaped => ?_,
    fun _ _ h => isReadable_of_spells (decode?_eq_some_iff.1 h).2, normalizeChars_eq_unescapeBoth⟩
  have hread := decode?_of_spells (spells_encode b escaped)
  rwa [String.ofList_toList] at hread

end Segment

end Ocsp

end RevocationLab
