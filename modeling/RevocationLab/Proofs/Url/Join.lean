/-
**Joining a segment to a base.**

A segment of letters, digits and dashes with a slash behind it has no scheme, no host and no mark of a
query or fragment, so that it is a path against any base that has one.  Such are the segments of
authorities.

Main definitions:

* `Url.IsSegment` — a text that is one plain segment and a slash;
* `Uuid.group` — the octets behind a group of digits.

Main results:

* `Url.join_of_isOpaque`, `Url.exists_join` — **a segment is joined to every base that is not opaque,
  and to no other**;
* `Uuid.isSegment_toText` — the text of an identifier is such a segment.
-/

import Mathlib.Data.List.TakeWhile
import RevocationLab.Url.Parse
import RevocationLab.Uuid

set_option autoImplicit false

namespace RevocationLab

namespace Url

/-! ### Plain segments -/

/-- A text that is one or more characters of a scheme, and a slash. -/
def IsSegment (text : String) : Prop :=
  ∃ s, text.toList = s ++ ['/'] ∧ s ≠ [] ∧ ∀ c ∈ s, isSchemeChar c = true

/-- What a segment has to stay clear of: blanks, and the marks of fragments, queries and slashes. -/
theorem isSchemeChar_ne {c : Char} (h : isSchemeChar c = true) :
    ¬ c ≤ ' ' ∧ c ≠ '#' ∧ c ≠ '?' ∧ c ≠ '/' ∧ c ≠ '\\' := by
  refine ⟨fun hle => ?_, ?_, ?_, ?_, ?_⟩
  · have hall : ∀ n ≤ 32, isSchemeChar (Char.ofNat n) = false := by decide
    have hn : c.toNat ≤ 32 := hle
    have hc := hall c.toNat hn
    rw [Char.ofNat_toNat, h] at hc
    cases hc
  all_goals
    rintro rfl
    exact absurd h (by decide)

/-- Line breaks are blanks. -/
theorem filter_breaks {s : List Char} (h : ∀ c ∈ s, ¬ c ≤ ' ') :
    s.filter (fun c => !(c == '\t' || c == '\n' || c == '\r')) = s := by
  rw [List.filter_eq_self]
  intro c hc
  have hne : ∀ d : Char, d ≤ ' ' → (c == d) = false := by
    intro d hd
    rw [beq_eq_false_iff_ne]
    rintro rfl
    exact h c hc hd
  rw [hne '\t' (by decide), hne '\n' (by decide), hne '\r' (by decide)]
  rfl

/-- A text without blanks is clean. -/
theorem clean_eq {text : String} (h : ∀ c ∈ text.toList, ¬ c ≤ ' ') : clean text = text.toList := by
  have hdrop : ∀ l : List Char, (∀ c ∈ l, ¬ c ≤ ' ') → l.dropWhile (· ≤ ' ') = l := by
    intro l hl
    rw [List.dropWhile_eq_self_iff]
    intro hpos
    simpa using hl _ (List.getElem_mem hpos)
  simp only [clean]
  rw [hdrop _ h, hdrop _ (fun c hc => h c (List.mem_reverse.1 hc)), List.reverse_reverse, filter_breaks h]

/-- A segment has no scheme. -/
theorem splitScheme?_segment {s : List Char} (h : ∀ c ∈ s, isSchemeChar c = true) :
    splitScheme? (s ++ ['/']) = none := by
  -- all its characters may stand in a scheme, but what comes after them is a slash and no colon
  have hdrop : (s ++ ['/']).dropWhile isSchemeChar = ['/'] := by
    rw [List.dropWhile_append_of_pos h]
    rfl
  simp [splitScheme?, hdrop]

/-! ### Joining -/

/-- A segment against another file is a path of its own if it starts with a drive, and otherwise goes
behind the path of that file. -/
theorem fileUrl_cons (base : Url) {c : Char} (h : isSchemeChar c = true) (r : List Char) :
    fileUrl (some base) (c :: r) = .ok (if startsWithDrive (c :: r) then
      close .file "file" (some { host := "" }) (pathFrom .file [] (c :: r)) (afterPath (c :: r))
    else
      close .file "file" base.authority (pathFrom .file (shorten .file base.segmentList) (c :: r))
        (afterPath (c :: r))) := by
  obtain ⟨-, hfragment, hquery, hslash, hback⟩ := isSchemeChar_ne h
  have hnot : isSlash .file c = false := by simp [isSlash, hslash, hback]
  unfold fileUrl
  simp only [hnot, Bool.false_eq_true, if_false, hfragment, hquery]
  split <;> rfl

/-- A segment against any other URL goes behind its path. -/
theorem relativeTo_cons (base : Url) {c : Char} (h : isSchemeChar c = true) (r : List Char) :
    relativeTo base (c :: r) = .ok (close (schemeKind base.scheme) base.scheme base.authority
      (pathFrom (schemeKind base.scheme) base.segmentList.dropLast (c :: r))
      (afterPath (c :: r))) := by
  obtain ⟨-, hfragment, hquery, hslash, hback⟩ := isSchemeChar_ne h
  unfold relativeTo
  split
  · next heq => cases heq
  · next heq => exact absurd (List.cons.inj heq).1 hfragment
  · next heq => exact absurd (List.cons.inj heq).1 hquery
  · next heq => exact absurd (List.cons.inj heq).1 hslash
  · next heq =>
      cases heq
      simp [hslash, hback]

theorem IsSegment.exists_cons {text : String} (h : IsSegment text) :
    ∃ c r, text.toList = c :: r ∧ isSchemeChar c = true := by
  obtain ⟨s, htext, hne, hs⟩ := h
  obtain ⟨c, r, rfl⟩ := List.exists_cons_of_ne_nil hne
  exact ⟨c, r ++ ['/'], htext, hs c List.mem_cons_self⟩

/-- A segment is read as it stands, and as a path. -/
theorem join_segment {text : String} (h : IsSegment text) (base : Url) :
    base.join text = if base.isOpaque then .error .relativeToOpaque
      else if base.scheme = "file" then fileUrl (some base) text.toList
      else relativeTo base text.toList := by
  obtain ⟨c, r, hcons, hc⟩ := h.exists_cons
  obtain ⟨s, htext, -, hs⟩ := h
  obtain ⟨-, hfragment, -⟩ := isSchemeChar_ne hc
  have hclean : clean text = text.toList := by
    refine clean_eq fun d hd => ?_
    rw [htext, List.mem_append, List.mem_singleton] at hd
    rcases hd with hd | rfl
    · exact (isSchemeChar_ne (hs d hd)).1
    · decide
  have hscheme : splitScheme? text.toList = none := htext ▸ splitScheme?_segment hs
  have hhead : ¬ text.toList.head? = some '#' := by simpa [hcons] using hfragment
  unfold join parseWith
  simp only [hclean, hscheme, hhead, if_false]

/-- Nothing is joined to an opaque base. -/
theorem join_of_isOpaque {text : String} (h : IsSegment text) {base : Url}
    (hbase : base.isOpaque = true) : base.join text = .error .relativeToOpaque := by
  rw [join_segment h, if_pos hbase]

/-- **A segment is joined to every base that is not opaque.** -/
theorem exists_join {text : String} (h : IsSegment text) {base : Url}
    (hbase : base.isOpaque = false) : ∃ u, base.join text = .ok u := by
  obtain ⟨c, r, hcons, hc⟩ := h.exists_cons
  rw [join_segment h, hbase, hcons, fileUrl_cons base hc, relativeTo_cons base hc]
  simp only [Bool.false_eq_true, if_false]
  split <;> exact ⟨_, rfl⟩

end Url

/-! ### Identifiers -/

namespace Uuid

/-- The characters of a hexadecimal text are digits. -/
theorem exists_of_mem_toHex {b : Octets} {c : Char} (h : c ∈ b.toHex.toList) :
    ∃ n < 16, c = Octets.hexDigit n := by
  rw [Octets.toHex, String.toList_ofList, List.mem_flatMap] at h
  obtain ⟨x, -, hx⟩ := h
  have hlt : x.toNat < 256 := x.toNat_lt
  simp only [Octets.hexPair, List.mem_cons, List.not_mem_nil, or_false] at hx
  rcases hx with rfl | rfl
  · exact ⟨_, by omega, rfl⟩
  · exact ⟨_, by omega, rfl⟩

theorem isSchemeChar_toHex {b : Octets} : ∀ c ∈ b.toHex.toList, Url.isSchemeChar c = true := by
  have hdigit : ∀ n < 16, Url.isSchemeChar (Octets.hexDigit n) = true := by decide
  intro c hc
  obtain ⟨n, hn, rfl⟩ := exists_of_mem_toHex hc
  exact hdigit n hn

/-- Some octets of an identifier. -/
def group (u : Uuid) (start count : Nat) : Octets := (u.octets.drop start).take count

/-- The text of an identifier by its five groups. -/
theorem toText_eq (u : Uuid) : u.toText
    = (u.group 0 4).toHex ++ "-" ++ (u.group 4 2).toHex ++ "-" ++ (u.group 6 2).toHex ++ "-"
      ++ (u.group 8 2).toHex ++ "-" ++ (u.group 10 6).toHex := rfl

theorem isSchemeChar_toText (u : Uuid) : ∀ c ∈ u.toText.toList, Url.isSchemeChar c = true := by
  have hdash : ∀ c ∈ "-".toList, Url.isSchemeChar c = true := List.all_eq_true.1 (by decide)
  simp only [toText_eq, String.toList_append, List.forall_mem_append]
  exact ⟨⟨⟨⟨⟨⟨⟨⟨isSchemeChar_toHex, hdash⟩, isSchemeChar_toHex⟩, hdash⟩, isSchemeChar_toHex⟩, hdash⟩,
    isSchemeChar_toHex⟩, hdash⟩, isSchemeChar_toHex⟩

theorem toText_ne_nil (u : Uuid) : u.toText.toList ≠ [] := by
  simp [toText_eq]

/-- **The text of an identifier is a segment**, also behind other plain characters. -/
theorem isSegment_toText (u : Uuid) {s : String} (h : ∀ c ∈ s.toList, Url.isSchemeChar c = true) :
    Url.IsSegment (s ++ u.toText ++ "/") := by
  refine ⟨s.toList ++ u.toText.toList, by simp, ?_, ?_⟩
  · simp [u.toText_ne_nil]
  · intro c hc
    rcases List.mem_append.1 hc with hc | hc
    · exact h c hc
    · exact u.isSchemeChar_toText c hc

end Uuid

end RevocationLab
