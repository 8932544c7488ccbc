/-
**A segment at the root.**

A base whose path is a slash has one empty segment, which makes way for what is joined to it.  A plain
segment is no drive, and is not moved by dots, so that it is the whole path of the result.

Main results:

* `Url.location_of_path` — a path that is a slash is one empty segment;
* `Url.pathFrom_segment` — a plain segment is kept as it is;
* `Url.path_join` — **a segment that is joined to a slash is the whole path**.
-/

import RevocationLab.Proofs.Url.Segments

set_option autoImplicit false

namespace RevocationLab

namespace Url

variable {kind : SchemeKind}

/-! ### The root -/

/-- A path that is a slash is one empty segment, unless it is opaque. -/
theorem location_of_path {u : Url} (hplain : u.isOpaque = false) (h : u.path = "/") :
    u.location = .segments [""] := by
  unfold isOpaque at hplain
  unfold path at h
  cases hlocation : u.location with
  | opaqueText text =>
      rw [hlocation] at hplain
      cases hplain
  | segments list =>
      have hlist : list.flatMap (fun s => '/' :: s.toList) = ['/'] := by
        rw [← toList_toText, ← hlocation, h]
        rfl
      match list, hlist with
      | [], hlist => cases hlist
      | [s], hlist =>
          have hs : s = "" := String.toList_eq_nil_iff.1 (by simpa using hlist)
          rw [hs]
      | s :: t :: rest, hlist => simp at hlist

/-- Nothing of the root is left in front of what is joined to it. -/
theorem shorten_root : shorten .file [""] = [] := by decide

/-! ### Plain segments -/

theorem isPlainChar_of_isSchemeChar {c : Char} (h : isSchemeChar c = true) :
    isPlainChar c = true := by
  simp only [isSchemeChar, Char.isAlphanum, Bool.or_eq_true, beq_iff_eq] at h
  rcases h with ((⟨halpha | hdigit⟩ | rfl) | rfl) | rfl
  · exact isPlainChar_of_isAlpha halpha
  · have hall : ∀ n < 58, (Char.ofNat n).isDigit = true → isPlainChar (Char.ofNat n) = true := by
      decide
    have hlt : c.toNat < 58 := Nat.lt_succ_of_le (of_decide_eq_true (Bool.and_eq_true_iff.1 hdigit).2)
    have hc := hall c.toNat hlt
    rw [Char.ofNat_toNat] at hc
    exact hc hdigit
  all_goals decide

section

variable {s : List Char} (hs : ∀ c ∈ s, isSchemeChar c = true)

include hs

/-- A plain segment that does not start with a dot is kept as it is. -/
theorem isKept_of_isSchemeChar (hdot : s.head? ≠ some '.') : IsKept s := by
  have hdots : (plainDots s).head? ≠ some '.' := by
    intro hhead
    rcases head?_plainDots hhead with hhead | ⟨c, r, rfl, -⟩
    · exact hdot hhead
    · exact absurd (hs '%' List.mem_cons_self) (by decide)
  refine ⟨fun heq => hdots (by rw [heq]; rfl), fun heq => hdots (by rw [heq]; rfl), ?_⟩
  exact encodeWith_of_isPlainChar fun c hc => isPlainChar_of_isSchemeChar (hs c hc)

/-- A plain segment is not split. -/
theorem splitSegments_of_isSchemeChar : splitSegments kind s = [s] := by
  induction s with
  | nil => rfl
  | cons c s ih =>
      obtain ⟨hc, hrest⟩ := List.forall_mem_cons.1 hs
      obtain ⟨-, -, -, hslash, hback⟩ := isSchemeChar_ne hc
      have hends := (isPlainChar_ne (isPlainChar_of_isSchemeChar hc)).2
      simp [splitSegments, hends, isSlash, hslash, hback, ih hrest]

/-- A plain segment is no drive, since it has no colon and no bar. -/
theorem isDrive_of_isSchemeChar (bar : Bool) : isDrive bar s = false := by
  unfold isDrive
  split
  · next c d =>
      have hd := hs d (by simp)
      have hcolon : d ≠ ':' := by
        rintro rfl
        exact absurd hd (by decide)
      have hbar : d ≠ '|' := by
        rintro rfl
        exact absurd hd (by decide)
      simp [hcolon, hbar]
  · rfl

theorem startsWithDrive_segment : startsWithDrive (s ++ ['/']) = false := by
  have hinside : ∀ c ∈ s, (!endsAuthority .file c) = true := by
    intro c hc
    obtain ⟨-, -, -, hslash, hback⟩ := isSchemeChar_ne (hs c hc)
    have hends := (isPlainChar_ne (isPlainChar_of_isSchemeChar (hs c hc))).2
    simp [endsAuthority, isSlash, hslash, hback, hends]
  have htake : (s ++ ['/']).takeWhile (fun c => !endsAuthority .file c) = s := by
    rw [List.takeWhile_append_of_pos hinside]
    simp [endsAuthority, isSlash]
  unfold startsWithDrive
  rw [htake]
  exact isDrive_of_isSchemeChar hs true

/-- **A plain segment with a slash behind it is a path** as it stands. -/
theorem pathFrom_segment (hne : s ≠ []) (hdot : s.head? ≠ some '.') :
    pathFrom kind [] (s ++ ['/']) = .segments [String.ofList s, ""] := by
  have hkept := isKept_of_isSchemeChar hs hdot
  have htext : String.ofList s ≠ "" := fun h => hne (by simpa using congrArg String.toList h)
  have hwalked : walked kind s = [String.ofList s] := by
    simp [walked, splitSegments_of_isSchemeChar hs, addSegment, hkept.dot, hkept.dots, segmentText,
      isDrive_of_isSchemeChar hs, hkept.text]
  refine pathFrom_append (fun c hc => ?_) htext ?_ ?_
  · exact (isPlainChar_ne (isPlainChar_of_isSchemeChar (hs c hc))).2
  · rw [hwalked, settled, dropEmpty_cons htext, ite_self]
  · intro p hp
    obtain rfl := List.mem_singleton.1 hp
    exact isKept_of_isSchemeChar (by simp) (by simp)

end

/-! ### Joining at the root -/

/-- **A segment that is joined to a slash is the whole path**, with a slash in front of it. -/
theorem path_join {text : String} (h : IsSegment text) (hdot : text.toList.head? ≠ some '.')
    {base u : Url} (hbase : base.path = "/") (hjoin : base.join text = .ok u) :
    u.path = "/" ++ text := by
  have hplain : base.isOpaque = false := by
    by_contra hplain
    rw [join_of_isOpaque h (by simpa using hplain)] at hjoin
    cases hjoin
  have hroot : base.segmentList = [""] := by
    rw [segmentList, location_of_path hplain hbase]
  obtain ⟨c, r, hcons, hc⟩ := h.exists_cons
  obtain ⟨s, htext, hne, hs⟩ := h
  have hhead : s.head? ≠ some '.' := by
    rwa [htext, List.head?_append, List.head?_eq_some_head hne, Option.some_or,
      ← List.head?_eq_some_head hne] at hdot
  have hpath : ∀ kind, (pathFrom kind [] text.toList).toText = "/" ++ text := by
    intro kind
    rw [htext, pathFrom_segment hs hne hhead]
    apply String.toList_inj.1
    rw [toList_toText, String.toList_append, htext]
    simp
  rw [join_segment ⟨s, htext, hne, hs⟩, hplain, hcons, fileUrl_cons base hc, relativeTo_cons base hc,
    ← hcons, htext, startsWithDrive_segment hs, ← htext, hroot, shorten_root] at hjoin
  simp only [Bool.false_eq_true, if_false] at hjoin
  split at hjoin
  · cases hjoin
    exact hpath .file
  · cases hjoin
    exact hpath (schemeKind base.scheme)

end Url

end RevocationLab
