/-
**The segments of a path.**

A text is split into segments at its slashes, and they are added to a path from left to right: dots
move the end of the path, and everything else is kept with its special characters encoded.  So what
stands behind a slash is added to what the text in front of it has left, and segments without dots and
special characters are kept there as they are.

Main definitions:

* `Url.IsKept` — a segment that is kept as it is;
* `Url.walked` — the segments that a text leaves in front of what is written behind it;
* `Url.isPlainChar` — the characters that a path keeps.

Main results:

* `Url.splitSegments_append` — a slash ends a segment;
* `Url.addSegments_append` — the segments in front are added one by one;
* `Url.pathFrom_append` — **a path that is written on keeps its segment**, and has the further ones
  behind it;
* `Url.isPlainText_pathFrom` — every segment of a path has plain characters only;
* `Url.segments_of_toText` — a path with one segment is read off its text.
-/

import RevocationLab.Proofs.Url.Join

set_option autoImplicit false

namespace RevocationLab

namespace Url

variable {kind : SchemeKind}

/-! ### Splitting -/

theorem splitSegments_ne_nil (kind : SchemeKind) (s : List Char) : splitSegments kind s ≠ [] := by
  cases s with
  | nil => simp [splitSegments]
  | cons c r =>
      rw [splitSegments]
      split
      · simp
      · split
        · simp
        · split <;> simp

/-- A slash ends a segment. -/
theorem splitSegments_append {y : List Char} (hy : ∀ c ∈ y, endsPath c = false) (w : List Char) :
    splitSegments kind (y ++ '/' :: w) = splitSegments kind y ++ splitSegments kind w := by
  induction y with
  | nil => simp [splitSegments, endsPath, isSlash]
  | cons c y ih =>
      obtain ⟨hc, hrest⟩ := List.forall_mem_cons.1 hy
      have hih := ih hrest
      obtain ⟨p, ps, hps⟩ := List.exists_cons_of_ne_nil (splitSegments_ne_nil kind y)
      rw [hps] at hih
      simp only [List.cons_append, splitSegments, hc, Bool.false_eq_true, if_false, hih, hps]
      split <;> rfl

/-- The first segment stands in front of the text, and the others somewhere in it. -/
theorem prefix_of_splitSegments {y p : List Char} {ps : List (List Char)}
    (h : splitSegments kind y = p :: ps) : p <+: y ∧ ∀ q ∈ ps, q <:+: y := by
  induction y generalizing p ps with
  | nil =>
      cases h
      exact ⟨List.prefix_refl [], fun q hq => by cases hq⟩
  | cons c y ih =>
      obtain ⟨p', ps', hps⟩ := List.exists_cons_of_ne_nil (splitSegments_ne_nil kind y)
      obtain ⟨hfirst, hothers⟩ := ih hps
      rw [splitSegments] at h
      split at h
      · cases h
        exact ⟨List.nil_prefix, fun q hq => by cases hq⟩
      · split at h
        · cases h
          refine ⟨List.nil_prefix, fun q hq => ?_⟩
          rw [hps] at hq
          rcases List.mem_cons.1 hq with rfl | hq
          · exact List.infix_cons hfirst.isInfix
          · exact List.infix_cons (hothers q hq)
        · rw [hps] at h
          cases h
          exact ⟨List.cons_prefix_cons.2 ⟨rfl, hfirst⟩, fun q hq => List.infix_cons (hothers q hq)⟩

/-- A segment stands somewhere in the text. -/
theorem infix_of_mem_splitSegments {y s : List Char} (h : s ∈ splitSegments kind y) : s <:+: y := by
  obtain ⟨p, ps, hps⟩ := List.exists_cons_of_ne_nil (splitSegments_ne_nil kind y)
  obtain ⟨hfirst, hothers⟩ := prefix_of_splitSegments hps
  rw [hps] at h
  rcases List.mem_cons.1 h with rfl | h
  · exact hfirst.isInfix
  · exact hothers s h

/-- No character of a segment is a slash. -/
theorem isSlash_of_mem_splitSegments {y s : List Char} (h : s ∈ splitSegments kind y) :
    ∀ c ∈ s, isSlash kind c = false := by
  induction y generalizing s with
  | nil =>
      obtain rfl := List.mem_singleton.1 h
      simp
  | cons d y ih =>
      obtain ⟨p, ps, hps⟩ := List.exists_cons_of_ne_nil (splitSegments_ne_nil kind y)
      rw [splitSegments] at h
      split at h
      · obtain rfl := List.mem_singleton.1 h
        simp
      · split at h
        · rcases List.mem_cons.1 h with rfl | h
          · simp
          · exact ih h
        · next hslash =>
            rw [hps] at h ih
            rcases List.mem_cons.1 h with rfl | h
            · exact List.forall_mem_cons.2 ⟨by simpa using hslash, ih List.mem_cons_self⟩
            · exact ih (List.mem_cons_of_mem p h)

/-- A text without marks and backslashes is its segments with a slash in front of each. -/
theorem join_splitSegments {w : List Char} (hw : ∀ c ∈ w, endsPath c = false ∧ c ≠ '\\') :
    ((splitSegments kind w).flatMap fun s => '/' :: s) = '/' :: w := by
  induction w with
  | nil => rfl
  | cons c w ih =>
      obtain ⟨⟨hends, hback⟩, hrest⟩ := List.forall_mem_cons.1 hw
      have hih := ih hrest
      obtain ⟨p, ps, hps⟩ := List.exists_cons_of_ne_nil (splitSegments_ne_nil kind w)
      rw [hps, List.flatMap_cons] at hih
      have htail : p ++ ps.flatMap (fun s => '/' :: s) = w := (List.cons.inj hih).2
      by_cases hc : c = '/'
      · subst hc
        simp [splitSegments, endsPath, isSlash, hps, htail]
      · simp [splitSegments, hends, isSlash, hc, hback, hps, htail]

/-! ### Adding segments -/

/-- What starts with a dot once its escapes are undone starts with one, or with an escaped one. -/
theorem head?_plainDots {s : List Char} (h : (plainDots s).head? = some '.') :
    s.head? = some '.' ∨ ∃ c r, s = '%' :: '2' :: c :: r ∧ (c = 'e' ∨ c = 'E') := by
  cases s using plainDots.induct with
  | case1 c r hc => exact Or.inr ⟨c, r, rfl, hc⟩
  | case2 c r hc =>
      rw [plainDots, if_neg hc] at h
      cases h
  | case3 c r hr =>
      rw [plainDots] at h
      · exact Or.inl h
      · exact hr
  | case4 => cases h

/-- A segment that is kept as it is: no dots, and nothing to encode. -/
structure IsKept (s : List Char) : Prop where
  dot : plainDots s ≠ ['.']
  dots : plainDots s ≠ ['.', '.']
  text : encodeWith inPath s = s

/-- One segment more, with others behind it. -/
def addSegment (kind : SchemeKind) (path : List String) (s : List Char) : List String :=
  if plainDots s = ['.', '.'] then shorten kind path
  else if plainDots s = ['.'] then path
  else path ++ [segmentText kind (path = []) s]

theorem addSegments_cons (path : List String) (s : List Char) {ps : List (List Char)}
    (hps : ps ≠ []) :
    addSegments kind path (s :: ps) = addSegments kind (addSegment kind path s) ps := by
  obtain ⟨t, r, rfl⟩ := List.exists_cons_of_ne_nil hps
  rw [addSegments, addSegment]
  · split
    · rfl
    · split <;> rfl
  · simp

/-- **The segments in front are added one by one.** -/
theorem addSegments_append (path : List String) (qs : List (List Char)) {ps : List (List Char)}
    (hps : ps ≠ []) :
    addSegments kind path (qs ++ ps) = addSegments kind (qs.foldl (addSegment kind) path) ps := by
  induction qs generalizing path with
  | nil => rfl
  | cons s qs ih =>
      have hne : qs ++ ps ≠ [] := List.append_ne_nil_of_right_ne_nil qs hps
      rw [List.cons_append, addSegments_cons path s hne, ih, List.foldl_cons]

/-- The last segment is added like any other, or the path ends in an empty one. -/
theorem addSegments_singleton (kind : SchemeKind) (path : List String) (s : List Char) :
    addSegments kind path [s] = addSegment kind path s
      ∨ (addSegments kind path [s]).getLast? = some "" := by
  rw [addSegments, addSegment]
  split
  · exact Or.inr (by simp)
  · split
    · exact Or.inr (by simp)
    · exact Or.inl rfl

theorem IsKept.addSegment {s : List Char} (h : IsKept s) {path : List String} (hpath : path ≠ []) :
    addSegment kind path s = path ++ [String.ofList s] := by
  simp [Url.addSegment, h.dot, h.dots, hpath, segmentText, h.text]

/-- **Segments that are kept go behind a path** as they are. -/
theorem addSegments_of_kept {path : List String} (hpath : path ≠ []) {ps : List (List Char)}
    (hps : ∀ s ∈ ps, IsKept s) (hne : ps ≠ []) :
    addSegments kind path ps = path ++ ps.map String.ofList := by
  induction ps generalizing path with
  | nil => exact absurd rfl hne
  | cons s ps ih =>
      obtain ⟨hs, hrest⟩ := List.forall_mem_cons.1 hps
      by_cases hnil : ps = []
      · subst hnil
        simp [addSegments, hs.dot, hs.dots, hpath, segmentText, hs.text]
      · rw [addSegments_cons path s hnil, hs.addSegment hpath, ih (by simp) hrest hnil]
        simp

/-- Nothing is dropped behind a segment that is not empty. -/
theorem dropEmpty_cons {s : String} (hs : s ≠ "") (r : List String) :
    dropEmpty (s :: r) = s :: r := by
  rw [dropEmpty]
  rintro t r' heq
  exact hs (List.cons.inj heq).1

theorem dropEmpty_append {path more : List String} {s : String} (hs : s ≠ "")
    (h : dropEmpty path = [s]) : dropEmpty (path ++ more) = s :: more := by
  induction path using dropEmpty.induct with
  | case1 t r ih =>
      rw [dropEmpty] at h
      rw [List.cons_append, List.cons_append, dropEmpty]
      exact ih h
  | case2 p hp =>
      rw [dropEmpty] at h
      · subst h
        exact dropEmpty_cons hs more
      · exact hp

theorem dropEmpty_of_append {path : List String} {s : String} (hs : s ≠ "")
    (h : dropEmpty (path ++ [""]) = [s, ""]) : dropEmpty path = [s] := by
  induction path using dropEmpty.induct with
  | case1 t r ih =>
      rw [List.cons_append, List.cons_append, dropEmpty] at h
      rw [dropEmpty]
      exact ih h
  | case2 p hp =>
      cases p with
      | nil => cases h
      | cons t r =>
          by_cases ht : t = ""
          · -- an empty segment stands alone
            subst ht
            cases r with
            | nil => cases h
            | cons t' r => exact absurd rfl (hp t' r)
          · rw [List.cons_append, dropEmpty_cons ht] at h
            rw [dropEmpty_cons ht]
            exact List.append_cancel_right (h : (t :: r) ++ [""] = [s] ++ [""])

theorem getLast?_dropEmpty (path : List String) : (dropEmpty path).getLast? = path.getLast? := by
  induction path using dropEmpty.induct with
  | case1 t r ih => rw [dropEmpty, ih, List.getLast?_cons_cons]
  | case2 p hp =>
      rw [dropEmpty]
      exact hp

/-! ### Paths that are written on -/

/-- The segments of a path, without the empty ones that a file drops. -/
def settled (kind : SchemeKind) (path : List String) : List String :=
  if kind = .file then dropEmpty path else path

theorem pathFrom_eq (start : List String) (s : List Char) :
    pathFrom kind start s
      = .segments (settled kind (addSegments kind start (splitSegments kind s))) := rfl

theorem settled_append {path more : List String} {s : String} (hs : s ≠ "")
    (h : settled kind path = [s]) : settled kind (path ++ more) = s :: more := by
  unfold settled at h ⊢
  split at h
  · next hfile => rw [if_pos hfile, dropEmpty_append hs h]
  · next hfile => rw [if_neg hfile, h, List.singleton_append]

theorem settled_of_append {path : List String} {s : String} (hs : s ≠ "")
    (h : settled kind (path ++ [""]) = [s, ""]) : settled kind path = [s] := by
  unfold settled at h ⊢
  split at h
  · next hfile => rw [if_pos hfile, dropEmpty_of_append hs h]
  · next hfile =>
      rw [if_neg hfile]
      exact List.append_cancel_right (h : path ++ [""] = [s] ++ [""])

theorem getLast?_settled (kind : SchemeKind) (path : List String) :
    (settled kind path).getLast? = path.getLast? := by
  unfold settled
  split
  · exact getLast?_dropEmpty path
  · rfl

/-- The segments that a text leaves in front of what is written behind it. -/
def walked (kind : SchemeKind) (y : List Char) : List String :=
  (splitSegments kind y).foldl (addSegment kind) []

theorem walked_of_segment {y : List Char} {s : String} (hs : s ≠ "")
    (h : pathFrom kind [] y = .segments [s]) : settled kind (walked kind y) = [s] := by
  rw [pathFrom_eq] at h
  have hpath := Path.segments.inj h
  obtain ⟨qs, p, hsplit⟩ : ∃ qs p, splitSegments kind y = qs ++ [p] :=
    ⟨_, _, (List.dropLast_concat_getLast (splitSegments_ne_nil kind y)).symm⟩
  rw [hsplit, addSegments_append [] qs (List.cons_ne_nil p [])] at hpath
  rw [walked, hsplit, List.foldl_append, List.foldl_cons, List.foldl_nil]
  rcases addSegments_singleton kind (qs.foldl (addSegment kind) []) p with hadd | hempty
  · rw [← hadd]
    exact hpath
  · -- the path would end in an empty segment
    have hlast := getLast?_settled kind (addSegments kind (qs.foldl (addSegment kind) []) [p])
    rw [hpath, hempty] at hlast
    exact absurd (Option.some.inj hlast) hs

theorem walked_of_slash {y : List Char} (hy : ∀ c ∈ y, endsPath c = false) {s : String}
    (hs : s ≠ "") (h : pathFrom kind [] (y ++ ['/']) = .segments [s, ""]) :
    settled kind (walked kind y) = [s] := by
  have hempty : ∀ path, addSegments kind path [[]] = path ++ [""] := by
    intro path
    simp [addSegments, plainDots, segmentText, isDrive, encodeWith]
  rw [pathFrom_eq, splitSegments_append hy, addSegments_append _ _ (splitSegments_ne_nil kind [])] at h
  rw [walked]
  refine settled_of_append hs ?_
  rw [← hempty]
  exact Path.segments.inj h

/-- **A path that is written on** keeps its segment, and has the further ones behind it. -/
theorem pathFrom_append {y w : List Char} (hy : ∀ c ∈ y, endsPath c = false) {s : String}
    (hs : s ≠ "") (h : settled kind (walked kind y) = [s])
    (hw : ∀ p ∈ splitSegments kind w, IsKept p) :
    pathFrom kind [] (y ++ '/' :: w)
      = .segments (s :: (splitSegments kind w).map String.ofList) := by
  have hne : walked kind y ≠ [] := by
    intro hnil
    rw [hnil] at h
    unfold settled at h
    split at h <;> cases h
  rw [pathFrom_eq, splitSegments_append hy, addSegments_append _ _ (splitSegments_ne_nil kind w)]
  have hkept : addSegments kind (walked kind y) (splitSegments kind w) = _ :=
    addSegments_of_kept hne hw (splitSegments_ne_nil kind w)
  rw [walked] at hkept h
  rw [hkept, settled_append hs h]

/-! ### The characters of a path -/

/-- A character that a path keeps, and that is no slash. -/
def isPlainChar (c : Char) : Bool := !isOutside c && !inPath c && c != '/'

theorem isPlainChar_spec {c : Char} (h : isPlainChar c = true) :
    isOutside c = false ∧ inPath c = false ∧ c ≠ '/' := by
  simpa [isPlainChar, and_assoc] using h

/-- A plain character is none that a path has to encode. -/
theorem ne_of_isPlainChar {c d : Char} (h : isPlainChar c = true) (hd : inPath d = true) : c ≠ d := by
  rintro rfl
  rw [(isPlainChar_spec h).2.1] at hd
  cases hd

/-- A plain character is no blank, and ends no path. -/
theorem isPlainChar_ne {c : Char} (h : isPlainChar c = true) : ¬ c ≤ ' ' ∧ endsPath c = false := by
  constructor
  · intro hle
    have houtside := (isPlainChar_spec h).1
    simp only [isOutside, Bool.or_eq_false_iff, decide_eq_false_iff_not] at houtside
    have hblank := Char.le_antisymm hle (Char.not_lt.1 houtside.1)
    exact ne_of_isPlainChar h (by decide) hblank
  · have hquery : c ≠ '?' := ne_of_isPlainChar h (by decide)
    have hfragment : c ≠ '#' := ne_of_isPlainChar h (by decide)
    simp [endsPath, hquery, hfragment]

theorem isPlainChar_of_isAlpha {c : Char} (h : c.isAlpha = true) : isPlainChar c = true := by
  have hall : ∀ n < 123, (Char.ofNat n).isAlpha = true → isPlainChar (Char.ofNat n) = true := by
    decide
  have hlt : c.toNat < 123 := by
    rcases (Bool.or_eq_true _ _).mp h with hupper | hlower
    · have hle : c.val ≤ 'Z'.val := (of_decide_eq_true hupper).2
      exact Nat.lt_of_le_of_lt (UInt32.le_iff_toNat_le.1 hle) (by decide)
    · have hle : c.val ≤ 'z'.val := of_decide_eq_true (Bool.and_eq_true_iff.1 hlower).2
      exact Nat.lt_of_le_of_lt (UInt32.le_iff_toNat_le.1 hle) (by decide)
  have hc := hall c.toNat hlt
  rw [Char.ofNat_toNat] at hc
  exact hc h

theorem isPlainChar_escapeOctet (b : UInt8) : ∀ c ∈ escapeOctet b, isPlainChar c = true := by
  have hdigit : ∀ n < 16, isPlainChar (capitalDigit n) = true := by decide
  have hlt := b.toNat_lt
  intro c hc
  simp only [escapeOctet, List.mem_cons, List.not_mem_nil, or_false] at hc
  rcases hc with rfl | rfl | rfl
  · decide
  · exact hdigit _ (by omega)
  · exact hdigit _ (by omega)

theorem isPlainChar_encodeWith {s : List Char} (h : '/' ∉ s) :
    ∀ c ∈ encodeWith inPath s, isPlainChar c = true := by
  intro c hc
  obtain ⟨d, hd, hc⟩ := List.mem_flatMap.1 hc
  unfold encodeChar at hc
  split at hc
  · obtain ⟨b, -, hb⟩ := List.mem_flatMap.1 hc
    exact isPlainChar_escapeOctet b c hb
  · next hkept =>
      obtain rfl := List.mem_singleton.1 hc
      have hslash : c ≠ '/' := fun heq => h (heq ▸ hd)
      simp only [Bool.or_eq_true, not_or, Bool.not_eq_true] at hkept
      simp [isPlainChar, hkept.1, hkept.2, hslash]

/-- Plain characters are not encoded. -/
theorem encodeWith_of_isPlainChar {s : List Char} (h : ∀ c ∈ s, isPlainChar c = true) :
    encodeWith inPath s = s := by
  rw [encodeWith]
  induction s with
  | nil => rfl
  | cons c s ih =>
      obtain ⟨hc, hrest⟩ := List.forall_mem_cons.1 h
      obtain ⟨houtside, hpath, -⟩ := isPlainChar_spec hc
      rw [List.flatMap_cons, ih hrest, encodeChar, houtside, hpath]
      rfl

/-- A segment of plain characters. -/
def IsPlainText (s : String) : Prop := ∀ c ∈ s.toList, isPlainChar c = true

theorem isPlainText_segmentText {isFirst : Bool} {s : List Char} (h : '/' ∉ s) :
    IsPlainText (segmentText kind isFirst s) := by
  intro c hc
  unfold segmentText at hc
  split at hc
  · next hdrive =>
      obtain ⟨-, -, hdrive⟩ := hdrive
      match s, hdrive with
      | [d, e], hdrive =>
          simp only [isDrive, Bool.and_eq_true] at hdrive
          simp at hc
          rcases hc with rfl | rfl
          · exact isPlainChar_of_isAlpha hdrive.1
          · decide
  · rw [String.toList_ofList] at hc
    exact isPlainChar_encodeWith h c hc

theorem mem_shorten {path : List String} {s : String} (h : s ∈ shorten kind path) : s ∈ path := by
  unfold shorten at h
  split at h
  · split at h
    · exact h
    · cases h
  · exact List.dropLast_subset path h

theorem isPlainText_snoc {path : List String} (hpath : ∀ s ∈ path, IsPlainText s) {s : String}
    (hs : IsPlainText s) : ∀ t ∈ path ++ [s], IsPlainText t := by
  intro t ht
  rcases List.mem_append.1 ht with ht | ht
  · exact hpath t ht
  · obtain rfl := List.mem_singleton.1 ht
    exact hs

theorem isPlainText_empty : IsPlainText "" := by
  intro c hc
  cases hc

theorem isPlainText_addSegment {path : List String} (hpath : ∀ s ∈ path, IsPlainText s)
    {p : List Char} (hp : '/' ∉ p) : ∀ s ∈ addSegment kind path p, IsPlainText s := by
  unfold addSegment
  split
  · exact fun s hs => hpath s (mem_shorten hs)
  · split
    · exact hpath
    · exact isPlainText_snoc hpath (isPlainText_segmentText hp)

/-- **Every segment of a path has plain characters only.** -/
theorem isPlainText_addSegments {path : List String} (hpath : ∀ s ∈ path, IsPlainText s)
    {ps : List (List Char)} (hps : ∀ p ∈ ps, '/' ∉ p) :
    ∀ s ∈ addSegments kind path ps, IsPlainText s := by
  induction ps generalizing path with
  | nil => exact hpath
  | cons p ps ih =>
      obtain ⟨hp, hrest⟩ := List.forall_mem_cons.1 hps
      by_cases hnil : ps = []
      · subst hnil
        rw [addSegments]
        split
        · exact isPlainText_snoc (fun s hs => hpath s (mem_shorten hs)) isPlainText_empty
        · split
          · exact isPlainText_snoc hpath isPlainText_empty
          · exact isPlainText_snoc hpath (isPlainText_segmentText hp)
      · rw [addSegments_cons path p hnil]
        exact ih (isPlainText_addSegment hpath hp) hrest

theorem mem_dropEmpty {path : List String} {s : String} (h : s ∈ dropEmpty path) : s ∈ path := by
  induction path using dropEmpty.induct with
  | case1 t r ih =>
      rw [dropEmpty] at h
      exact List.mem_cons_of_mem _ (ih h)
  | case2 p hp =>
      rw [dropEmpty] at h
      · exact h
      · exact hp

theorem isPlainText_pathFrom {y : List Char} {list : List String}
    (h : pathFrom kind [] y = .segments list) : ∀ s ∈ list, IsPlainText s := by
  rw [pathFrom_eq] at h
  obtain rfl := Path.segments.inj h
  intro s hs
  have hmem : s ∈ addSegments kind [] (splitSegments kind y) := by
    unfold settled at hs
    split at hs
    · exact mem_dropEmpty hs
    · exact hs
  refine isPlainText_addSegments (by simp) (fun p hp hslash => ?_) s hmem
  have hnot := isSlash_of_mem_splitSegments hp '/' hslash
  simp [isSlash] at hnot

/-! ### The text of a path -/

theorem toList_toText (list : List String) :
    (Path.segments list).toText.toList = list.flatMap fun s => '/' :: s.toList := by
  rw [Path.toText]
  induction list with
  | nil => rfl
  | cons s list ih => simp [String.join_cons, ih]

/-- What stands in front of the first slash. -/
theorem takeWhile_slash {s r : List Char} (hs : '/' ∉ s) (hr : r = [] ∨ r.head? = some '/') :
    (s ++ r).takeWhile (· != '/') = s := by
  have hall : ∀ c ∈ s, (c != '/') = true := by
    intro c hc
    rw [bne_iff_ne]
    rintro rfl
    exact hs hc
  rw [List.takeWhile_append_of_pos hall]
  rcases hr with rfl | hr
  · simp
  · obtain ⟨t, rfl⟩ := List.head?_eq_some_iff.1 hr
    simp

/-- **A path of segments without slashes is read off its text**: one segment, and perhaps an empty one
behind it. -/
theorem segments_of_toText {list : List String} (hlist : ∀ s ∈ list, '/' ∉ s.toList)
    {σ r : List Char} (hσ : '/' ∉ σ) (hr : r = [] ∨ r = ['/'])
    (h : (Path.segments list).toText.toList = '/' :: σ ++ r) :
    list = String.ofList σ :: (if r = [] then [] else [""]) := by
  rw [toList_toText] at h
  cases list with
  | nil => cases h
  | cons s rest =>
      rw [List.flatMap_cons] at h
      have hwhole : s.toList ++ rest.flatMap (fun s => '/' :: s.toList) = σ ++ r :=
        (List.cons.inj h).2
      have hbehind : rest.flatMap (fun s => '/' :: s.toList) = []
          ∨ (rest.flatMap fun s => '/' :: s.toList).head? = some '/' := by
        cases rest with
        | nil => exact Or.inl rfl
        | cons t rest => exact Or.inr rfl
      have hfirst : s.toList = σ := by
        rw [← takeWhile_slash (hlist s List.mem_cons_self) hbehind, hwhole]
        exact takeWhile_slash hσ (hr.imp_right fun heq => by rw [heq]; rfl)
      rw [hfirst, List.append_cancel_left_eq] at hwhole
      rw [← hfirst, String.ofList_toList]
      congr 1
      rcases hr with rfl | rfl
      · cases rest with
        | nil => rfl
        | cons t rest => cases hwhole
      · cases rest with
        | nil => cases hwhole
        | cons t rest =>
            rw [List.flatMap_cons] at hwhole
            obtain ⟨ht, hrest⟩ := List.append_eq_nil_iff.1 (List.cons.inj hwhole).2
            cases rest with
            | nil => rw [String.toList_eq_nil_iff.1 ht]; rfl
            | cons t' rest => cases hrest

end Url

end RevocationLab
