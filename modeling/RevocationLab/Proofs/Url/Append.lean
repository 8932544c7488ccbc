/-
**Writing on behind a URL.**

A text that is read as a URL without query and fragment, whose path is more than a slash, leads into
that path: the scheme, the authority and what the first segment says of them are settled, and whatever
is written behind the text goes into the path and nowhere else.  With one segment in the path, and a
slash behind it, safe characters are found in the path as they were written.

Main definitions:

* `Url.LeadsInto` — **a text that leads into a path**;
* `Url.IsSafe` — what may be written behind a path and is kept there.

Main results:

* `Url.leadsInto_readClean` — every such text leads into a path;
* `Url.clean_append` — what is cleaned away is not behind the text;
* `Url.parse_append` — **a URL is written on in its path**.
-/

import RevocationLab.Proofs.Url.Segments

set_option autoImplicit false

namespace RevocationLab

namespace Url

variable {kind : SchemeKind}

/-! ### Texts that are cut -/

/-- A cut in a text stays where it is when the text is written on. -/
theorem span_append {p : Char → Bool} {l : List Char} (h : l.dropWhile p ≠ []) (s : List Char) :
    (l ++ s).takeWhile p = l.takeWhile p ∧ (l ++ s).dropWhile p = l.dropWhile p ++ s := by
  constructor
  · have hlength : (l.takeWhile p).length ≠ l.length := by
      intro heq
      have hall := List.takeWhile_eq_self_iff.1 ((List.takeWhile_prefix p).eq_of_length heq)
      exact h (List.dropWhile_eq_nil_iff.2 hall)
    rw [List.takeWhile_append, if_neg hlength]
  · rw [List.dropWhile_append, if_neg (by simpa using h)]

theorem drop_length_takeWhile (p : Char → Bool) (r : List Char) :
    r.drop (r.takeWhile p).length = r.dropWhile p := by
  have hsplit : r.takeWhile p ++ r.dropWhile p = r := List.takeWhile_append_dropWhile
  calc r.drop (r.takeWhile p).length
      = (r.takeWhile p ++ r.dropWhile p).drop (r.takeWhile p).length := by rw [hsplit]
    _ = r.dropWhile p := List.drop_left

/-! ### Texts that lead into a path -/

/-- A URL whose path is all that could be written on: it has no query and no fragment, and the path is
more than a slash. -/
structure EndsInPath (u : Url) : Prop where
  query : u.query = none
  fragment : u.fragment = none
  path : ∃ c r, u.path.toList = '/' :: c :: r

/-- What may be written behind a text so that it goes on with its path: nothing that ends a path, and
behind a slash or with one in front. -/
def Continues (r s : List Char) : Prop :=
  (∀ c ∈ s, endsPath c = false) ∧ (s = [] ∨ s.head? = some '/' ∨ r.getLast? = some '/')

theorem Continues.of_suffix {r t s : List Char} (h : Continues r s) (ht : t <:+ r) (hne : t ≠ []) :
    Continues t s := by
  obtain ⟨hends, hside⟩ := h
  obtain ⟨front, rfl⟩ := ht
  have hlast : (front ++ t).getLast? = t.getLast? := by
    rw [List.getLast?_append, List.getLast?_eq_some_getLast hne]
    rfl
  rw [hlast] at hside
  exact ⟨hends, hside⟩

/-- **A text that leads into a path**: what is written behind it goes into a path that starts at the
root, and nothing else depends on it but on the first segment. -/
structure LeadsInto (read : List Char → Except ParseError Url) (r : List Char) (kind : SchemeKind)
    (y : List Char) (make : Path → Url) : Prop where
  suffix : y <:+ r
  ne_nil : y ≠ []
  inPath : ∀ c ∈ y, endsPath c = false
  read : ∀ s, Continues r s → read (r ++ s) = .ok (make (pathFrom kind [] (y ++ s)))
  location : ∀ l, (make l).location = l
  first : ∀ s p q, make (.segments (s :: p))
    = { make (.segments (s :: q)) with location := .segments (s :: p) }

theorem LeadsInto.of_eq {read read' : List Char → Except ParseError Url} {r t : List Char}
    {y : List Char} {make : Path → Url} (h : LeadsInto read t kind y make) (ht : t <:+ r)
    (heq : ∀ s, Continues r s → read' (r ++ s) = read (t ++ s)) : LeadsInto read' r kind y make where
  suffix := h.suffix.trans ht
  ne_nil := h.ne_nil
  inPath := h.inPath
  read := by
    intro s hs
    have hne : t ≠ [] := by
      rintro rfl
      exact h.ne_nil (List.suffix_nil.1 h.suffix)
    rw [heq s hs, h.read s (hs.of_suffix ht hne)]
  location := h.location
  first := h.first

theorem LeadsInto.eq_make {read : List Char → Except ParseError Url} {r y : List Char}
    {make : Path → Url} {u : Url} (hleads : LeadsInto read r kind y make) (h : read r = .ok u) :
    u = make (pathFrom kind [] y) := by
  have hnil := hleads.read [] ⟨by simp, Or.inl rfl⟩
  rw [List.append_nil, List.append_nil, h] at hnil
  exact Except.ok.inj hnil

theorem afterPath_eq_nil {s : List Char} (h : ∀ c ∈ s, endsPath c = false) : afterPath s = [] := by
  rw [afterPath, List.dropWhile_eq_nil_iff]
  intro c hc
  rw [h c hc]
  rfl

/-- Where there is no query and no fragment, nothing ends the path. -/
theorem inPath_of_close {scheme : String} {authority : Option Authority} {location : Path}
    {s : List Char} (h : (close kind scheme authority location (afterPath s)).EndsInPath) :
    ∀ c ∈ s, endsPath c = false := by
  have hnil : afterPath s = [] := by
    cases hafter : afterPath s with
    | nil => rfl
    | cons c r =>
        have hc : endsPath c = true := by
          have hhead := List.head?_dropWhile_not (fun c => !endsPath c) s
          rw [afterPath] at hafter
          rw [hafter] at hhead
          simpa using hhead
        rw [hafter] at h
        simp only [endsPath, Bool.or_eq_true, beq_iff_eq] at hc
        rcases hc with rfl | rfl
        · exact absurd h.query (by simp [close, queryAndFragment])
        · exact absurd h.fragment (by simp [close, queryAndFragment])
  rw [afterPath, List.dropWhile_eq_nil_iff] at hnil
  intro c hc
  simpa using hnil c hc

/-- A path with nothing in it is no longer than a slash. -/
theorem not_endsInPath {u : Url} (h : u.path = "" ∨ u.path = "/") : ¬ u.EndsInPath := by
  rintro ⟨-, -, c, r, hpath⟩
  rcases h with h | h <;> rw [h] at hpath <;> cases hpath

theorem toText_pathFrom_nil (kind : SchemeKind) : (pathFrom kind [] []).toText = "/" := by
  cases kind <;> decide

theorem pathAfterAuthority_cons {c : Char} (hslash : isSlash kind c = true)
    (hends : endsPath c = false) (t : List Char) :
    pathAfterAuthority kind (c :: t) = pathFrom kind [] t := by
  simp [pathAfterAuthority, hends, dropSlash, hslash]

/-- A text whose end is read as a path leads into it. -/
theorem leadsInto_close {read : List Char → Except ParseError Url} {r y : List Char}
    {scheme : String} {authority : Option Authority} {u : Url} (h : read r = .ok u)
    (hu : u.EndsInPath) (hsuffix : y <:+ r) (hne : y ≠ [])
    (hread : ∀ s, Continues r s → read (r ++ s)
      = .ok (close kind scheme authority (pathFrom kind [] (y ++ s)) (afterPath (y ++ s)))) :
    ∃ y make, LeadsInto read r kind y make := by
  have hnil := hread [] ⟨by simp, Or.inl rfl⟩
  rw [List.append_nil, List.append_nil, h] at hnil
  obtain rfl := Except.ok.inj hnil
  have hy := inPath_of_close hu
  refine ⟨y, fun l => ⟨scheme, authority, l, none, none⟩, hsuffix, hne, hy, ?_, fun _ => rfl,
    fun _ _ _ => rfl⟩
  intro s hs
  rw [hread s hs, afterPath_eq_nil (List.forall_mem_append.2 ⟨hy, hs.1⟩)]
  rfl

/-! ### Authorities -/

/-- The text of an authority. -/
def authorityText (kind : SchemeKind) (r : List Char) : List Char :=
  r.takeWhile fun c => !endsAuthority kind c

/-- The text after an authority. -/
def behindAuthority (kind : SchemeKind) (r : List Char) : List Char :=
  r.dropWhile fun c => !endsAuthority kind c

/-- **What is written behind a text leaves its authority alone.** -/
theorem authorityText_append {r s : List Char} (h : Continues r s) :
    authorityText kind (r ++ s) = authorityText kind r := by
  by_cases hrest : behindAuthority kind r = []
  · rw [behindAuthority, List.dropWhile_eq_nil_iff] at hrest
    obtain ⟨-, rfl | hhead | hlast⟩ := h
    · rw [List.append_nil]
    · obtain ⟨t, rfl⟩ := List.head?_eq_some_iff.1 hhead
      rw [authorityText, authorityText, List.takeWhile_append_of_pos hrest,
        List.takeWhile_eq_self_iff.2 hrest]
      simp [endsAuthority, isSlash]
    · have hslash := hrest '/' (List.mem_of_getLast? hlast)
      simp [endsAuthority, isSlash] at hslash
  · exact (span_append hrest s).1

theorem withAuthority_eq (scheme : String) (kind : SchemeKind) (r : List Char) :
    withAuthority scheme kind r = (authorityOf scheme kind (authorityText kind r)).map fun a =>
      close kind scheme (some a) (pathAfterAuthority kind (behindAuthority kind r))
        (afterPath (behindAuthority kind r)) := by
  have hbind : withAuthority scheme kind r
      = authorityOf scheme kind (authorityText kind r) >>= fun a =>
        pure (close kind scheme (some a) (pathAfterAuthority kind (behindAuthority kind r))
          (afterPath (behindAuthority kind r))) := rfl
  rw [hbind]
  cases authorityOf scheme kind (authorityText kind r) <;> rfl

/-- **What comes after an authority**, where there is more than a slash: a slash, and a text that goes
into the path together with what is written behind it. -/
theorem behindAuthority_cases {r : List Char}
    (hpath : ∀ c ∈ behindAuthority kind r, endsPath c = false)
    (hmore : ∃ c t, (pathAfterAuthority kind (behindAuthority kind r)).toText.toList = '/' :: c :: t) :
    ∃ y, y <:+ r ∧ y ≠ [] ∧ (∀ c ∈ y, endsPath c = false) ∧ ∀ s, Continues r s →
      pathAfterAuthority kind (behindAuthority kind (r ++ s)) = pathFrom kind [] (y ++ s)
        ∧ afterPath (behindAuthority kind (r ++ s)) = [] := by
  obtain ⟨c', t', hmore⟩ := hmore
  cases hrest : behindAuthority kind r with
  | nil =>
      -- the path is empty, or a slash if there has to be one
      rw [hrest] at hmore
      revert hmore
      cases kind <;> exact fun hmore => by cases hmore
  | cons c y =>
      rw [hrest] at hpath hmore
      obtain ⟨hc, hy⟩ := List.forall_mem_cons.1 hpath
      have hslash : isSlash kind c = true := by
        have hhead := List.head?_dropWhile_not (fun c => !endsAuthority kind c) r
        rw [← behindAuthority, hrest] at hhead
        simpa [endsAuthority, hc] using hhead
      refine ⟨y, (List.suffix_cons c y).trans (hrest ▸ List.dropWhile_suffix _), ?_, hy, ?_⟩
      · rintro rfl
        rw [pathAfterAuthority_cons hslash hc, toText_pathFrom_nil] at hmore
        cases hmore
      · intro s hs
        have hne : r.dropWhile (fun c => !endsAuthority kind c) ≠ [] := by
          rw [← behindAuthority, hrest]
          exact List.cons_ne_nil c y
        have hbehind : behindAuthority kind (r ++ s) = c :: (y ++ s) := by
          rw [behindAuthority, (span_append hne s).2, ← behindAuthority, hrest, List.cons_append]
        constructor
        · rw [hbehind, pathAfterAuthority_cons hslash hc]
        · rw [hbehind]
          exact afterPath_eq_nil
            (List.forall_mem_cons.2 ⟨hc, List.forall_mem_append.2 ⟨hy, hs.1⟩⟩)

/-- **The text of an authority and a path leads into the path.** -/
theorem leadsInto_withAuthority {scheme : String} {r : List Char} {u : Url}
    (h : withAuthority scheme kind r = .ok u) (hu : u.EndsInPath) :
    ∃ y make, LeadsInto (withAuthority scheme kind) r kind y make := by
  rw [withAuthority_eq] at h
  cases hauthority : authorityOf scheme kind (authorityText kind r) with
  | error e =>
      rw [hauthority] at h
      cases h
  | ok a =>
      rw [hauthority] at h
      cases h
      obtain ⟨y, hsuffix, hne, hy, hmore⟩ := behindAuthority_cases (inPath_of_close hu) hu.path
      refine ⟨y, fun l => close kind scheme (some a) l [], hsuffix, hne, hy, ?_, fun _ => rfl,
        fun _ _ _ => rfl⟩
      intro s hs
      obtain ⟨hpath, hafter⟩ := hmore s hs
      rw [withAuthority_eq, authorityText_append hs, hauthority, hpath, hafter]
      rfl

/-! ### Files -/

/-- Whether a path starts with a drive. -/
def hasDrive : Path → Bool
  | .segments (first :: _) => isDrive false first.toList
  | _ => false

/-- The URL of a file on a host; a drive needs no host. -/
def onHost (host : String) (location : Path) : Url :=
  ⟨"file", some { host := if host == "localhost" || hasDrive location then "" else host }, location,
    none, none⟩

theorem fileWithHost_of_isDrive {r : List Char} (h : isDrive true (authorityText .file r) = true) :
    fileWithHost r
      = .ok (close .file "file" (some { host := "" }) (pathFrom .file [] r) (afterPath r)) :=
  if_pos h

theorem fileWithHost_eq {r : List Char} (h : isDrive true (authorityText .file r) = false) :
    fileWithHost r
      = (if authorityText .file r = [] then .ok "" else Host.special (authorityText .file r)).map
        fun host =>
          let location := pathAfterAuthority .file (behindAuthority .file r)
          close .file "file" (onHost host location).authority location
            (afterPath (behindAuthority .file r)) := by
  rw [authorityText] at h ⊢
  unfold fileWithHost
  simp only [h, Bool.false_eq_true, if_false]
  split
  · rfl
  · cases Host.special (r.takeWhile fun c => !endsAuthority .file c) <;> rfl

/-- **The text of a file's host and path leads into the path.** -/
theorem leadsInto_fileWithHost {r : List Char} {u : Url} (h : fileWithHost r = .ok u)
    (hu : u.EndsInPath) : ∃ y make, LeadsInto fileWithHost r .file y make := by
  cases hdrive : isDrive true (authorityText .file r) with
  | true =>
      have hne : r ≠ [] := by
        rintro rfl
        cases hdrive
      exact leadsInto_close h hu (List.suffix_refl r) hne fun s hs =>
        fileWithHost_of_isDrive (by rw [authorityText_append hs, hdrive])
  | false =>
      rw [fileWithHost_eq hdrive] at h
      cases hhost : (if authorityText .file r = [] then .ok ""
          else Host.special (authorityText .file r) : Except ParseError String) with
      | error e =>
          rw [hhost] at h
          cases h
      | ok host =>
          rw [hhost] at h
          cases h
          obtain ⟨y, hsuffix, hne, hy, hmore⟩ := behindAuthority_cases (inPath_of_close hu) hu.path
          refine ⟨y, onHost host, hsuffix, hne, hy, ?_, fun _ => rfl, fun _ _ _ => rfl⟩
          intro s hs
          obtain ⟨hpath, hafter⟩ := hmore s hs
          rw [← authorityText_append hs] at hdrive hhost
          rw [fileWithHost_eq hdrive, hhost, hpath, hafter]
          rfl

theorem fileUrl_host {c d : Char} (hc : isSlash .file c = true) (hd : isSlash .file d = true)
    (t : List Char) : fileUrl none (c :: d :: t) = fileWithHost t := by
  simp [fileUrl, hc, hd]

theorem fileUrl_root {c d : Char} (hc : isSlash .file c = true) (hd : isSlash .file d = false)
    (t : List Char) : fileUrl none (c :: d :: t)
      = .ok (close .file "file" (some { host := "" }) (pathFrom .file [] (d :: t))
        (afterPath (d :: t))) := by
  simp [fileUrl, hc, hd]

theorem fileUrl_plain {c : Char} (hc : isSlash .file c = false) (t : List Char) :
    fileUrl none (c :: t)
      = .ok (close .file "file" (some { host := "" }) (pathFrom .file [] (c :: t))
        (afterPath (c :: t))) := by
  simp [fileUrl, hc]

/-- **The text of a file leads into its path.** -/
theorem leadsInto_fileUrl {r : List Char} {u : Url} (h : fileUrl none r = .ok u)
    (hu : u.EndsInPath) : ∃ y make, LeadsInto (fileUrl none) r .file y make := by
  match r with
  | [] =>
      cases h
      exact absurd hu (not_endsInPath (Or.inr (by decide)))
  | c :: r =>
      cases hc : isSlash .file c with
      | false =>
          exact leadsInto_close h hu (List.suffix_refl _) (List.cons_ne_nil c r)
            fun s _ => fileUrl_plain hc (r ++ s)
      | true =>
          match r with
          | [] =>
              simp [fileUrl, hc] at h
              subst h
              exact absurd hu (not_endsInPath (Or.inr (by decide)))
          | d :: t =>
              cases hd : isSlash .file d with
              | false =>
                  exact leadsInto_close h hu (List.suffix_cons c _) (List.cons_ne_nil d t)
                    fun s _ => fileUrl_root hc hd (t ++ s)
              | true =>
                  rw [fileUrl_host hc hd] at h
                  obtain ⟨y, make, hleads⟩ := leadsInto_fileWithHost h hu
                  exact ⟨y, make, hleads.of_eq
                    ((List.suffix_cons d t).trans (List.suffix_cons c _))
                    fun s _ => fileUrl_host hc hd (t ++ s)⟩

/-! ### Schemes -/

theorem afterScheme_special {scheme : String} (hkind : schemeKind scheme = .special) (r : List Char) :
    afterScheme none scheme r
      = withAuthority scheme .special (r.dropWhile fun c => c == '/' || c == '\\') := by
  rw [← drop_length_takeWhile]
  unfold afterScheme
  rw [hkind]
  rfl

/-- An opaque path does not start with a slash. -/
theorem head?_encodeWith {s : List Char} (h : s.head? ≠ some '/') :
    (encodeWith inNone s).head? ≠ some '/' := by
  cases s with
  | nil => simp [encodeWith]
  | cons c r =>
      rw [encodeWith, List.flatMap_cons, encodeChar]
      split
      · obtain ⟨b, bs, hb⟩ := List.exists_cons_of_ne_nil (String.utf8EncodeChar_ne_nil (c := c))
        simp [hb, escapeOctet]
      · simpa using h

/-- **The text after a scheme without hosts of its own leads into a path**, behind a host, or from the
root. -/
theorem leadsInto_other {scheme : String} (hkind : schemeKind scheme = .other) {r : List Char}
    {u : Url} (h : afterScheme none scheme r = .ok u) (hu : u.EndsInPath) :
    ∃ y make, LeadsInto (afterScheme none scheme) r .other y make := by
  have hhost : ∀ s, afterScheme none scheme ('/' :: '/' :: s) = withAuthority scheme .other s := by
    intro s
    unfold afterScheme
    rw [hkind]
    rfl
  have hroot : ∀ s : List Char, s.head? ≠ some '/' → afterScheme none scheme ('/' :: s)
      = .ok (close .other scheme none (pathFrom .other [] s) (afterPath s)) := by
    intro s hs
    unfold afterScheme
    rw [hkind]
    simp only
    split
    · next r' heq =>
        obtain rfl := (List.cons.inj heq).2
        exact absurd rfl hs
    · next r' hnot heq =>
        obtain rfl := (List.cons.inj heq).2
        rfl
    · next hnone => exact absurd rfl (hnone s)
  have hblind : ∀ s : List Char, s.head? ≠ some '/' → afterScheme none scheme s
      = .ok (close .other scheme none (.opaqueText (String.ofList
        (encodeWith inNone (s.takeWhile fun c => !endsPath c)))) (afterPath s)) := by
    intro s hs
    unfold afterScheme
    rw [hkind]
    simp only
    split
    · exact absurd rfl hs
    · exact absurd rfl hs
    · rfl
  by_cases hslash : r.head? = some '/'
  · obtain ⟨t, rfl⟩ := List.head?_eq_some_iff.1 hslash
    by_cases htwo : t.head? = some '/'
    · obtain ⟨t, rfl⟩ := List.head?_eq_some_iff.1 htwo
      rw [hhost] at h
      obtain ⟨y, make, hleads⟩ := leadsInto_withAuthority h hu
      exact ⟨y, make, hleads.of_eq ((List.suffix_cons '/' t).trans (List.suffix_cons '/' _))
        fun s _ => hhost (t ++ s)⟩
    · have hne : t ≠ [] := by
        rintro rfl
        rw [hroot [] htwo] at h
        cases h
        exact absurd hu (not_endsInPath (Or.inr (toText_pathFrom_nil .other)))
      have hread : ∀ s, (t ++ s).head? ≠ some '/' := by
        intro s
        obtain ⟨c, t, rfl⟩ := List.exists_cons_of_ne_nil hne
        exact htwo
      exact leadsInto_close h hu (List.suffix_cons '/' t) hne fun s _ => hroot (t ++ s) (hread s)
  · -- any other text is opaque, and does not start with a slash
    exfalso
    rw [hblind r hslash] at h
    cases h
    obtain ⟨c, t, hpath⟩ := hu.path
    have htext : (encodeWith inNone (r.takeWhile fun c => !endsPath c)).head? ≠ some '/' := by
      refine head?_encodeWith ?_
      rw [List.head?_takeWhile]
      cases r with
      | nil => simp
      | cons d r =>
          intro hhead
          exact hslash (Option.filter_eq_some_iff.1 hhead).1
    have hlist : encodeWith inNone (r.takeWhile fun c => !endsPath c) = '/' :: c :: t := by
      rw [← hpath]
      exact String.toList_ofList.symm
    rw [hlist] at htext
    exact htext rfl

/-- **The text after a scheme leads into a path**, if it is read as one. -/
theorem leadsInto_afterScheme {scheme : String} {r : List Char} {u : Url}
    (h : afterScheme none scheme r = .ok u) (hu : u.EndsInPath) :
    ∃ kind y make, LeadsInto (afterScheme none scheme) r kind y make := by
  cases hkind : schemeKind scheme with
  | file =>
      have hfile : afterScheme none scheme = fileUrl none := by
        funext s
        unfold afterScheme
        rw [hkind]
        rfl
      rw [hfile] at h ⊢
      obtain ⟨y, make, hleads⟩ := leadsInto_fileUrl h hu
      exact ⟨_, y, make, hleads⟩
  | special =>
      rw [afterScheme_special hkind] at h
      obtain ⟨y, make, hleads⟩ := leadsInto_withAuthority h hu
      refine ⟨_, y, make, hleads.of_eq (List.dropWhile_suffix _) fun s _ => ?_⟩
      have hne : r.dropWhile (fun c => c == '/' || c == '\\') ≠ [] := by
        intro hnil
        have hsuffix := hleads.suffix
        rw [hnil] at hsuffix
        exact hleads.ne_nil (List.suffix_nil.1 hsuffix)
      rw [afterScheme_special hkind, (span_append hne s).2]
  | other =>
      obtain ⟨y, make, hleads⟩ := leadsInto_other hkind h hu
      exact ⟨_, y, make, hleads⟩

/-! ### Clean texts -/

/-- Nothing is dropped in front of a character that is no blank. -/
theorem dropWhile_blank_append {z s : List Char} (hs : s ≠ []) (h : ∀ c ∈ s, ¬ c ≤ ' ') :
    (z ++ s).dropWhile (· ≤ ' ') = z.dropWhile (· ≤ ' ') ++ s := by
  induction z with
  | nil =>
      obtain ⟨c, r, rfl⟩ := List.exists_cons_of_ne_nil hs
      have hc := h c List.mem_cons_self
      simp [hc]
  | cons d z ih =>
      rw [List.cons_append, List.dropWhile_cons, List.dropWhile_cons]
      split
      · exact ih
      · rfl

/-- **What is cleaned stays apart from what is written behind it**, if that has no blanks. -/
theorem clean_of_append {text : String} {z s : List Char} (htext : text.toList = z ++ s)
    (hs : s ≠ []) (h : ∀ c ∈ s, ¬ c ≤ ' ') :
    clean text = (z.dropWhile (· ≤ ' ')).filter (fun c => !(c == '\t' || c == '\n' || c == '\r'))
      ++ s := by
  have hback : ∀ l : List Char, (s.reverse ++ l).dropWhile (· ≤ ' ') = s.reverse ++ l := by
    intro l
    obtain ⟨r, c, rfl⟩ := (List.eq_nil_or_concat s).resolve_left hs
    have hc := h c (by simp)
    simp [hc]
  simp only [clean]
  rw [htext, dropWhile_blank_append hs h, List.reverse_append, hback, List.reverse_append,
    List.reverse_reverse, List.reverse_reverse, List.filter_append, filter_breaks h]

/-- **A text that ends in no blank may be written on.** -/
theorem clean_append {t s : String} {z : List Char} {c : Char} (ht : t.toList = z ++ [c])
    (hc : ¬ c ≤ ' ') (hs : ∀ d ∈ s.toList, ¬ d ≤ ' ') :
    clean (t ++ s) = clean t ++ s.toList ∧ (clean t).getLast? = some c := by
  have hlast : ∀ d ∈ [c], ¬ d ≤ ' ' := by simpa using hc
  have hwhole : (t ++ s).toList = z ++ ([c] ++ s.toList) := by
    rw [String.toList_append, ht, List.append_assoc]
  rw [clean_of_append ht (by simp) hlast, clean_of_append hwhole (by simp) (by
    intro d hd
    rcases List.mem_append.1 hd with hd | hd
    · exact hlast d hd
    · exact hs d hd), List.append_assoc]
  simp

/-- A scheme stays in front of what is written behind it. -/
theorem splitScheme?_append {t r : List Char} {scheme : String}
    (h : splitScheme? t = some (scheme, r)) :
    r <:+ t ∧ ∀ s, splitScheme? (t ++ s) = some (scheme, r ++ s) := by
  unfold splitScheme? at h
  simp only at h
  split at h
  · next r' hrest =>
      split at h
      · next halpha =>
          cases h
          refine ⟨?_, fun s => ?_⟩
          · exact (List.suffix_cons ':' r).trans (hrest ▸ List.dropWhile_suffix _)
          · obtain ⟨htake, hdrop⟩ := span_append (p := isSchemeChar) (l := t)
              (by rw [hrest]; exact List.cons_ne_nil ':' r) s
            rw [hrest] at hdrop
            unfold splitScheme?
            simp only [htake, hdrop, List.cons_append, halpha, if_true]
      · cases h
  · cases h

/-- The URL that a clean text writes. -/
def readClean (s : List Char) : Except ParseError Url :=
  match splitScheme? s with
  | some (scheme, r) => afterScheme none scheme r
  | none => .error .relativeWithoutBase

theorem parse_eq_readClean (text : String) : parse text = readClean (clean text) := by
  cases hscheme : splitScheme? (clean text) <;>
    simp only [parse, parseWith, readClean, hscheme]

/-- **A clean text leads into a path**, if it is read as a URL that ends in one. -/
theorem leadsInto_readClean {r : List Char} {u : Url} (h : readClean r = .ok u)
    (hu : u.EndsInPath) : ∃ kind y make, LeadsInto readClean r kind y make := by
  cases hscheme : splitScheme? r with
  | none =>
      rw [readClean, hscheme] at h
      cases h
  | some pair =>
      obtain ⟨scheme, t⟩ := pair
      obtain ⟨hsuffix, hmore⟩ := splitScheme?_append hscheme
      rw [readClean, hscheme] at h
      obtain ⟨kind, y, make, hleads⟩ := leadsInto_afterScheme h hu
      exact ⟨kind, y, make, hleads.of_eq hsuffix fun s _ => by rw [readClean, hmore s]⟩

/-! ### Writing on -/

/-- **What may be written behind a path** and is kept there: characters that a path keeps, slashes, and
no segments of dots. -/
structure IsSafe (w : List Char) : Prop where
  char : ∀ c ∈ w, c = '/' ∨ isPlainChar c = true
  backslash : '\\' ∉ w
  dots : ∀ kind, ∀ p ∈ splitSegments kind w, (plainDots p).head? ≠ some '.'

theorem IsSafe.isKept {w : List Char} (h : IsSafe w) {p : List Char}
    (hp : p ∈ splitSegments kind w) : IsKept p where
  dot := by
    intro heq
    exact h.dots kind p hp (by rw [heq]; rfl)
  dots := by
    intro heq
    exact h.dots kind p hp (by rw [heq]; rfl)
  text := by
    refine encodeWith_of_isPlainChar fun c hc => ?_
    have hmem := (infix_of_mem_splitSegments hp).subset hc
    have hslash := isSlash_of_mem_splitSegments hp c hc
    refine (h.char c hmem).resolve_left ?_
    rintro rfl
    simp [isSlash] at hslash

theorem IsSafe.ne {w : List Char} (h : IsSafe w) : ∀ c ∈ w, ¬ c ≤ ' ' ∧ endsPath c = false := by
  intro c hc
  rcases h.char c hc with rfl | hplain
  · decide
  · exact isPlainChar_ne hplain

/-- The segments that are read are plain. -/
theorem exists_segments_of_parse {t : String} {u : Url} (h : parse t = .ok u) (hu : u.EndsInPath) :
    ∃ list, u.location = .segments list ∧ ∀ s ∈ list, IsPlainText s := by
  rw [parse_eq_readClean] at h
  obtain ⟨kind, y, make, hleads⟩ := leadsInto_readClean h hu
  rw [hleads.eq_make h, hleads.location, pathFrom_eq]
  exact ⟨_, rfl, isPlainText_pathFrom (pathFrom_eq [] y)⟩

/-- The text of a path with one segment and further ones behind it. -/
theorem toText_segments (s : String) {w : List Char} (hw : IsSafe w) :
    (Path.segments (s :: (splitSegments kind w).map String.ofList)).toText
      = "/" ++ s ++ "/" ++ String.ofList w := by
  have hback : ∀ c ∈ w, endsPath c = false ∧ c ≠ '\\' := by
    intro c hc
    refine ⟨(hw.ne c hc).2, ?_⟩
    rintro rfl
    exact hw.backslash hc
  have hsegments : ((splitSegments kind w).flatMap fun s => '/' :: s) = '/' :: w :=
    join_splitSegments hback
  apply String.toList_inj.1
  rw [toList_toText]
  simp [List.flatMap_map, hsegments]

/-- **What is written behind a path with one segment**, and behind the slash at its end or with one in
front, gives that segment and its own. -/
theorem LeadsInto.write {read : List Char → Except ParseError Url} {r y : List Char}
    {make : Path → Url} (hleads : LeadsInto read r kind y make) {c : Char}
    (hlast : r.getLast? = some c) {s : String} (hs : s ≠ "") {separator w : List Char}
    (hw : IsSafe w) (hform : pathFrom kind [] y = .segments [s] ∧ separator = ['/']
      ∨ pathFrom kind [] y = .segments [s, ""] ∧ c = '/' ∧ separator = []) :
    read (r ++ (separator ++ w))
      = .ok (make (.segments (s :: (splitSegments kind w).map String.ofList))) := by
  have hkept : ∀ p ∈ splitSegments kind w, IsKept p := fun p hp => hw.isKept hp
  have hends : ∀ d ∈ w, endsPath d = false := fun d hd => (hw.ne d hd).2
  rcases hform with ⟨hone, rfl⟩ | ⟨htwo, rfl, rfl⟩
  · have hcontinues : Continues r ('/' :: w) :=
      ⟨List.forall_mem_cons.2 ⟨by decide, hends⟩, Or.inr (Or.inl rfl)⟩
    have hwalked := walked_of_segment hs hone
    rw [List.singleton_append, hleads.read _ hcontinues, pathFrom_append hleads.inPath hs hwalked hkept]
  · -- the slash at the end is the last character of what is read as the path
    obtain ⟨y', hy⟩ : ∃ y', y = y' ++ ['/'] := by
      obtain ⟨front, rfl⟩ := hleads.suffix
      rw [List.getLast?_append, List.getLast?_eq_some_getLast hleads.ne_nil, Option.some_or] at hlast
      refine ⟨y.dropLast, ?_⟩
      rw [← Option.some.inj hlast, List.dropLast_concat_getLast]
    have hin : ∀ d ∈ y', endsPath d = false := by
      intro d hd
      refine hleads.inPath d ?_
      rw [hy]
      exact List.mem_append_left _ hd
    have hwalked := walked_of_slash hin hs (hy ▸ htwo)
    have hcontinues : Continues r w := ⟨hends, Or.inr (Or.inr hlast)⟩
    have hpath : y ++ w = y' ++ '/' :: w := by rw [hy, List.append_assoc, List.singleton_append]
    rw [List.nil_append, hleads.read _ hcontinues, hpath, pathFrom_append hin hs hwalked hkept]

/-- **A URL that ends in a path with one segment is written on**: behind the slash at its end, or one
that is put there, safe characters go into its path and change nothing else. -/
theorem parse_append {t : String} {u : Url} (h : parse t = .ok u) (hu : u.EndsInPath)
    {front : List Char} {c : Char} (ht : t.toList = front ++ [c]) (hc : ¬ c ≤ ' ') {s : String}
    (hs : s ≠ "") {w : List Char} (hw : IsSafe w) {separator : String}
    (hform : u.location = .segments [s] ∧ separator = "/"
      ∨ u.location = .segments [s, ""] ∧ c = '/' ∧ separator = "") :
    ∃ url, parse (t ++ (separator ++ String.ofList w)) = .ok url
      ∧ url = { u with location := url.location }
      ∧ url.path = "/" ++ s ++ "/" ++ String.ofList w := by
  rw [parse_eq_readClean] at h
  obtain ⟨kind, y, make, hleads⟩ := leadsInto_readClean h hu
  obtain rfl := hleads.eq_make h
  rw [hleads.location] at hform
  have hblank : ∀ d ∈ (separator ++ String.ofList w).toList, ¬ d ≤ ' ' := by
    rw [String.toList_append, String.toList_ofList]
    refine List.forall_mem_append.2 ⟨?_, fun d hd => (hw.ne d hd).1⟩
    rcases hform with ⟨-, rfl⟩ | ⟨-, -, rfl⟩
    · exact List.forall_mem_singleton.2 (by decide)
    · exact fun d hd => by cases hd
  obtain ⟨hclean, hlast⟩ := clean_append ht hc hblank
  have hread : readClean (clean (t ++ (separator ++ String.ofList w)))
      = .ok (make (.segments (s :: (splitSegments kind w).map String.ofList))) := by
    rw [hclean, String.toList_append, String.toList_ofList]
    refine hleads.write hlast hs hw (hform.imp ?_ ?_)
    · rintro ⟨hone, rfl⟩
      exact ⟨hone, rfl⟩
    · rintro ⟨htwo, hslash, rfl⟩
      exact ⟨htwo, hslash, rfl⟩
  obtain ⟨q, hq⟩ : ∃ q, pathFrom kind [] y = .segments (s :: q) :=
    hform.elim (fun hone => ⟨_, hone.1⟩) fun htwo => ⟨_, htwo.1⟩
  refine ⟨make (.segments (s :: (splitSegments kind w).map String.ofList)), ?_, ?_, ?_⟩
  · rw [parse_eq_readClean, hread]
  · rw [hq, hleads.location]
    exact hleads.first _ _ _
  · rw [path, hleads.location]
    exact toText_segments s hw

end Url

end RevocationLab
