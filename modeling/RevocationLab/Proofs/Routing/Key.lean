/-
**Keys and the paths that start with them.**

A key is its own key, and a path has it as its key exactly if the path starts with it: the segment has
no slash, so that nothing in the path can end it earlier or later.  Seen as octets the key ends after
the second octet that is a slash, since no longer character has such an octet in it; that place lies
inside the text and between two of its characters.

Main definitions:

* `Routing.keyEnd?` — where the key of a path ends, by a scan of its octets.

Main results:

* `Routing.key?_eq_some_iff` — the paths with a key;
* `Routing.key?_eq_some_iff_starts` — **a path has a key exactly if it starts with it**;
* `Routing.append_remainder` — the key and what follows it are the path;
* `Routing.keyEnd?_ofText` — **the scan finds the end of the key**;
* `Routing.isValid_of_keyEnd?` — the end of the key lies between two characters.
-/

import RevocationLab.Proofs.Text.Utf8
import RevocationLab.Routing.Key

set_option autoImplicit false

namespace RevocationLab

namespace Routing

variable {path key : String}

/-! ### Paths with a key -/

theorem key?_eq_some_iff :
    key? path = some key ↔ ∃ s r : List Char,
      path.toList = '/' :: s ++ '/' :: r ∧ '/' ∉ s ∧ key.toList = '/' :: s ++ ['/'] := by
  rw [key?, Option.map_eq_some_iff]
  constructor
  · rintro ⟨⟨s, r⟩, hspan, rfl⟩
    obtain ⟨hpath, hs⟩ := keySpan_eq_some_iff.1 hspan
    exact ⟨s, r, hpath, hs, String.toList_ofList⟩
  · rintro ⟨s, r, hpath, hs, hkey⟩
    refine ⟨(s, r), keySpan_eq_some_iff.2 ⟨hpath, hs⟩, ?_⟩
    rw [← hkey, String.ofList_toList]

/-- A path that starts with a key has that key. -/
theorem key?_of_starts (hkey : key? key = some key) (h : key.toList <+: path.toList) :
    key? path = some key := by
  obtain ⟨s, -, -, hs, hform⟩ := key?_eq_some_iff.1 hkey
  obtain ⟨r, hr⟩ := h
  refine key?_eq_some_iff.2 ⟨s, r, ?_, hs, hform⟩
  rw [← hr, hform, List.append_assoc]
  rfl

/-- A path starts with its key. -/
theorem starts_of_key? (h : key? path = some key) : key.toList <+: path.toList := by
  obtain ⟨s, r, hpath, -, hkey⟩ := key?_eq_some_iff.1 h
  refine ⟨r, ?_⟩
  rw [hpath, hkey, List.append_assoc]
  rfl

/-- **A path has a key exactly if it starts with it.** -/
theorem key?_eq_some_iff_starts (hkey : key? key = some key) :
    key? path = some key ↔ key.toList <+: path.toList :=
  ⟨starts_of_key?, key?_of_starts hkey⟩

/-- A key that can be registered is its own key. -/
theorem key?_of_isKey (h : isKey key = true) : key? key = some key := by
  obtain ⟨s, hkey, -, hs⟩ := isKey_iff.1 h
  exact key?_eq_some_iff.2 ⟨s, [], hkey, hs, hkey⟩

/-! ### What follows a key -/

/-- The key and what follows it are the path. -/
theorem append_remainder (h : key.toList <+: path.toList) : key ++ remainder path key = path := by
  rw [remainder, if_pos (List.isPrefixOf_iff_prefix.2 h)]
  apply String.toList_inj.1
  rw [String.toList_append, String.toList_ofList]
  exact (List.prefix_iff_eq_append.1 h)

theorem key?_append (hkey : key? key = some key) (s : String) : key? (key ++ s) = some key := by
  refine key?_of_starts hkey ?_
  rw [String.toList_append]
  exact List.prefix_append _ _

theorem remainder_append (key s : String) : remainder (key ++ s) key = s := by
  have hstarts : key.toList <+: (key ++ s).toList := by
    rw [String.toList_append]
    exact List.prefix_append _ _
  have hwhole := append_remainder hstarts
  apply String.toList_inj.1
  have hlist := congrArg String.toList hwhole
  rw [String.toList_append, String.toList_append] at hlist
  exact List.append_cancel_left hlist

/-! ### Keys as octets -/

/-- Where the key of a path ends: after the second of its octets that is a slash, if the first octet of
the path is one. -/
def keyEnd? : Octets → Option Nat
  | [] => none
  | b :: r => if b = 0x2f then (r.findIdx? (· == 0x2f)).map (· + 2) else none

/-- Only a slash has the octet of a slash in it. -/
theorem eq_slash_of_mem {c : Char} (h : 0x2f ∈ String.utf8EncodeChar c) : c = '/' := by
  have hnat := Octets.eq_of_mem_utf8EncodeChar h (by decide)
  exact Char.toNat_inj.1 hnat

/-- Characters that are no slash have no octet of a slash in them. -/
theorem findIdx?_slash_eq_none {s : List Char} (hs : '/' ∉ s) :
    (s.flatMap String.utf8EncodeChar).findIdx? (· == 0x2f) = none := by
  rw [List.findIdx?_eq_none_iff]
  intro b hb
  obtain ⟨c, hc, hmem⟩ := List.mem_flatMap.1 hb
  refine beq_eq_false_iff_ne.2 ?_
  rintro rfl
  exact hs (eq_slash_of_mem hmem ▸ hc)

/-- The first octet of a slash is that of the first slash. -/
theorem findIdx?_slash {s : List Char} (hs : '/' ∉ s) (r : List Char) :
    ((s ++ '/' :: r).flatMap String.utf8EncodeChar).findIdx? (· == 0x2f)
      = some (s.flatMap String.utf8EncodeChar).length := by
  have hslash : String.utf8EncodeChar '/' = [0x2f] := by decide
  rw [List.flatMap_append, List.flatMap_cons, hslash, List.findIdx?_append,
    findIdx?_slash_eq_none hs, List.singleton_append, List.findIdx?_cons]
  simp

theorem splitSlash_eq_none {p : List Char} (h : splitSlash p = none) : '/' ∉ p := by
  induction p with
  | nil => simp
  | cons c p ih =>
      rw [splitSlash] at h
      split at h
      · simp at h
      · next hc =>
          have hp := ih (by simpa using h)
          simp only [List.mem_cons, not_or]
          exact ⟨fun heq => hc heq.symm, hp⟩

/-- **The scan finds the end of the key**, and finds none where there is no key. -/
theorem keyEnd?_ofText (path : String) :
    keyEnd? (Octets.ofText path) = (key? path).map String.utf8ByteSize := by
  have hslash : String.utf8EncodeChar '/' = [0x2f] := by decide
  rw [Octets.ofText, key?]
  cases hp : path.toList with
  | nil => rfl
  | cons c p =>
      by_cases hc : c = '/'
      · subst hc
        rw [List.flatMap_cons, hslash]
        simp only [List.cons_append, List.nil_append, keyEnd?, if_true, keySpan]
        cases hspan : splitSlash p with
        | none =>
            rw [findIdx?_slash_eq_none (splitSlash_eq_none hspan)]
            rfl
        | some span =>
            obtain ⟨s, r⟩ := span
            obtain ⟨rfl, hs⟩ := splitSlash_eq_some_iff.1 hspan
            have hsize : (String.ofList ('/' :: s ++ ['/'])).utf8ByteSize
                = (s.flatMap String.utf8EncodeChar).length + 2 := by
              rw [← Octets.length_ofText, Octets.ofText_ofList, List.flatMap_append,
                List.flatMap_cons, List.flatMap_singleton, hslash, List.length_append,
                List.length_append]
              simp only [List.length_singleton]
              omega
            rw [findIdx?_slash hs]
            exact congrArg some hsize.symm
      · -- the first octet belongs to another character
        have hnone : keySpan (c :: p) = none := by
          unfold keySpan
          split
          · next heq => exact absurd (List.cons.inj heq).1 hc
          · rfl
        rw [hnone, List.flatMap_cons]
        cases hoctets : String.utf8EncodeChar c with
        | nil => exact absurd hoctets String.utf8EncodeChar_ne_nil
        | cons b bs =>
            have hb : b ≠ 0x2f := by
              rintro rfl
              exact hc (eq_slash_of_mem (hoctets ▸ List.mem_cons_self))
            simp [keyEnd?, hb]

/-- The segment of this path has one character and two octets. -/
example : keyEnd? (Octets.ofText "/é/x") = some 4 := by decide

/-- The end of a key lies inside the path and between two of its characters, and the octets up to there
are the key. -/
theorem isValid_of_keyEnd? {n : Nat} (h : keyEnd? (Octets.ofText path) = some n) :
    n ≤ path.utf8ByteSize ∧ String.Pos.Raw.IsValid path ⟨n⟩
      ∧ ∃ key, key? path = some key ∧ (Octets.ofText path).take n = Octets.ofText key := by
  rw [keyEnd?_ofText, Option.map_eq_some_iff] at h
  obtain ⟨key, hkey, rfl⟩ := h
  have hwhole := append_remainder (starts_of_key? hkey)
  have hsize : path.utf8ByteSize = key.utf8ByteSize + (remainder path key).utf8ByteSize := by
    rw [← String.utf8ByteSize_append, hwhole]
  have hoctets : Octets.ofText path = Octets.ofText key ++ Octets.ofText (remainder path key) := by
    rw [← Octets.ofText_append, hwhole]
  refine ⟨by omega, ?_, key, hkey, ?_⟩
  · exact String.Pos.Raw.isValid_iff_exists_append.2 ⟨key, remainder path key, hwhole.symm, rfl⟩
  · rw [hoctets, ← Octets.length_ofText key, List.take_left]

end Routing

end RevocationLab
