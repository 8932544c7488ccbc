/-
**Common names.**

A common name is put behind its key and read as the text of a name.  Nothing in it is escaped, so that
it comes out as the one attribute that it was meant to be exactly if the reading leaves it alone: it
holds no comma and no plus sign, which would start further attributes, no backslash, which would take
what follows it away, and no number sign in front, which would make it the octets of an element.

Main definitions:

* `X509.Name.single` — the name that holds one common name and nothing else;
* `X509.IsPlain` — **the common names that stand for themselves**.

Main results:

* `X509.parts_eq_singleton_iff` — a text without escapes is in one part if it has no separator;
* `X509.unescape?_eq_octets_iff` — undoing escapes changes every text that holds one;
* `X509.Name.ofCommonName?_eq_single_iff` — **a common name comes out as itself exactly if it is
  plain**;
* `X509.Name.eq_of_encode` — the encoding of a readable name determines it.
-/

import RevocationLab.Proofs.Der.Canonical
import RevocationLab.Proofs.Text.Utf8
import RevocationLab.Proofs.X509.Name

set_option autoImplicit false

namespace RevocationLab

namespace Octets

/-- The octets of a text determine it. -/
theorem eq_of_ofText {s t : String} (h : ofText s = ofText t) : s = t := by
  have hbytes : ∀ s : String, s.toByteArray = (ofText s).toByteArray := by
    intro s
    have hlist : (String.ofList s.toList).toByteArray = s.toList.utf8Encode :=
      String.toByteArray_ofList
    rw [String.ofList_toList] at hlist
    rw [hlist, List.utf8Encode, ofText]
  apply String.toByteArray_inj.1
  rw [hbytes, hbytes, h]

/-- Two digits make an octet. -/
theorem length_of_ofHexChars? {s : List Char} {b : Octets} (h : ofHexChars? s = some b) :
    s.length = 2 * b.length := by
  induction s using ofHexChars?.induct generalizing b with
  | case1 =>
      cases h
      rfl
  | case2 => cases h
  | case3 c d r ih =>
      simp only [ofHexChars?, Option.bind_eq_bind, Option.bind_eq_some_iff, Option.pure_def,
        Option.some.injEq] at h
      obtain ⟨-, -, -, -, rest, hrest, rfl⟩ := h
      have hlength := ih hrest
      simp only [List.length_cons]
      omega

/-- A character in front makes a text longer. -/
theorem length_succ_le_cons (c : Char) (s : List Char) :
    (s.flatMap String.utf8EncodeChar).length + 1
      ≤ ((c :: s).flatMap String.utf8EncodeChar).length := by
  have hc := List.length_pos_iff.2 (String.utf8EncodeChar_ne_nil (c := c))
  rw [List.flatMap_cons, List.length_append]
  omega

/-- A text has as many octets as characters at least. -/
theorem length_le_flatMap (s : List Char) :
    s.length ≤ (s.flatMap String.utf8EncodeChar).length := by
  induction s with
  | nil => exact Nat.le_refl _
  | cons c s ih =>
      have hcons := length_succ_le_cons c s
      simp only [List.length_cons]
      omega

end Octets

namespace X509

open Der

/-! ### Parts -/

theorem splitParts_ne_nil (separator earlier last : Char) (s : List Char) :
    splitParts separator earlier last s ≠ [] := by
  cases s with
  | nil => simp [splitParts]
  | cons c r =>
      rw [splitParts]
      split
      · simp
      · split <;> simp

/-- A text without separators is in one part. -/
theorem splitParts_of_not_mem {separator : Char} {s : List Char} (h : separator ∉ s)
    (earlier last : Char) : splitParts separator earlier last s = [s] := by
  induction s generalizing earlier last with
  | nil => rfl
  | cons c r ih =>
      have hc : c ≠ separator := fun heq => h (heq ▸ List.mem_cons_self)
      have hr := ih (fun hmem => h (List.mem_cons_of_mem c hmem)) last c
      rw [splitParts, hr, if_neg fun hsep => hc hsep.1]

/-- A text that is in one part is that part, and has no separator unless it has a backslash. -/
theorem of_splitParts_eq_singleton {separator earlier last : Char} {s p : List Char}
    (h : splitParts separator earlier last s = [p]) :
    p = s ∧ (last ≠ '\\' → '\\' ∉ s → separator ∉ s) := by
  induction s generalizing earlier last p with
  | nil =>
      cases h
      exact ⟨rfl, fun _ _ => List.not_mem_nil⟩
  | cons c r ih =>
      rw [splitParts] at h
      split at h
      · -- a separator makes two parts at least
        have hnil := (List.cons.inj h).2
        exact absurd hnil (splitParts_ne_nil separator last c r)
      · next hsep =>
          split at h
          · next hnil => exact absurd hnil (splitParts_ne_nil separator last c r)
          · next q ps hparts =>
              cases h
              obtain ⟨rfl, hnot⟩ := ih hparts
              refine ⟨rfl, fun hlast hback => ?_⟩
              simp only [List.mem_cons, not_or] at hback ⊢
              have hc : c ≠ separator := fun heq => hsep ⟨heq, Or.inl hlast⟩
              exact ⟨hc.symm, hnot (Ne.symm hback.1) hback.2⟩

/-- **A text without backslashes is in one part exactly if it has no separator.** -/
theorem parts_eq_singleton_iff {separator : Char} {s : List Char} (h : '\\' ∉ s) :
    parts separator s = [s] ↔ separator ∉ s := by
  refine ⟨fun hparts => ?_, fun hsep => splitParts_of_not_mem hsep _ _⟩
  exact (of_splitParts_eq_singleton hparts).2 (by decide) h

/-! ### Escapes -/

/-- A text without backslashes has no escapes. -/
theorem unescape?_of_not_mem {s : List Char} (h : '\\' ∉ s) :
    unescape? s = some (s.flatMap String.utf8EncodeChar) := by
  induction s with
  | nil => rfl
  | cons c r ih =>
      have hc : c ≠ '\\' := fun heq => h (heq ▸ List.mem_cons_self)
      have hr := ih fun hmem => h (List.mem_cons_of_mem c hmem)
      rw [unescape?, if_neg hc, hr]
      · rfl
      · rintro d r' heq
        exact absurd heq hc

/-- Undoing escapes makes no text longer, and makes one with a backslash shorter. -/
theorem length_of_unescape? {s : List Char} {b : Octets} (h : unescape? s = some b) :
    b.length ≤ (s.flatMap String.utf8EncodeChar).length
      ∧ ('\\' ∈ s → b.length < (s.flatMap String.utf8EncodeChar).length) := by
  induction s using unescape?.induct generalizing b with
  | case1 =>
      cases h
      exact ⟨Nat.le_refl _, fun hmem => absurd hmem List.not_mem_nil⟩
  | case2 c r hc ih =>
      simp only [unescape?, hc, if_true, Option.bind_eq_bind, Option.bind_eq_some_iff,
        Option.pure_def, Option.some.injEq] at h
      obtain ⟨rest, hrest, rfl⟩ := h
      have hlength := (ih hrest).1
      have hfirst := Octets.length_succ_le_cons c r
      have hsecond := Octets.length_succ_le_cons '\\' (c :: r)
      simp only [List.length_cons]
      omega
  | case3 c r hc ih =>
      have hfirst := Octets.length_succ_le_cons c r
      have hsecond := Octets.length_succ_le_cons '\\' (c :: r)
      rw [unescape?, if_neg hc] at h
      obtain ⟨high, -, h⟩ := Option.bind_eq_some_iff.1 h
      cases r with
      | nil =>
          cases h
          simp only [List.length_nil]
          omega
      | cons d r =>
          obtain ⟨low, -, h⟩ := Option.bind_eq_some_iff.1 h
          obtain ⟨rest, hrest, h⟩ := Option.bind_eq_some_iff.1 h
          cases h
          have hlength := (ih hrest).1
          have hthird := Octets.length_succ_le_cons d r
          simp only [List.length_cons]
          omega
  | case4 r hr =>
      have hfirst := Octets.length_succ_le_cons '\\' r
      rw [unescape?, if_pos rfl] at h
      · cases h
        simp only [List.length_nil]
        omega
      · exact hr
  | case5 c r hr hc ih =>
      rw [unescape?, if_neg hc] at h
      · simp only [Option.bind_eq_bind, Option.bind_eq_some_iff, Option.pure_def,
          Option.some.injEq] at h
        obtain ⟨rest, hrest, rfl⟩ := h
        obtain ⟨hle, hlt⟩ := ih hrest
        simp only [List.flatMap_cons, List.length_append, List.mem_cons]
        refine ⟨by omega, ?_⟩
        rintro (rfl | hmem)
        · exact absurd rfl hc
        · have := hlt hmem
          omega
      · exact hr

/-- **Undoing escapes leaves a text alone exactly if it has no backslash.** -/
theorem unescape?_eq_octets_iff {s : List Char} :
    unescape? s = some (s.flatMap String.utf8EncodeChar) ↔ '\\' ∉ s := by
  refine ⟨fun h hmem => ?_, unescape?_of_not_mem⟩
  exact Nat.lt_irrefl _ ((length_of_unescape? h).2 hmem)

/-! ### Plain names -/

/-- The name that holds one common name, under some tag of text, and nothing else. -/
def Name.single (tag : Tag) (text : String) : Name :=
  [[⟨commonName, ⟨tag, Octets.ofText text⟩⟩]]

/-- **The common names that stand for themselves**: those without separators and backslashes, and with
no number sign in front. -/
def IsPlain (text : String) : Prop :=
  ',' ∉ text.toList ∧ '+' ∉ text.toList ∧ '\\' ∉ text.toList ∧ text.toList.head? ≠ some '#'

instance (text : String) : Decidable (IsPlain text) :=
  inferInstanceAs (Decidable (_ ∧ _ ∧ _ ∧ _))

/-- The key of common names is known. -/
theorem kindOfName?_cn : kindOfName? ['C', 'N'] = some commonName := by
  decide +kernel

/-- An attribute behind the key of common names has the value that is read. -/
theorem Attribute.ofText?_cn (s : List Char) :
    Attribute.ofText? ('C' :: 'N' :: '=' :: s)
      = (value? commonName s).map fun v => ⟨commonName, v⟩ := by
  have hkey : ('C' :: 'N' :: '=' :: s).takeWhile (· != '=') = ['C', 'N'] := rfl
  have hvalue : ('C' :: 'N' :: '=' :: s).dropWhile (· != '=') = '=' :: s := rfl
  have hkind : ∀ o : Option ObjectId, (some commonName <|> o) = some commonName := fun _ => rfl
  simp only [Attribute.ofText?, hkey, hvalue, kindOfName?_cn, hkind, Option.bind_eq_bind,
    Option.bind_some]
  cases value? commonName s <;> rfl

/-- A text without a number sign in front is read by undoing its escapes. -/
theorem value?_of_ne {s : List Char} (h : s.head? ≠ some '#') :
    value? commonName s = (unescape? s).map fun b => ⟨Tag.utf8String, b⟩ := by
  have htag : textTag commonName = Tag.utf8String := by decide
  rw [value?, htag]
  · cases unescape? s <;> rfl
  · rintro r rfl
    exact h rfl

/-- What is read behind a number sign has half as many octets as there are digits at most. -/
theorem length_of_value?_hash {r : List Char} {v : Element}
    (h : value? commonName ('#' :: r) = some v) : 2 * v.content.length ≤ r.length := by
  simp only [value?, Option.bind_eq_bind, Option.bind_eq_some_iff] at h
  obtain ⟨octets, hoctets, helement⟩ := h
  have hwhole := (Decoder.decode?_eq_some_iff.1 helement).2
  obtain ⟨hencode, -⟩ := Decoder.Canonical.any _ _ _ (Decoder.whole_eq_some_iff.1 hwhole)
  have hcontent : v.content.length ≤ octets.length := by
    rw [hencode, List.append_nil]
    exact content_length_le (Nat.le_refl _)
  have hdigits := Octets.length_of_ofHexChars? hoctets
  omega

/-- **A value is the text that writes it** exactly if nothing in the text is special. -/
theorem value?_eq_text_iff {s : List Char} {tag : Tag} :
    value? commonName s = some ⟨tag, s.flatMap String.utf8EncodeChar⟩
      ↔ tag = Tag.utf8String ∧ '\\' ∉ s ∧ s.head? ≠ some '#' := by
  by_cases hhead : s.head? = some '#'
  · refine ⟨fun h => ?_, fun h => absurd hhead h.2.2⟩
    obtain ⟨r, rfl⟩ : ∃ r, s = '#' :: r := List.head?_eq_some_iff.1 hhead
    -- the octets of an element are fewer than the digits that write them
    have hdigits : 2 * (('#' :: r).flatMap String.utf8EncodeChar).length ≤ r.length :=
      length_of_value?_hash h
    have htext := Octets.length_le_flatMap ('#' :: r)
    rw [List.length_cons] at htext
    omega
  · rw [value?_of_ne hhead, ← unescape?_eq_octets_iff]
    constructor
    · intro h
      obtain ⟨b, hb, heq⟩ := Option.map_eq_some_iff.1 h
      cases heq
      exact ⟨rfl, hb, hhead⟩
    · rintro ⟨rfl, hb, -⟩
      rw [hb]
      rfl

/-! ### Names of one attribute -/

/-- A list that reads as one thing has one member. -/
theorem mapM_eq_singleton_iff {α β : Type} {read : α → Option β} {xs : List α} {y : β} :
    xs.mapM read = some [y] ↔ ∃ x, xs = [x] ∧ read x = some y := by
  constructor
  · intro h
    match xs with
    | [] => cases h
    | [x] =>
        rw [List.mapM_cons] at h
        obtain ⟨z, hz, h⟩ := Option.bind_eq_some_iff.1 h
        cases h
        exact ⟨x, rfl, hz⟩
    | x :: x' :: xs =>
        simp only [List.mapM_cons, Option.bind_eq_bind, Option.bind_eq_some_iff, Option.pure_def,
          Option.some.injEq] at h
        obtain ⟨z, -, zs, ⟨z', -, zs', -, rfl⟩, h⟩ := h
        cases h
  · rintro ⟨x, rfl, hx⟩
    rw [List.mapM_cons, hx]
    rfl

/-- A text that reads as one thing between separators is in one part. -/
theorem mapM_parts_eq_singleton_iff {α : Type} {read : List Char → Option α} {separator : Char}
    {s : List Char} {x : α} :
    (parts separator s).mapM read = some [x] ↔ parts separator s = [s] ∧ read s = some x := by
  rw [mapM_eq_singleton_iff]
  constructor
  · rintro ⟨p, hp, hread⟩
    obtain ⟨rfl, -⟩ := of_splitParts_eq_singleton hp
    exact ⟨hp, hread⟩
  · rintro ⟨hs, hread⟩
    exact ⟨s, hs, hread⟩

/-- Putting a set in order keeps its size. -/
theorem RelativeName.length_of_sorted? {attributes : List Attribute} {r : RelativeName}
    (h : sorted? attributes = some r) : r.length = attributes.length := by
  simp only [sorted?] at h
  split at h
  · cases h
  · cases h
    rw [foldr_insert, List.length_insertionSort]

/-- A set of one attribute comes from that attribute only. -/
theorem RelativeName.sorted?_eq_singleton_iff {attributes : List Attribute} {a : Attribute} :
    sorted? attributes = some [a] ↔ attributes = [a] := by
  constructor
  · intro h
    obtain ⟨b, rfl⟩ := List.length_eq_one_iff.1 (length_of_sorted? h).symm
    cases h
    rfl
  · rintro rfl
    rfl

/-- **A text writes a name of one attribute** exactly if it is in one part and writes the
attribute. -/
theorem Name.ofText?_eq_singleton_iff {s : String} {a : Attribute} :
    Name.ofText? s = some [[a]] ↔ parts ',' s.toList = [s.toList]
      ∧ parts '+' s.toList = [s.toList] ∧ Attribute.ofText? s.toList = some a := by
  have hset : RelativeName.ofText? s.toList = some [a] ↔ parts '+' s.toList = [s.toList]
      ∧ Attribute.ofText? s.toList = some a := by
    rw [RelativeName.ofText?, Option.bind_eq_bind, Option.bind_eq_some_iff,
      ← mapM_parts_eq_singleton_iff]
    simp only [RelativeName.sorted?_eq_singleton_iff, exists_eq_right]
  rw [← hset, ← mapM_parts_eq_singleton_iff, Name.ofText?, Option.map_eq_map,
    Option.map_eq_some_iff]
  constructor
  · rintro ⟨sets, hsets, hreverse⟩
    rw [List.reverse_eq_iff] at hreverse
    rw [hsets, hreverse]
    rfl
  · intro h
    exact ⟨_, h, rfl⟩

/-- **A common name comes out as itself** exactly if it is plain, and is then a UTF8String. -/
theorem Name.ofCommonName?_eq_single_iff {text : String} {tag : Tag} :
    Name.ofCommonName? text = some (single tag text) ↔ tag = Tag.utf8String ∧ IsPlain text := by
  have hlist : ("CN=" ++ text).toList = 'C' :: 'N' :: '=' :: text.toList := by
    rw [String.toList_append]
    rfl
  have hvalue : Attribute.ofText? ('C' :: 'N' :: '=' :: text.toList)
        = some ⟨commonName, ⟨tag, Octets.ofText text⟩⟩
      ↔ tag = Tag.utf8String ∧ '\\' ∉ text.toList ∧ text.toList.head? ≠ some '#' := by
    rw [Attribute.ofText?_cn, ← value?_eq_text_iff, Option.map_eq_some_iff]
    simp [Octets.ofText]
  rw [ofCommonName?, single, ofText?_eq_singleton_iff, hlist, hvalue]
  by_cases hback : '\\' ∈ text.toList
  · simp [IsPlain, hback]
  · have hkey : ∀ c, c ≠ 'C' → c ≠ 'N' → c ≠ '=' →
        (c ∉ 'C' :: 'N' :: '=' :: text.toList ↔ c ∉ text.toList) := by
      intro c hC hN heq
      simp only [List.mem_cons, hC, hN, heq, false_or]
    have hnone := (hkey '\\' (by decide) (by decide) (by decide)).2 hback
    rw [parts_eq_singleton_iff hnone, parts_eq_singleton_iff hnone,
      hkey ',' (by decide) (by decide) (by decide), hkey '+' (by decide) (by decide) (by decide),
      IsPlain]
    tauto

/-! ### Encodings of names -/

/-- **The encoding of a readable name in order determines it.** -/
theorem Name.eq_of_encode {m n : Name} (hm : m.IsOrdered) (hn : n.IsOrdered)
    (hmread : m.isReadable = true) (hnread : n.isReadable = true)
    (hlength : m.encode.length ≤ maxLength) (h : m.encode = n.encode) : m = n := by
  have hmback := (Name.readsBack hm hlength).decode? hlength
  have hnback := (Name.readsBack hn (h ▸ hlength)).decode? (h ▸ hlength)
  rw [hmread, h] at hmback
  rw [hnread, hmback] at hnback
  exact Option.some.inj hnback

theorem Name.isOrdered_single (tag : Tag) (text : String) : (single tag text).IsOrdered := by
  intro r hr
  obtain rfl := List.mem_singleton.1 hr
  rfl

theorem Name.isReadable_single (text : String) : (single Tag.utf8String text).isReadable = true := by
  have hkind : ObjectId.isReadable commonName.octets = true := by decide
  have htag : Tag.isKnown Tag.utf8String = true := by decide
  simp [isReadable, single, Attribute.isReadable, hkind, htag]

/-- Different common names are different names. -/
theorem Name.single_inj {tag tag' : Tag} {s t : String} :
    single tag s = single tag' t ↔ tag = tag' ∧ s = t := by
  constructor
  · intro h
    simp only [single, List.cons.injEq, Attribute.mk.injEq, Element.mk.injEq, and_true,
      true_and] at h
    exact ⟨h.1, Octets.eq_of_ofText h.2⟩
  · rintro ⟨rfl, rfl⟩
    rfl

end X509

end RevocationLab
