/-
**What is read is what is written.**

A canonical decoder takes exactly the octets that are written of the value it gives, so that a value is
found again by its octets.  Where a decoder drops what it read, another one may follow it over the same
string and keep the octets themselves.

Main definitions:

* `Der.Decoder.Yields` — what holds of every value that a decoder gives;
* `Der.Decoder.Canonical` — a decoder takes what is written of its value;
* `Der.Decoder.taken` — the octets that a decoder takes;
* `Der.Decoder.Follows` — one decoder takes the same octets as another and gives a function of its
  value.

Main results:

* `Der.Decoder.Canonical.inside`, `Der.Decoder.Canonical.reading` — elements;
* `Der.Decoder.Follows.taken` — **the octets that a canonical decoder takes are written of its value**;
* `Der.Decoder.Follows.bind`, `Der.Decoder.Follows.listOf` — decoders that are built alike.
-/

import RevocationLab.Proofs.Der.Decoder

set_option autoImplicit false

namespace RevocationLab

namespace Der

namespace Decoder

variable {α β γ δ : Type}

/-! ### What holds of the values -/

/-- Every value that the decoder gives has the property. -/
def Yields (d : Decoder α) (P : α → Prop) : Prop := ∀ b x rest, d.run b = some (x, rest) → P x

namespace Yields

variable {d : Decoder α} {P : α → Prop}

theorem of_forall (d : Decoder α) (h : ∀ x, P x) : Yields d P := fun _ x _ _ => h x

theorem pure {x : α} (h : P x) : Yields (Pure.pure x : Decoder α) P := by
  rintro b y rest hrun
  cases hrun
  exact h

theorem bind (h : Yields d P) {f : α → Decoder β} {Q : β → Prop}
    (hf : ∀ x, P x → Yields (f x) Q) : Yields (d >>= f) Q := by
  intro b y rest hrun
  simp only [run_bind, Option.bind_eq_some_iff, Prod.exists] at hrun
  obtain ⟨x, r, hx, hrun⟩ := hrun
  exact hf x (h b x r hx) r y rest hrun

theorem whole (h : Yields d P) {b : Octets} {x : α} (hb : whole d b = some x) : P x :=
  h b x [] (whole_eq_some_iff.1 hb)

theorem inside (h : Yields d P) (tag : Tag) : Yields (inside tag d) P := by
  refine (of_forall (content tag) fun _ => trivial : Yields _ fun _ => True).bind fun c _ => ?_
  intro b x rest hrun
  have hwithin : (within d c).run b = (Decoder.whole d c).map fun x => (x, b) := rfl
  simp only [hwithin, Option.map_eq_some_iff, Prod.mk.injEq] at hrun
  obtain ⟨y, hy, rfl, rfl⟩ := hrun
  exact h.whole hy

theorem manyUpTo (h : Yields d P) {fuel : Nat} {b : Octets} {xs : List α}
    (hb : manyUpTo d fuel b = some xs) : ∀ x ∈ xs, P x := by
  induction fuel generalizing b xs with
  | zero =>
      cases b with
      | nil =>
          cases hb
          simp
      | cons y r => cases hb
  | succ fuel ih =>
      by_cases hnil : b = []
      · subst hnil
        cases hb
        simp
      · simp only [manyUpTo_cons d fuel hnil, Option.bind_eq_some_iff, Option.map_eq_some_iff,
          Prod.exists] at hb
        obtain ⟨x, r, hx, xs, hxs, rfl⟩ := hb
        intro y hy
        rcases List.mem_cons.1 hy with rfl | hy
        · exact h b y r hx
        · exact ih hxs y hy

/-- Every value of a list has the property. -/
theorem listOf (h : Yields d P) : Yields (listOf d) fun xs => ∀ x ∈ xs, P x := by
  refine inside ?_ Tag.sequence
  intro b xs rest hrun
  have hmany : (many d).run b = (Decoder.manyUpTo d b.length b).map fun xs => (xs, []) := rfl
  simp only [hmany, Option.map_eq_some_iff, Prod.mk.injEq] at hrun
  obtain ⟨ys, hys, rfl, rfl⟩ := hrun
  exact h.manyUpTo hys

end Yields

/-! ### Canonical decoders -/

/-- What a decoder takes is what is written of the value, and the value is one that is read back. -/
def Canonical (d : Decoder α) (write : α → Octets) (ok : α → Bool) : Prop :=
  ∀ b x rest, d.run b = some (x, rest) → b = write x ++ rest ∧ ok x = true

namespace Canonical

theorem any : Canonical any Element.encode fun e => Tag.isKnown e.tag := by
  intro b e rest h
  obtain ⟨hb, ht, -⟩ := eq_of_readElement h
  exact ⟨hb, ht⟩

theorem content (tag : Tag) : Canonical (content tag) (element tag) fun _ => true := by
  intro b c rest h
  simp only [run_content, Option.bind_eq_some_iff, Prod.exists] at h
  obtain ⟨e, r, he, h⟩ := h
  split at h
  · next htag =>
      simp only [Option.some.injEq, Prod.mk.injEq] at h
      obtain ⟨rfl, rfl⟩ := h
      obtain ⟨hb, -, -⟩ := eq_of_readElement he
      subst htag
      exact ⟨hb, rfl⟩
  · cases h

/-- A content that a function reads is what is written if the function reads one form only. -/
theorem reading {tag : Tag} {read : Octets → Option α} {write : α → Octets} {ok : α → Bool}
    (h : ∀ c x, read c = some x → c = write x ∧ ok x = true) :
    Canonical (reading tag read) (fun x => element tag (write x)) ok := by
  intro b x rest hrun
  have hdef : (Decoder.reading tag read).run b
      = ((Decoder.content tag).run b).bind fun p => (read p.1).bind fun x => some (x, p.2) := rfl
  simp only [hdef, Option.bind_eq_some_iff, Prod.exists, Option.some.injEq, Prod.mk.injEq] at hrun
  obtain ⟨c, r, hc, y, hy, rfl, rfl⟩ := hrun
  obtain ⟨hb, -⟩ := content tag b c r hc
  obtain ⟨rfl, hok⟩ := h c y hy
  exact ⟨hb, hok⟩

/-- A value that fills an element is what is written if its content is. -/
theorem inside {tag : Tag} {d : Decoder α} {write : α → Octets} {ok : α → Bool}
    (h : ∀ c x, whole d c = some x → c = write x ∧ ok x = true) :
    Canonical (inside tag d) (fun x => element tag (write x)) ok := by
  intro b x rest hrun
  simp only [Decoder.inside, run_bind, Option.bind_eq_some_iff, Prod.exists] at hrun
  obtain ⟨c, r, hc, hrun⟩ := hrun
  have hwithin : (within d c).run r = (whole d c).map fun x => (x, r) := rfl
  simp only [hwithin, Option.map_eq_some_iff, Prod.mk.injEq] at hrun
  obtain ⟨y, hy, rfl, rfl⟩ := hrun
  obtain ⟨hb, -⟩ := content tag b c r hc
  obtain ⟨rfl, hok⟩ := h c y hy
  exact ⟨hb, hok⟩

theorem octetString : Canonical octetString Der.octetString fun _ => true := content Tag.octetString

/-- Any element at the end of a sequence, or nothing. -/
theorem optional_any : Canonical (optional (fun _ => true) Decoder.any)
    (fun o => (o.map Element.encode).getD []) fun o => o.all fun e => Tag.isKnown e.tag := by
  intro b o rest h
  cases b with
  | nil =>
      cases h
      exact ⟨rfl, rfl⟩
  | cons tag r =>
      cases ht : Tag.isKnown tag with
      | true =>
          rw [run_optional_cons ht, if_pos rfl] at h
          simp only [run_map, Option.map_eq_some_iff, Prod.mk.injEq, Prod.exists] at h
          obtain ⟨e, r', he, rfl, rfl⟩ := h
          exact any _ e r' he
      | false =>
          rw [run_optional_unknown _ ht] at h
          cases h

/-- One value after another. -/
theorem bind_run {d : Decoder α} {write : α → Octets} {ok : α → Bool} (h : Canonical d write ok)
    {f : α → Decoder β} {b : Octets} {y : β} {rest : Octets}
    (hrun : (d >>= f).run b = some (y, rest)) :
    ∃ x r, b = write x ++ r ∧ ok x = true ∧ (f x).run r = some (y, rest) := by
  simp only [run_bind, Option.bind_eq_some_iff, Prod.exists] at hrun
  obtain ⟨x, r, hx, hrun⟩ := hrun
  obtain ⟨hb, hok⟩ := h b x r hx
  exact ⟨x, r, hb, hok, hrun⟩

end Canonical

/-! ### The octets themselves -/

/-- The octets that a decoder takes. -/
def taken (d : Decoder α) : Decoder Octets := fun b =>
  (d.run b).map fun p => (b.take (b.length - p.2.length), p.2)

theorem run_taken (d : Decoder α) (b : Octets) :
    (taken d).run b = (d.run b).map fun p => (b.take (b.length - p.2.length), p.2) := rfl

/-- The octets of a value that reads back are taken as they are. -/
theorem ReadsBack.taken {d : Decoder α} {b : Octets} {x : α} {ok : Bool} (h : ReadsBack d b x ok) :
    ReadsBack (taken d) b b ok := by
  intro rest
  rw [run_taken, h rest]
  cases ok with
  | false => rfl
  | true => simp

/-! ### Decoders that are built alike -/

/-- Where `d` gives a value, `d'` takes the same octets and gives a function of that value. -/
def Follows (d : Decoder α) (d' : Decoder β) (f : α → β) : Prop :=
  ∀ b x rest, d.run b = some (x, rest) → d'.run b = some (f x, rest)

namespace Follows

variable {d : Decoder α} {d' : Decoder β} {f : α → β}

theorem self (d : Decoder α) : Follows d d id := fun _ _ _ h => h

theorem pure {x : α} {y : β} (h : f x = y) :
    Follows (Pure.pure x : Decoder α) (Pure.pure y : Decoder β) f := by
  rintro b x' rest hrun
  cases hrun
  subst h
  rfl

theorem bind (h : Follows d d' f) {g : α → Decoder γ} {g' : β → Decoder δ} {k : γ → δ}
    (hg : ∀ x, Follows (g x) (g' (f x)) k) : Follows (d >>= g) (d' >>= g') k := by
  intro b y rest hrun
  simp only [run_bind, Option.bind_eq_some_iff, Prod.exists] at hrun
  obtain ⟨x, r, hx, hrun⟩ := hrun
  rw [run_bind, h b x r hx]
  exact hg x r y rest hrun

theorem whole (h : Follows d d' f) {b : Octets} {x : α} (hb : whole d b = some x) :
    Decoder.whole d' b = some (f x) := by
  rw [whole_eq_some_iff] at hb ⊢
  exact h b x [] hb

theorem inside (h : Follows d d' f) (tag : Tag) : Follows (inside tag d) (inside tag d') f := by
  refine (self (Decoder.content tag)).bind fun c => ?_
  intro b x rest hrun
  have hwithin : (within d c).run b = (Decoder.whole d c).map fun x => (x, b) := rfl
  have hwithin' : (within d' c).run b = (Decoder.whole d' c).map fun x => (x, b) := rfl
  simp only [hwithin, Option.map_eq_some_iff, Prod.mk.injEq] at hrun
  obtain ⟨y, hy, rfl, rfl⟩ := hrun
  change (within d' c).run b = _
  rw [hwithin', h.whole hy]
  rfl

theorem manyUpTo (h : Follows d d' f) {fuel : Nat} {b : Octets} {xs : List α}
    (hb : manyUpTo d fuel b = some xs) : Decoder.manyUpTo d' fuel b = some (xs.map f) := by
  induction fuel generalizing b xs with
  | zero =>
      cases b with
      | nil =>
          cases hb
          rfl
      | cons y r => cases hb
  | succ fuel ih =>
      by_cases hnil : b = []
      · subst hnil
        cases hb
        rfl
      · simp only [manyUpTo_cons d fuel hnil, Option.bind_eq_some_iff, Option.map_eq_some_iff,
          Prod.exists] at hb
        obtain ⟨x, r, hx, xs, hxs, rfl⟩ := hb
        rw [manyUpTo_cons d' fuel hnil, h b x r hx, Option.bind_some, ih hxs]
        rfl

theorem listOf (h : Follows d d' f) : Follows (listOf d) (listOf d') (List.map f) := by
  refine inside ?_ Tag.sequence
  intro b xs rest hrun
  have hmany : (many d).run b = (Decoder.manyUpTo d b.length b).map fun xs => (xs, []) := rfl
  have hmany' : (many d').run b = (Decoder.manyUpTo d' b.length b).map fun xs => (xs, []) := rfl
  simp only [hmany, Option.map_eq_some_iff, Prod.mk.injEq] at hrun
  obtain ⟨ys, hys, rfl, rfl⟩ := hrun
  rw [hmany', h.manyUpTo hys]
  rfl

/-- **The octets that are taken as any element are those that are written of its value**, where the
content of the element is. -/
theorem taken {tag : Tag} {write : α → Octets} (h : ∀ c x, Decoder.whole d c = some x → c = write x) :
    Follows (Decoder.inside tag d) (Decoder.taken any) fun x => element tag (write x) := by
  intro b x rest hrun
  simp only [Decoder.inside, run_bind, run_content, Option.bind_eq_some_iff, Prod.exists] at hrun
  obtain ⟨c, r, ⟨e, r', he, hc⟩, hrun⟩ := hrun
  have hwithin : (within d c).run r = (Decoder.whole d c).map fun x => (x, r) := rfl
  simp only [hwithin, Option.map_eq_some_iff, Prod.mk.injEq] at hrun
  obtain ⟨y, hy, rfl, rfl⟩ := hrun
  split at hc
  · next htag =>
      simp only [Option.some.injEq, Prod.mk.injEq] at hc
      obtain ⟨rfl, rfl⟩ := hc
      obtain ⟨rfl, -, -⟩ := eq_of_readElement he
      -- both decoders read this one element, and its content is the one that is written
      have hany : any.run (e.encode ++ r') = some (e, r') := he
      have hsame : element tag (write y) = e.encode := by
        rw [← h _ y hy, ← htag]
        rfl
      rw [run_taken, hany]
      simp [hsame]
  · cases hc

end Follows

end Decoder

end Der

end RevocationLab
