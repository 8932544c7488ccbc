/-
**What a request says is in its encoding.**

The encoding of a request that is built determines the identifiers, their order and number, and the
nonce: every part of it ends by itself, whether a decoder accepts it or not.  The decoder gives the
request back with one condition.  Serial numbers with content and parameters that can be made are always
read, but an object identifier may be written that is not read, of two octets or with an arc that is too
long, and then the request is not read either.

Main definitions:

* `X509.SerialNumber.Obtainable` — the serial numbers that can be made or read;
* `Ocsp.CertId.IsProper` — **the identifiers that can be made**, with a serial number that has content.

Main results:

* `Ocsp.Request.eq_of_encode?` — **two requests never have the same encoding**;
* `Ocsp.Request.readsBack_of_encode` — **a request is read back exactly if its object identifiers are**,
  with its nonce as it was.
-/

import RevocationLab.Proofs.Der.Apart
import RevocationLab.Proofs.Ocsp.Request

set_option autoImplicit false

namespace RevocationLab

open Der

namespace X509

namespace SerialNumber

/-! ### Serial numbers -/

/-- The serial numbers that can be made of a magnitude or read.  The one without content is among them:
it is made of the empty magnitude. -/
inductive Obtainable (s : SerialNumber) : Prop
  | made (magnitude : Octets) (h : ofMagnitude? magnitude = some s)
  | read (b rest : Octets) (h : decoder b = some (s, rest))

/-- A zero octet is left in front only if it is all there is. -/
theorem stripZeros_cases (magnitude : Octets) :
    stripZeros magnitude = [] ∨ stripZeros magnitude = [0]
      ∨ ∃ b r, stripZeros magnitude = b :: r ∧ b ≠ 0 := by
  induction magnitude using stripZeros.induct with
  | case1 b r ih => exact ih
  | case2 magnitude hzeros =>
      rw [stripZeros]
      · cases magnitude with
        | nil => exact Or.inl rfl
        | cons b r =>
            right
            by_cases hb : b = 0
            · subst hb
              cases r with
              | nil => exact Or.inl rfl
              | cons c r => exact absurd rfl (hzeros c r)
            · exact Or.inr ⟨b, r, rfl, hb⟩
      · exact hzeros

/-- A magnitude with the sign octet that it needs is an INTEGER in its only form. -/
theorem isMinimalInteger_signed {magnitude : Octets} (h : signed (stripZeros magnitude) ≠ []) :
    isMinimalInteger (signed (stripZeros magnitude)) = true := by
  rcases stripZeros_cases magnitude with hnil | hzero | ⟨b, r, hcons, hb⟩
  · rw [hnil] at h
    exact absurd rfl h
  · rw [hzero]
    decide
  · rw [hcons, signed]
    by_cases hlow : b < 0x80
    · rw [if_pos hlow]
      cases r with
      | nil => rfl
      | cons c r =>
          have hones : b ≠ 0xff := by
            rintro rfl
            exact absurd hlow (by decide)
          simp [isMinimalInteger, hb, hones]
    · -- the sign octet is needed, since the first bit is set
      rw [if_neg hlow]
      simp [isMinimalInteger, hlow]

/-- Every serial number that can be made or read is readable, except the one without content. -/
theorem Obtainable.isReadable {s : SerialNumber} (h : s.Obtainable) :
    s.isReadable = !s.content.isEmpty := by
  by_cases hempty : s.content = []
  · rw [SerialNumber.isReadable, hempty]
    rfl
  · rw [List.isEmpty_eq_false_iff.2 hempty]
    cases h with
    | made magnitude h =>
        simp only [ofMagnitude?] at h
        split at h
        · next hlen =>
            obtain rfl := Option.some.inj h
            have hminimal := isMinimalInteger_signed hempty
            have hfits : (signed (stripZeros magnitude)).length ≤ 21 := by omega
            simp [SerialNumber.isReadable, hminimal, hfits]
        · cases h
    | read b rest h => exact (SerialNumber.canonical b s rest h).2

end SerialNumber

end X509

namespace Ocsp

open X509

/-! ### Identifiers -/

/-- Two tests that agree on the members of a list agree on the list. -/
theorem all_congr_of_mem {α : Type} {p q : α → Bool} {xs : List α} (h : ∀ x ∈ xs, p x = q x) :
    xs.all p = xs.all q := by
  rw [Bool.eq_iff_iff, List.all_eq_true, List.all_eq_true]
  exact forall₂_congr fun x hx => by rw [h x hx]

namespace CertId

/-- **The identifiers that can be made**: parameters have a tag that may occur, and the serial number can
be made or read, and has content.  The object identifier of the digest and the digests may be any. -/
structure IsProper (c : CertId) : Prop where
  parameters : ∀ e ∈ c.hash.parameters, Tag.isKnown e.tag = true
  serial : c.serial.Obtainable
  hasContent : c.serial.content ≠ []

/-- Such an identifier is read back exactly if the object identifier in it is. -/
theorem IsProper.isReadable {c : CertId} (h : c.IsProper) :
    c.isReadable = ObjectId.isReadable c.hash.algorithm.octets := by
  have hparameters : (c.hash.parameters.all fun e => Tag.isKnown e.tag) = true := by
    cases hp : c.hash.parameters with
    | none => rfl
    | some e => exact h.parameters e hp
  rw [CertId.isReadable, AlgorithmIdentifier.isReadable, hparameters, h.serial.isReadable,
    List.isEmpty_eq_false_iff.2 h.hasContent, Bool.not_false, Bool.and_true, Bool.and_true]

/-- The octets of an identifier determine it. -/
theorem endsByItself : EndsByItself CertId.encode := by
  refine EndsByItself.inside Tag.sequence fun x y hx hy heq => ?_
  simp only [List.length_append] at hx hy
  simp only [List.append_assoc] at heq
  obtain ⟨hhash, heq⟩ := AlgorithmIdentifier.endsByItself _ _ _ _ (by omega) (by omega) heq
  obtain ⟨hname, heq⟩ := EndsByItself.octetString _ _ _ _ (by omega) (by omega) heq
  obtain ⟨hkey, heq⟩ := EndsByItself.octetString _ _ _ _ (by omega) (by omega) heq
  have hserial := SerialNumber.endsByItself.eq (by omega) heq
  rcases x with ⟨hash, name, key, serial⟩
  rcases y with ⟨hash', name', key', serial'⟩
  subst hhash hname hkey hserial
  rfl

end CertId

namespace Request

/-! ### One encoding for each request -/

/-- The question about an identifier, as it is built. -/
def encodeAsked (c : CertId) : Octets := Query.encode ⟨c, none⟩

theorem endsByItself_encodeAsked : EndsByItself encodeAsked := by
  refine EndsByItself.inside Tag.sequence fun x y hx _ heq => ?_
  rw [Extension.encodeField, List.append_nil] at hx
  rw [Extension.encodeField, List.append_nil, List.append_nil] at heq
  exact CertId.endsByItself.eq hx heq

/-- The questions, in their order. -/
theorem endsByItself_questions :
    EndsByItself fun certIds : List CertId =>
      element Tag.sequence (certIds.flatMap encodeAsked) :=
  EndsByItself.inside Tag.sequence fun _ _ hx _ heq =>
    endsByItself_encodeAsked.eq_of_flatMap (fun _ => element_ne_nil _ _) hx heq

theorem endsByItself_nonceExtension : EndsByItself fun n => (nonceExtension n).encode := by
  refine EndsByItself.inside Tag.sequence fun x y hx _ heq => ?_
  rw [List.length_append] at hx
  have hlen : (octetString (octetString x)).length ≤ maxLength :=
    Nat.le_trans (Nat.le_add_left _ _) hx
  have hvalue : octetString x = octetString y :=
    EndsByItself.octetString.eq hlen (List.append_cancel_left heq)
  exact EndsByItself.octetString.eq (content_length_le hlen) hvalue

/-- The list of extensions with a nonce. -/
theorem endsByItself_nonceList : EndsByItself fun n => Extension.encodeList [nonceExtension n] := by
  refine EndsByItself.inside Tag.sequence fun x y hx _ heq => ?_
  rw [List.flatMap_singleton] at hx
  rw [List.flatMap_singleton, List.flatMap_singleton] at heq
  exact endsByItself_nonceExtension.eq hx heq

/-- The field of a nonce. -/
def encodeNonce (n : Octets) : Octets :=
  element (Tag.contextConstructed 2) (Extension.encodeList [nonceExtension n])

theorem endsByItself_encodeNonce : EndsByItself encodeNonce :=
  EndsByItself.inside _ fun _ _ hx _ heq => endsByItself_nonceList.eq hx heq

/-- A request that is built, by its questions and its nonce. -/
theorem encode_build (certIds : List CertId) (nonce : Option Octets) :
    (build certIds nonce).encode = element Tag.sequence (element Tag.sequence
      (element Tag.sequence (certIds.flatMap encodeAsked)
        ++ (nonce.map encodeNonce).getD [])) := by
  have hqueries : (build certIds nonce).body.queries.flatMap Query.encode
      = certIds.flatMap encodeAsked := by
    rw [build, List.flatMap_map]
    rfl
  have hnonce : Extension.encodeField 2 (build certIds nonce).body.extensions
      = (nonce.map encodeNonce).getD [] := by
    cases nonce <;> rfl
  rw [encode, RequestBody.encode, hqueries, hnonce]
  exact congrArg _ (List.append_nil _)

theorem encode?_eq_some_iff {certIds : List CertId} {nonce : Option Octets} {d : Octets} :
    encode? certIds nonce = some d ↔
      (build certIds nonce).encode = d ∧ d.length ≤ maxLength := by
  unfold encode? sealed?
  split
  · next hmax =>
      constructor
      · intro h
        obtain rfl := Option.some.inj h
        exact ⟨rfl, hmax⟩
      · rintro ⟨rfl, -⟩
        rfl
  · next hmax =>
      constructor
      · intro h
        cases h
      · rintro ⟨rfl, hlen⟩
        exact absurd hlen hmax

/-- **Two requests never have the same encoding**, whatever their identifiers are. -/
theorem eq_of_encode? {certIds certIds' : List CertId} {nonce nonce' : Option Octets} {d : Octets}
    (h : encode? certIds nonce = some d) (h' : encode? certIds' nonce' = some d) :
    certIds = certIds' ∧ nonce = nonce' := by
  obtain ⟨hd, hlen⟩ := encode?_eq_some_iff.1 h
  obtain ⟨hd', -⟩ := encode?_eq_some_iff.1 h'
  rw [← hd, encode_build] at hlen
  have heq := hd.trans hd'.symm
  rw [encode_build, encode_build] at heq
  -- the request and its body are one element each
  have hbody := EndsByItself.content_eq hlen heq
  have hbodyLen := content_length_le hlen
  have hfields := EndsByItself.content_eq hbodyLen hbody
  have hfirst := content_length_le hbodyLen
  have hsecond := hfields ▸ hfirst
  rw [List.length_append] at hfirst hsecond
  -- the questions end by themselves, and the nonce is what is left
  obtain ⟨hquestions, hnonce⟩ :=
    endsByItself_questions certIds certIds' _ _ (Nat.le_trans (Nat.le_add_right _ _) hfirst)
      (Nat.le_trans (Nat.le_add_right _ _) hsecond) hfields
  have hrest : ((nonce.map encodeNonce).getD []).length ≤ maxLength := by omega
  exact ⟨hquestions,
    endsByItself_encodeNonce.eq_of_optional (fun _ => element_ne_nil _ _) hrest hnonce⟩

/-! ### Reading a request back -/

theorem findNonce?_singleton (n : Octets) :
    findNonce? (some [nonceExtension n]) = some (nonceExtension n) := by
  rw [findNonce?, Option.bind_some]
  exact List.find?_cons_of_pos (beq_self_eq_true nonceKind)

/-- A nonce is found exactly if it was given, as the extension that was made of it. -/
theorem findNonce?_build (certIds : List CertId) (nonce : Option Octets) :
    findNonce? (build certIds nonce).body.extensions = nonce.map nonceExtension := by
  cases nonce with
  | none => rfl
  | some n => exact findNonce?_singleton n

/-- The value of a nonce in a request that was encoded is not too long. -/
theorem length_nonce_le {certIds : List CertId} {n : Octets} {d : Octets}
    (h : encode? certIds (some n) = some d) : (octetString n).length ≤ maxLength := by
  obtain ⟨rfl, hlen⟩ := encode?_eq_some_iff.1 h
  rw [encode_build] at hlen
  have hfields := content_length_le (content_length_le hlen)
  rw [List.length_append] at hfields
  have hfield : (encodeNonce n).length ≤ maxLength := Nat.le_trans (Nat.le_add_left _ _) hfields
  have hlist := content_length_le (content_length_le hfield)
  rw [List.flatMap_singleton] at hlist
  have hextension := content_length_le hlist
  rw [List.length_append] at hextension
  exact content_length_le (Nat.le_trans (Nat.le_add_left _ _) hextension)

/-- **A request is read back exactly if its object identifiers are**, with its identifiers and its nonce
as they were; and no other request has its encoding. -/
theorem readsBack_of_encode {certIds : List CertId} (hids : ∀ c ∈ certIds, c.IsProper)
    {nonce : Option Octets} {d : Octets} (h : encode? certIds nonce = some d) :
    decode? d = (if certIds.all fun c => ObjectId.isReadable c.hash.algorithm.octets then
      some (build certIds nonce) else none)
    ∧ (∀ r, decode? d = some r →
        ((findNonce? r.body.extensions).isSome = nonce.isSome
        ∧ ∀ e, findNonce? r.body.extensions = some e →
          Der.decode? Decoder.octetString e.value = nonce))
    ∧ ∀ certIds' nonce', encode? certIds' nonce' = some d →
        certIds' = certIds ∧ nonce' = nonce := by
  have hreadable : certIds.all CertId.isReadable
      = certIds.all fun c => ObjectId.isReadable c.hash.algorithm.octets :=
    all_congr_of_mem fun c hc => (hids c hc).isReadable
  have hdecode := decode?_encode? h
  rw [hreadable] at hdecode
  refine ⟨hdecode, ?_, fun certIds' nonce' h' => eq_of_encode? h' h⟩
  intro r hr
  rw [hdecode] at hr
  split at hr
  · obtain rfl := Option.some.inj hr
    rw [findNonce?_build]
    cases nonce with
    | none => exact ⟨rfl, fun e he => by cases he⟩
    | some n =>
        refine ⟨rfl, ?_⟩
        rintro e he
        obtain rfl := Option.some.inj he
        have hlen := length_nonce_le h
        exact (Decoder.ReadsBack.octetString n hlen).decode? hlen
  · cases hr

/-! ### A request that is read back, and one that is not -/

/-- An identifier with parameters and a serial number that needs a sign octet. -/
def sampleCertId : CertId :=
  ⟨⟨Digest.Algorithm.sha256.objectId, some ⟨Tag.null, []⟩⟩, [1, 2], [], ⟨[0, 0x80]⟩⟩

theorem isProper_sampleCertId : sampleCertId.IsProper where
  parameters := by decide
  serial := .made [0, 0x80] (by decide)
  hasContent := by decide

/-- The identifier, asked about twice, is read back with a nonce of one octet. -/
theorem readsBack_sampleCertId : ∃ d, encode? [sampleCertId, sampleCertId] (some [7]) = some d
    ∧ decode? d = some (build [sampleCertId, sampleCertId] (some [7]))
    ∧ ∃ r e, decode? d = some r ∧ findNonce? r.body.extensions = some e
      ∧ Der.decode? Decoder.octetString e.value = some [7] := by
  have hsome : (encode? [sampleCertId, sampleCertId] (some [7])).isSome = true := by decide +kernel
  obtain ⟨d, hd⟩ := Option.isSome_iff_exists.1 hsome
  have hids : ∀ c ∈ [sampleCertId, sampleCertId], c.IsProper := by
    intro c hc
    simp only [List.mem_cons, List.not_mem_nil, or_false, or_self] at hc
    exact hc ▸ isProper_sampleCertId
  have hreadable : ([sampleCertId, sampleCertId].all fun c =>
      ObjectId.isReadable c.hash.algorithm.octets) = true := by decide
  obtain ⟨hdecode, hnonce, -⟩ := readsBack_of_encode hids hd
  rw [if_pos hreadable] at hdecode
  have hfound := findNonce?_build [sampleCertId, sampleCertId] (some [7])
  exact ⟨d, hd, hdecode, _, _, hdecode, hfound, (hnonce _ hdecode).2 _ hfound⟩

/-- An identifier whose object identifier has two octets. -/
def shortCertId : CertId := ⟨⟨⟨[0x2a, 0x03]⟩, none⟩, [1], [2], ⟨[3]⟩⟩

/-- The object identifier 1.2.3 can be named and written, and the request with it is not read. -/
theorem not_readsBack_shortCertId : ObjectId.ofText? "1.2.3" = some shortCertId.hash.algorithm
    ∧ shortCertId.IsProper
    ∧ ∃ d, encode? [shortCertId] none = some d
      ∧ decode? d ≠ some (build [shortCertId] none) ∧ decode? d = none := by
  refine ⟨by decide, ⟨by decide, .made [3] (by decide), by decide⟩, ?_⟩
  have hlen : (build [shortCertId] none).encode.length ≤ maxLength := by decide +kernel
  have hnone : decode? (build [shortCertId] none).encode = none := by decide +kernel
  refine ⟨_, encode?_eq_some_iff.2 ⟨rfl, hlen⟩, ?_, hnone⟩
  rw [hnone]
  exact fun heq => Option.some_ne_none _ heq.symm

end Request

end Ocsp

end RevocationLab
