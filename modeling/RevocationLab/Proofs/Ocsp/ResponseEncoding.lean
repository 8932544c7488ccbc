/-
**What a response says is in its octets.**

The octets of a response determine when it was produced and every answer in it, in their order.  The
names and certificates next to them need not be read for that: each of them is an element, and ends by
itself.

Main definitions:

* `Ocsp.ResponseData.IsPlain` — the answers have no extensions, as in all responses that are made.

Main results:

* `Ocsp.SingleResponse.eq_of_content` — the octets of an answer determine it;
* `Ocsp.BasicResponse.eq_of_envelope` — **two responses with the same octets say the same**.
-/

import RevocationLab.Proofs.Ocsp.Encoding
import RevocationLab.Proofs.Ocsp.Response

set_option autoImplicit false

namespace RevocationLab

open Der

namespace Der

/-! ### Encodings that are read back -/

/-- An encoding that is read back with anything behind it ends by itself. -/
theorem EndsByItself.of_readsBack {α : Type} {write : α → Octets} {d : Decoder α}
    (h : ∀ x, Decoder.ReadsBack d (write x) x true) : EndsByItself write := by
  intro x y r r' _ _ heq
  have hx := h x r
  have hy := h y r'
  rw [heq, hy, if_pos rfl, if_pos rfl] at hx
  obtain ⟨hyx, hr⟩ := Prod.mk.inj (Option.some.inj hx)
  exact ⟨hyx.symm, hr.symm⟩

/-- The octets of a time determine it. -/
theorem Time.endsByItself : EndsByItself Time.generalized :=
  EndsByItself.of_readsBack Decoder.ReadsBack.generalizedTime

end Der

namespace Ocsp

open X509

/-- The octets of a status determine it. -/
theorem Status.endsByItself : EndsByItself Status.encode := EndsByItself.of_readsBack Status.readsBack

/-! ### Answers -/

namespace SingleResponse

/-- The field of the end of the window. -/
def nextField (next : Option Der.Time) : Octets :=
  (next.map fun t => element (Tag.contextConstructed 0) t.generalized).getD []

/-- What is inside the element of an answer. -/
def content (s : SingleResponse) : Octets :=
  s.certId.encode ++ s.status.encode ++ s.thisUpdate.generalized ++ nextField s.nextUpdate
    ++ Extension.encodeField 1 s.extensions

theorem encodeField_eq_nil {n : Nat} {extensions : Option (List Extension)}
    (h : Extension.encodeField n extensions = []) : extensions = none := by
  cases extensions with
  | none => rfl
  | some es => exact absurd h (element_ne_nil _ _)

/-- A field of the end of the window is not one of extensions. -/
theorem nextField_eq {next next' : Option Der.Time} {extensions : Option (List Extension)}
    (hlen : (nextField next).length ≤ maxLength) (hlen' : (nextField next').length ≤ maxLength)
    (heq : nextField next = nextField next' ++ Extension.encodeField 1 extensions) :
    next = next' ∧ extensions = none := by
  cases next with
  | none =>
      obtain ⟨hnext, hextensions⟩ := List.append_eq_nil_iff.1 heq.symm
      refine ⟨?_, encodeField_eq_nil hextensions⟩
      cases next' with
      | none => rfl
      | some t' => exact absurd hnext (element_ne_nil _ _)
  | some t =>
      cases next' with
      | none =>
          cases extensions with
          | none => exact absurd heq (element_ne_nil _ _)
          | some es =>
              -- the two fields have different numbers
              have htag : Tag.contextConstructed 0 = Tag.contextConstructed 1 :=
                (List.cons.inj heq).1
              exact absurd htag (by decide)
      | some t' =>
          have hends : nextField (some t) ++ []
              = nextField (some t') ++ Extension.encodeField 1 extensions := by
            rw [List.append_nil]
            exact heq
          obtain ⟨helement, hrest⟩ := EndsByItself.encode ⟨_, _⟩ ⟨_, _⟩ _ _ hlen hlen' hends
          have htime := Time.endsByItself.eq (content_length_le hlen) (Element.mk.inj helement).2
          exact ⟨congrArg some htime, encodeField_eq_nil hrest.symm⟩

/-- **The octets of an answer without extensions determine it.** -/
theorem eq_of_content {s s' : SingleResponse} (hplain : s.extensions = none)
    (hlen : s.content.length ≤ maxLength) (heq : s.content = s'.content) : s = s' := by
  have hlen' := heq ▸ hlen
  simp only [content, List.length_append] at hlen hlen'
  simp only [content, hplain, Extension.encodeField, List.append_nil, List.append_assoc] at heq
  obtain ⟨hcertId, heq⟩ := CertId.endsByItself _ _ _ _ (by omega) (by omega) heq
  obtain ⟨hstatus, heq⟩ := Status.endsByItself _ _ _ _ (by omega) (by omega) heq
  obtain ⟨hthis, heq⟩ := Time.endsByItself _ _ _ _ (by omega) (by omega) heq
  obtain ⟨hnext, hextensions⟩ := nextField_eq (by omega) (by omega) heq
  rcases s with ⟨certId, status, thisUpdate, nextUpdate, extensions⟩
  rcases s' with ⟨certId', status', thisUpdate', nextUpdate', extensions'⟩
  subst hcertId hstatus hthis hnext hextensions hplain
  rfl

/-- The element of an answer. -/
def toElement (s : SingleResponse) : Element := ⟨Tag.sequence, s.content⟩

/-- The octets of all answers determine them. -/
theorem eq_of_flatMap {responses responses' : List SingleResponse}
    (hplain : ∀ s ∈ responses, s.extensions = none)
    (hlen : (responses.flatMap encode).length ≤ maxLength)
    (heq : responses.flatMap encode = responses'.flatMap encode) : responses = responses' := by
  have helements : responses.map toElement = responses'.map toElement := by
    refine EndsByItself.encode.eq_of_flatMap (fun e => element_ne_nil e.tag e.content) ?_ ?_
    · rw [List.flatMap_map]
      exact hlen
    · rw [List.flatMap_map, List.flatMap_map]
      exact heq
  have hcount : responses.length = responses'.length := by
    simpa using congrArg List.length helements
  refine List.ext_getElem hcount fun i hi hi' => ?_
  have hmem : responses[i] ∈ responses := List.getElem_mem hi
  have hone : toElement responses[i] = toElement responses'[i] := by
    have hat := congrArg (·[i]?) helements
    simpa [hi, hi'] using hat
  exact eq_of_content (hplain _ hmem)
    (content_length_le (Nat.le_trans (Octets.length_le_of_mem_flatMap encode hmem) hlen))
    (Element.mk.inj hone).2

end SingleResponse

/-! ### Data -/

namespace ResponseData

/-- Answers without extensions, as in all responses that are made. -/
def IsPlain (d : ResponseData) : Prop := ∀ s ∈ d.responses, s.extensions = none

/-- A responder is named in an element. -/
theorem exists_element (r : ResponderId) : ∃ e : Element, r.encode = e.encode := by
  cases r with
  | name n => exact ⟨⟨_, _⟩, rfl⟩
  | key h => exact ⟨⟨_, _⟩, rfl⟩

/-- **The octets of data determine when it was produced, and the answers**. -/
theorem eq_of_encode {d d' : ResponseData} (hplain : d.IsPlain)
    (hlen : d.encode.length ≤ maxLength) (heq : d.encode = d'.encode) :
    d.producedAt = d'.producedAt ∧ d.responses = d'.responses := by
  have hcontent := EndsByItself.content_eq hlen heq
  have hlen := content_length_le hlen
  have hlen' := hcontent ▸ hlen
  obtain ⟨e, he⟩ := exists_element d.responder
  obtain ⟨e', he'⟩ := exists_element d'.responder
  simp only [List.length_append, he] at hlen
  simp only [List.length_append, he'] at hlen'
  simp only [List.append_assoc, he, he'] at hcontent
  obtain ⟨-, hcontent⟩ := EndsByItself.encode _ _ _ _ (by omega) (by omega) hcontent
  obtain ⟨htime, hcontent⟩ := Time.endsByItself _ _ _ _ (by omega) (by omega) hcontent
  have hlist : (element Tag.sequence (d.responses.flatMap SingleResponse.encode)).length
      ≤ maxLength := by omega
  obtain ⟨helement, -⟩ := EndsByItself.encode ⟨_, _⟩ ⟨_, _⟩ _ _ hlist
    (by change (element Tag.sequence _).length ≤ _; omega) hcontent
  exact ⟨htime, SingleResponse.eq_of_flatMap hplain (content_length_le hlist)
    (Element.mk.inj helement).2⟩

end ResponseData

namespace BasicResponse

/-- The field of an envelope that holds octets. -/
def envelopeField (b : Octets) : Octets :=
  element (Tag.contextConstructed 0) (element Tag.sequence (basicKind.encode ++ octetString b))

/-- An envelope determines the octets in it. -/
theorem encode_eq_of_envelope {b b' : BasicResponse} (hlen : b.envelope.encode.length ≤ maxLength)
    (heq : b.envelope.encode = b'.envelope.encode) : b.encode = b'.encode := by
  have hfield : envelopeField b.encode = envelopeField b'.encode :=
    List.append_cancel_left (EndsByItself.content_eq hlen heq)
  have hlen : (envelopeField b.encode).length ≤ maxLength := by
    have hcontent := content_length_le hlen
    rw [List.length_append] at hcontent
    exact Nat.le_trans (Nat.le_add_left _ _) hcontent
  have hsequence := EndsByItself.content_eq hlen hfield
  have hcontent := EndsByItself.content_eq (content_length_le hlen) hsequence
  have hoctets : (octetString b.encode).length ≤ maxLength := by
    have hparts := content_length_le (content_length_le hlen)
    rw [List.length_append] at hparts
    exact Nat.le_trans (Nat.le_add_left _ _) hparts
  exact EndsByItself.octetString.eq hoctets (List.append_cancel_left hcontent)

/-- **Two responses with the same octets say the same**: they were produced at the same time, and have
the same answers. -/
theorem eq_of_envelope {b b' : BasicResponse} (hplain : b.data.IsPlain)
    (hlen : b.envelope.encode.length ≤ maxLength) (heq : b.envelope.encode = b'.envelope.encode) :
    b.data.producedAt = b'.data.producedAt ∧ b.data.responses = b'.data.responses := by
  have hbasic := encode_eq_of_envelope hlen heq
  have hlen := encode_length_le hlen
  have hcontent := EndsByItself.content_eq hlen hbasic
  have hparts := content_length_le hlen
  have hparts' := hcontent ▸ hparts
  simp only [List.length_append] at hparts hparts'
  simp only [List.append_assoc] at hcontent
  have hdata : b.data.encode.length ≤ maxLength := by omega
  obtain ⟨helement, -⟩ := EndsByItself.encode ⟨_, _⟩ ⟨_, _⟩ _ _ hdata
    (by change b'.data.encode.length ≤ _; omega) hcontent
  have hsame : b.data.encode = b'.data.encode := congrArg Element.encode helement
  exact ResponseData.eq_of_encode hplain hdata hsame

end BasicResponse

end Ocsp

end RevocationLab
