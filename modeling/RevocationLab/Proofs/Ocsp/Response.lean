/-
**Responses are read back.**

Every part of a response is read back as it was written, up to the identifiers of certificates, the
name of the responder and the certificates that come with it, which are read back as far as their parts
are.  The signature lies next to the octets that were signed, and those can be taken out of a response
as they are.

Main definitions:

* `Ocsp.SingleResponse.isReadable` — the answers that are read back;
* `Ocsp.signedOctets?` — the octets in a response that its signature is over.

Main results:

* `Ocsp.Status.readsBack` — **a status is read back**;
* `Ocsp.ResponseData.readsBack`, `Ocsp.BasicResponse.readsBack` — the data and the signed response;
* `Ocsp.BasicResponse.decode_envelope` — **a response in its envelope is read back** as far as its
  parts are;
* `Ocsp.signedOctets?_envelope` — the octets that were signed.
-/

import RevocationLab.Ocsp.Response
import RevocationLab.Proofs.Der.Time
import RevocationLab.Proofs.Ocsp.Request

set_option autoImplicit false

namespace RevocationLab

open Der

namespace Ocsp

open X509

/-! ### Statuses -/

namespace Reason

theorem number_lt (r : Reason) : r.number < 256 := by cases r <;> decide

end Reason

namespace Status

/-- The fields of a revocation are read back. -/
theorem whole_revocation (time : Der.Time) (reason : Option Reason) :
    revocationDecoder.whole (revocationContent time reason) = some (revoked time reason) := by
  have ht : Tag.isKnown Tag.enumerated = true := by decide
  have hfield : ∀ r ∈ reason, (element Tag.enumerated (smallContent r.number)).length ≤ maxLength := by
    rintro r -
    cases r <;> decide
  have hread : ∀ r ∈ reason, Decoder.whole (Decoder.small Tag.enumerated Reason.ofNumber?)
      (element Tag.enumerated (smallContent r.number)) = if (fun _ => true) r then some r else none :=
    fun r _ => (Decoder.ReadsBack.small ht r.number_lt (Reason.ofNumber?_number r)).whole
  have hall : (reason.all fun _ => true) = true := by cases reason <;> rfl
  have hlast : Decoder.whole (Decoder.explicit 0 (Decoder.small Tag.enumerated Reason.ofNumber?)
      >>= fun reason => pure (revoked time reason)) (Decoder.writeField 0 _ reason) = _ :=
    Decoder.whole_explicit_last (by decide) hread hfield _
  rw [if_pos hall] at hlast
  rw [revocationDecoder, revocationContent,
    Decoder.whole_bind (Decoder.ReadsBack.generalizedTime time), if_pos rfl]
  exact hlast

theorem length_revocationContent_le (time : Der.Time) (reason : Option Reason) :
    (revocationContent time reason).length ≤ maxLength := by
  have hreason : ((reason.map fun r => element (Tag.contextConstructed 0)
      (element Tag.enumerated (smallContent r.number))).getD []).length ≤ 5 := by
    rcases reason with _ | r
    · exact Nat.zero_le _
    · cases r <;> decide
  have htime : time.generalized.length = 17 := rfl
  rw [revocationContent, List.length_append, htime]
  unfold maxLength
  omega

/-- **A status is read back.** -/
theorem readsBack (s : Status) : Decoder.ReadsBack decoder s.encode s true := by
  cases s with
  | good => exact Decoder.ReadsBack.ofElement (by decide) (by decide) fun _ => rfl
  | unknown => exact Decoder.ReadsBack.ofElement (by decide) (by decide) fun _ => rfl
  | revoked time reason =>
      have hlen := length_revocationContent_le time reason
      have ht : Tag.isKnown (Tag.contextConstructed 1) = true := by decide
      refine Decoder.ReadsBack.ofElement ht hlen fun rest => ?_
      have hread : ofElement? ⟨Tag.contextConstructed 1, revocationContent time reason⟩
          = some (revoked time reason) := whole_revocation time reason
      simp only [hread]
      rfl

end Status

/-! ### Answers -/

namespace SingleResponse

theorem encode_ne_nil (s : SingleResponse) : s.encode ≠ [] := element_ne_nil _ _

/-- Whether a decoder accepts what is written. -/
def isReadable (s : SingleResponse) : Bool :=
  s.certId.isReadable && Extension.areReadable s.extensions

/-- **An answer reads back** if it is readable. -/
theorem readsBack (s : SingleResponse) (h : s.encode.length ≤ maxLength) :
    Decoder.ReadsBack decoder s.encode s s.isReadable := by
  have hlen := content_length_le h
  have hparts := hlen
  simp only [List.length_append] at hparts
  have habsent : Decoder.Absent 0 (Extension.encodeField 1 s.extensions) := by
    rw [Extension.encodeField_eq]
    exact Decoder.Absent.writeField (by decide) (by decide) _ _
  have hnext : ∀ t ∈ s.nextUpdate, Decoder.whole Decoder.generalizedTime t.generalized
      = if (fun _ => true) t then some t else none :=
    fun t _ => (Decoder.ReadsBack.generalizedTime t).whole
  -- a time always reads back, so the field of the next update is no obstacle
  have hall : (s.nextUpdate.all fun _ => true) = true := by cases s.nextUpdate <;> rfl
  have hfield : ∀ t ∈ s.nextUpdate, t.generalized.length ≤ maxLength :=
    fun t _ => Nat.le_of_ble_eq_true rfl
  refine Decoder.ReadsBack.inside (by decide) hlen ?_
  simp only [List.append_assoc]
  rw [Decoder.whole_bind (s.certId.readsBack (by omega)), Decoder.whole_bind s.status.readsBack,
    if_pos rfl, Decoder.whole_bind (Decoder.ReadsBack.generalizedTime s.thisUpdate), if_pos rfl]
  change (if s.certId.isReadable then
      Decoder.whole _ (Decoder.writeField 0 Der.Time.generalized s.nextUpdate
        ++ Extension.encodeField 1 s.extensions) else none) = _
  rw [Decoder.whole_explicit (by decide) hnext hfield habsent, if_pos hall,
    Extension.whole_field (by decide) _ (by omega)]
  unfold isReadable
  cases s.certId.isReadable <;> rfl

end SingleResponse

/-! ### What is signed -/

namespace ResponderId

/-- A responder's name reads back as the name does. -/
theorem readsBack_name {n : Name} {ok : Bool} (hlen : n.encode.length ≤ maxLength)
    (h : Decoder.whole Decoder.name n.encode = if ok then some n else none) :
    Decoder.ReadsBack decoder (name n).encode (name n) ok := by
  have ht : Tag.isKnown (Tag.contextConstructed 1) = true := by decide
  refine Decoder.ReadsBack.ofElement ht hlen fun rest => ?_
  have hread : ofElement? ⟨Tag.contextConstructed 1, n.encode⟩
      = name <$> Decoder.name.whole n.encode := if_pos rfl
  rw [h] at hread
  simp only [hread]
  cases ok <;> rfl

end ResponderId

namespace ResponseData

/-- **The data of a response reads back** if its answers and extensions do, as far as the responder
does. -/
theorem readsBack {d : ResponseData} {ok : Bool}
    (hresponder : Decoder.ReadsBack ResponderId.decoder d.responder.encode d.responder ok)
    (h : d.encode.length ≤ maxLength) :
    Decoder.ReadsBack decoder d.encode d
      (ok && d.responses.all SingleResponse.isReadable && Extension.areReadable d.extensions) := by
  have hlen := content_length_le h
  have hparts := hlen
  simp only [List.length_append] at hparts
  have hlist : (element Tag.sequence (d.responses.flatMap SingleResponse.encode)).length
      ≤ maxLength := by omega
  have hcontent := content_length_le hlist
  have hresponses : Decoder.ReadsBack (Decoder.listOf SingleResponse.decoder)
      (element Tag.sequence (d.responses.flatMap SingleResponse.encode)) d.responses
      (d.responses.all SingleResponse.isReadable) :=
    Decoder.ReadsBack.listOf (fun s hs => s.readsBack
      (Nat.le_trans (Octets.length_le_of_mem_flatMap SingleResponse.encode hs) hcontent))
      (fun s _ => s.encode_ne_nil) hcontent
  -- the version is not written, and either form of the responder is a field after number zero
  have habsent : ∀ r, Decoder.Absent 0 (d.responder.encode ++ r) := by
    intro r
    cases d.responder with
    | name n => exact Decoder.Absent.field (by decide) (by decide) _ r
    | key hash => exact Decoder.Absent.field (by decide) (by decide) _ r
  refine Decoder.ReadsBack.inside (by decide) hlen ?_
  simp only [List.append_assoc]
  rw [whole_versionDecoder (habsent _), Decoder.whole_bind hresponder,
    Decoder.whole_bind (Decoder.ReadsBack.generalizedTime d.producedAt), if_pos rfl,
    Decoder.whole_bind hresponses, Extension.whole_field (by decide) _ (by omega)]
  cases ok <;> cases d.responses.all SingleResponse.isReadable <;> rfl

end ResponseData

/-! ### Signed responses -/

/-- The octets of the data in a signed response: those of its first element. -/
def BasicResponse.dataSlice : Decoder Octets :=
  Decoder.sequence do
    let octets ← Decoder.taken Decoder.any
    let _ ← AlgorithmIdentifier.decoder
    let _ ← Decoder.bitString
    let _ ← certificatesDecoder
    return octets

theorem encodeCertificates_eq (cs : Option (List Certificate)) :
    encodeCertificates cs = Decoder.writeField 0
      (fun cs => element Tag.sequence (cs.flatMap Certificate.encode)) cs := by
  cases cs <;> rfl

/-- Certificates at the end of a response are read back as far as each of them is. -/
theorem whole_certificates {β : Type} {cs : Option (List Certificate)} {ok : Certificate → Bool}
    (h : ∀ l ∈ cs, ∀ c ∈ l, Decoder.ReadsBack Certificate.decoder c.encode c (ok c))
    (hlen : (encodeCertificates cs).length ≤ maxLength)
    (f : Option (List Certificate) → Decoder β) :
    Decoder.whole (certificatesDecoder >>= f) (encodeCertificates cs) =
      if cs.all fun l => l.all ok then Decoder.whole (f cs) [] else none := by
  have hfield : ∀ l ∈ cs,
      (element Tag.sequence (l.flatMap Certificate.encode)).length ≤ maxLength := by
    rintro l rfl
    exact content_length_le hlen
  rw [encodeCertificates_eq]
  refine Decoder.whole_explicit_last (by decide) (fun l hl => ?_) hfield f
  exact (Decoder.ReadsBack.listOf (h l hl) (fun _ _ => element_ne_nil _ _)
    (content_length_le (hfield l hl))).whole

namespace BasicResponse

/-- **A signed response reads back** as far as its data and its certificates do. -/
theorem readsBack {b : BasicResponse} {ok : Bool} {okCertificate : Certificate → Bool}
    (hdata : Decoder.ReadsBack ResponseData.decoder b.data.encode b.data ok)
    (halgorithm : b.algorithm.isReadable = true)
    (hsignature : ∃ octets, b.signature = BitString.ofOctets octets)
    (hcertificates : ∀ l ∈ b.certificates, ∀ c ∈ l,
      Decoder.ReadsBack Certificate.decoder c.encode c (okCertificate c))
    (h : b.encode.length ≤ maxLength) :
    Decoder.ReadsBack decoder b.encode b
      (ok && b.certificates.all fun l => l.all okCertificate) := by
  have hlen := content_length_le h
  have hparts := hlen
  simp only [List.length_append] at hparts
  have hbits := BitString.readsBack hsignature (by omega)
  refine Decoder.ReadsBack.inside (by decide) hlen ?_
  simp only [List.append_assoc]
  rw [Decoder.whole_bind hdata, Decoder.whole_bind (b.algorithm.readsBack (by omega)),
    if_pos halgorithm, Decoder.whole_bind hbits, if_pos rfl,
    whole_certificates hcertificates (by omega)]
  cases ok <;> rfl

/-- The octets of the data are taken out of a signed response whose certificates read back. -/
theorem whole_dataSlice {b : BasicResponse} (halgorithm : b.algorithm.isReadable = true)
    (hsignature : ∃ octets, b.signature = BitString.ofOctets octets)
    (hcertificates : ∀ l ∈ b.certificates, ∀ c ∈ l,
      Decoder.ReadsBack Certificate.decoder c.encode c true)
    (h : b.encode.length ≤ maxLength) : dataSlice.whole b.encode = some b.data.encode := by
  have hlen := content_length_le h
  have hparts := hlen
  simp only [List.length_append] at hparts
  have hbits := BitString.readsBack hsignature (by omega)
  have hdata : b.data.encode.length ≤ maxLength := by omega
  -- the slice is one element of any kind, so the data need not be read to take it out
  have hslice : Decoder.ReadsBack (Decoder.taken Decoder.any) b.data.encode b.data.encode true := by
    have ht : Tag.isKnown Tag.sequence = true := by decide
    have hany : Decoder.ReadsBack Decoder.any b.data.encode _ true :=
      readElement_element ht (content_length_le hdata)
    exact hany.taken
  have hall : (b.certificates.all fun l => l.all fun _ => true) = true := by
    cases b.certificates with
    | none => rfl
    | some l => simp
  have hback : Decoder.ReadsBack dataSlice b.encode b.data.encode true := by
    refine Decoder.ReadsBack.inside (by decide) hlen ?_
    simp only [List.append_assoc]
    rw [Decoder.whole_bind hslice, if_pos rfl, Decoder.whole_bind (b.algorithm.readsBack (by omega)),
      if_pos halgorithm, Decoder.whole_bind hbits, if_pos rfl,
      whole_certificates hcertificates (by omega), if_pos hall]
    rfl
  exact hback.whole

end BasicResponse

/-! ### The envelope -/

/-- The envelope of a signed response. -/
def BasicResponse.envelope (b : BasicResponse) : Envelope :=
  ⟨.successful, some ⟨basicKind, b.encode⟩⟩

/-- The octets in a response that its signature is over. -/
def signedOctets? (b : Octets) : Option Octets := do
  let envelope ← Der.decode? Envelope.decoder b
  let content ← envelope.content
  Decoder.whole BasicResponse.dataSlice content.octets

namespace Envelope

/-- **An envelope with a content is read back**, if the kind of the content is readable. -/
theorem decode?_encode {outcome : Outcome} {content : EnvelopeContent}
    (hkind : ObjectId.isReadable content.kind.octets = true)
    (h : (encode ⟨outcome, some content⟩).length ≤ maxLength) :
    Der.decode? decoder (encode ⟨outcome, some content⟩) = some ⟨outcome, some content⟩ := by
  have hlen := content_length_le h
  have hparts := hlen
  simp only [List.length_append, Option.map_some, Option.getD_some] at hparts
  have hfield : (element (Tag.contextConstructed 0) (element Tag.sequence
      (content.kind.encode ++ octetString content.octets))).length ≤ maxLength := by omega
  have hsequence := content_length_le hfield
  have hcontent := content_length_le hsequence
  have hpair := hcontent
  rw [List.length_append] at hpair
  have hvalue : Decoder.ReadsBack
      (Decoder.sequence do
        return EnvelopeContent.mk (← Decoder.objectId) (← Decoder.octetString))
      (element Tag.sequence (content.kind.encode ++ octetString content.octets)) content true := by
    refine Decoder.ReadsBack.inside (by decide) hcontent ?_
    rw [Decoder.whole_bind (content.kind.readsBack (by omega)), if_pos hkind,
      Decoder.whole_bind_last (Decoder.ReadsBack.octetString content.octets (by omega))]
    rfl
  have ht : Tag.isKnown Tag.enumerated = true := by decide
  have hnumber : outcome.number < 256 := by cases outcome <;> decide
  have hread : Outcome.ofNumber? outcome.number = some outcome := by cases outcome <;> rfl
  have hback : Decoder.ReadsBack decoder (encode ⟨outcome, some content⟩) ⟨outcome, some content⟩
      true := by
    refine Decoder.ReadsBack.inside (by decide) hlen ?_
    simp only [Option.map_some, Option.getD_some]
    rw [Decoder.whole_bind (Decoder.ReadsBack.small ht hnumber hread), if_pos rfl,
      Decoder.whole_bind_last (Decoder.ReadsBack.explicit (by decide) hsequence hvalue.whole)]
    rfl
  rw [hback.decode? h, if_pos rfl]

end Envelope

theorem isReadable_basicKind : ObjectId.isReadable basicKind.octets = true := by decide

namespace BasicResponse

theorem encode_length_le {b : BasicResponse} (h : b.envelope.encode.length ≤ maxLength) :
    b.encode.length ≤ maxLength := by
  have hlen := content_length_le h
  simp only [envelope, List.length_append, Option.map_some, Option.getD_some] at hlen
  have hfield : (element (Tag.contextConstructed 0) (element Tag.sequence
      (basicKind.encode ++ octetString b.encode))).length ≤ maxLength := by omega
  have hcontent := content_length_le (content_length_le hfield)
  rw [List.length_append] at hcontent
  exact content_length_le (Nat.le_trans (Nat.le_add_left _ _) hcontent)

/-- **A response in its envelope is read back** as far as the response is. -/
theorem decode_envelope {b : BasicResponse} {ok : Bool}
    (hb : Decoder.ReadsBack decoder b.encode b ok) (h : b.envelope.encode.length ≤ maxLength) :
    decode b.envelope.encode = if ok then .ok b else .error .malformed := by
  have henvelope : Der.decode? Envelope.decoder b.envelope.encode = some b.envelope :=
    Envelope.decode?_encode isReadable_basicKind h
  have hbasic := hb.decode? (encode_length_le h)
  unfold decode
  rw [henvelope]
  simp only [envelope, ne_eq, not_true_eq_false, if_false, Option.filter, beq_self_eq_true, if_true,
    hbasic]
  cases ok <;> rfl

/-- **The octets that were signed** are taken out of a response in its envelope. -/
theorem signedOctets?_envelope {b : BasicResponse} (halgorithm : b.algorithm.isReadable = true)
    (hsignature : ∃ octets, b.signature = BitString.ofOctets octets)
    (hcertificates : ∀ l ∈ b.certificates, ∀ c ∈ l,
      Decoder.ReadsBack Certificate.decoder c.encode c true)
    (h : b.envelope.encode.length ≤ maxLength) :
    signedOctets? b.envelope.encode = some b.data.encode := by
  have henvelope : Der.decode? Envelope.decoder b.envelope.encode = some b.envelope :=
    Envelope.decode?_encode isReadable_basicKind h
  unfold signedOctets?
  rw [henvelope]
  exact whole_dataSlice halgorithm hsignature hcertificates (encode_length_le h)

end BasicResponse

end Ocsp

end RevocationLab
