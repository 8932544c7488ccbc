/-
**Requests and the identifiers in them.**

An identifier of a certificate has one encoding: the octets that it was read from are those that are
written of it, and it reads back from them.  A request that is built here is read back if its
identifiers are readable; of a request that comes from elsewhere, which may be written in several ways,
the identifiers still re-encode to the octets that they had inside it.

Main definitions:

* `Ocsp.CertId.isReadable` — the identifiers that are read back;
* `Ocsp.Request.certIdOctets?` — the octets that the identifiers have inside a request.

Main results:

* `Ocsp.CertId.readsBack`, `Ocsp.CertId.whole_canonical` — **an identifier has one encoding**;
* `Ocsp.Request.decode?_encode?` — **a request that is built is read back** if its identifiers are
  readable;
* `Ocsp.Request.certIdOctets?_of_decode?` — **the identifiers of a request re-encode to the octets that
  they had inside it**;
* `Ocsp.Request.isReadable_of_decode?` — the identifiers of a request are readable.
-/

import RevocationLab.Ocsp.Request
import RevocationLab.Proofs.Der.Canonical
import RevocationLab.Proofs.X509.Extension

set_option autoImplicit false

namespace RevocationLab

open Der

/-! ### Canonical fields -/

namespace Der

theorem ObjectId.canonical :
    Decoder.Canonical Decoder.objectId encode fun o => isReadable o.octets := by
  refine Decoder.Canonical.reading fun c o h => ?_
  split at h
  · next hc =>
      cases h
      exact ⟨rfl, hc⟩
  · cases h

end Der

namespace X509

theorem AlgorithmIdentifier.canonical :
    Decoder.Canonical decoder encode AlgorithmIdentifier.isReadable := by
  refine Decoder.Canonical.inside fun c a h => ?_
  rw [Decoder.whole_eq_some_iff] at h
  obtain ⟨id, r, rfl, hid, h⟩ := ObjectId.canonical.bind_run h
  obtain ⟨o, r', rfl, ho, h⟩ := Decoder.Canonical.optional_any.bind_run h
  cases h
  exact ⟨by rw [List.append_nil], by rw [isReadable, hid, ho]; rfl⟩

theorem SerialNumber.canonical :
    Decoder.Canonical decoder encode SerialNumber.isReadable := by
  refine Decoder.Canonical.reading fun c s h => ?_
  split at h
  · next hc =>
      cases h
      exact ⟨rfl, by simp [isReadable, hc.1, hc.2]⟩
  · cases h

end X509

namespace Ocsp

open X509

/-! ### Identifiers -/

namespace CertId

/-- Whether a decoder accepts what is written. -/
def isReadable (c : CertId) : Bool := c.hash.isReadable && c.serial.isReadable

/-- The content of the element of an identifier. -/
def content (c : CertId) : Octets :=
  c.hash.encode ++ octetString c.nameHash ++ octetString c.keyHash ++ c.serial.encode

/-- The decoder of the content of an identifier. -/
def contentDecoder : Decoder CertId := do
  return ⟨← AlgorithmIdentifier.decoder, ← Decoder.octetString, ← Decoder.octetString,
    ← SerialNumber.decoder⟩

/-- **An identifier reads back** if it is readable. -/
theorem readsBack (c : CertId) (h : c.encode.length ≤ maxLength) :
    Decoder.ReadsBack decoder c.encode c c.isReadable := by
  have hlen := content_length_le h
  have hparts := hlen
  simp only [List.length_append] at hparts
  refine Decoder.ReadsBack.inside (by decide) hlen ?_
  simp only [List.append_assoc]
  rw [Decoder.whole_bind (c.hash.readsBack (by omega)),
    Decoder.whole_bind (Decoder.ReadsBack.octetString c.nameHash (by omega)), if_pos rfl,
    Decoder.whole_bind (Decoder.ReadsBack.octetString c.keyHash (by omega)), if_pos rfl,
    Decoder.whole_bind_last (c.serial.readsBack (by omega))]
  unfold isReadable
  cases c.hash.isReadable <;> rfl

/-- **The octets that an identifier is read from are those that are written of it**, and it is
readable. -/
theorem whole_canonical {b : Octets} {c : CertId} (h : contentDecoder.whole b = some c) :
    b = c.content ∧ c.isReadable = true := by
  rw [Decoder.whole_eq_some_iff] at h
  obtain ⟨hash, r, rfl, hhash, h⟩ := AlgorithmIdentifier.canonical.bind_run h
  obtain ⟨nameHash, r, rfl, -, h⟩ := Decoder.Canonical.octetString.bind_run h
  obtain ⟨keyHash, r, rfl, -, h⟩ := Decoder.Canonical.octetString.bind_run h
  obtain ⟨serial, r, rfl, hserial, h⟩ := SerialNumber.canonical.bind_run h
  cases h
  exact ⟨by simp [content], by simp [isReadable, hhash, hserial]⟩

theorem canonical : Decoder.Canonical decoder encode CertId.isReadable :=
  Decoder.Canonical.inside fun _ _ => whole_canonical

theorem isReadable_of_decoder : Decoder.Yields decoder fun c => c.isReadable = true :=
  fun b c rest h => (canonical b c rest h).2

/-- An identifier of a certificate is readable if the certificate's serial number is. -/
theorem isReadable_of (issuer certificate : Certificate) (hash : Digest.Algorithm) :
    (of issuer certificate hash).isReadable = certificate.body.serial.isReadable := by
  cases hash <;> exact Bool.true_and _

end CertId

/-! ### Versions -/

/-- The version, which is not written, is read in front of what is no field zero. -/
theorem whole_versionDecoder {β : Type} {r : Octets} (hr : Decoder.Absent 0 r)
    (f : Unit → Decoder β) : Decoder.whole (versionDecoder >>= f) r = Decoder.whole (f ()) r := by
  rw [versionDecoder, bind_assoc, Decoder.whole_explicit_absent hr]
  rfl

/-! ### Requests that are built here -/

namespace Query

theorem encode_ne_nil (q : Query) : q.encode ≠ [] := element_ne_nil _ _

/-- Whether a decoder accepts what is written. -/
def isReadable (q : Query) : Bool := q.certId.isReadable && Extension.areReadable q.extensions

/-- **A question reads back** if it is readable. -/
theorem readsBack (q : Query) (h : q.encode.length ≤ maxLength) :
    Decoder.ReadsBack decoder q.encode q q.isReadable := by
  have hlen := content_length_le h
  have hparts := hlen
  simp only [List.length_append] at hparts
  refine Decoder.ReadsBack.inside (by decide) hlen ?_
  rw [Decoder.whole_bind (q.certId.readsBack (by omega)),
    Extension.whole_field (by decide) _ (by omega)]
  unfold isReadable
  cases q.certId.isReadable <;> rfl

end Query

namespace RequestBody

/-- **The questions read back** if they are readable, where nobody is named as the requestor. -/
theorem readsBack {b : RequestBody} (hb : b.requestor = none) (h : b.encode.length ≤ maxLength) :
    Decoder.ReadsBack decoder b.encode b
      (b.queries.all Query.isReadable && Extension.areReadable b.extensions) := by
  rcases b with ⟨requestor, queries, extensions⟩
  cases hb
  have hlen := content_length_le h
  have hparts := hlen
  simp only [List.length_append] at hparts
  have hlist : (element Tag.sequence (queries.flatMap Query.encode)).length ≤ maxLength := by omega
  have hcontent := content_length_le hlist
  have hqueries : Decoder.ReadsBack (Decoder.listOf Query.decoder)
      (element Tag.sequence (queries.flatMap Query.encode)) queries (queries.all Query.isReadable) :=
    Decoder.ReadsBack.listOf (fun q hq => q.readsBack
      (Nat.le_trans (Octets.length_le_of_mem_flatMap Query.encode hq) hcontent))
      (fun q _ => q.encode_ne_nil) hcontent
  have habsent : ∀ n, Decoder.Absent n (element Tag.sequence (queries.flatMap Query.encode)
      ++ Extension.encodeField 2 extensions) :=
    fun n => Decoder.Absent.element (by decide) (by decide) n _ _
  refine Decoder.ReadsBack.inside (by decide) hlen ?_
  simp only [Option.map_none, Option.getD_none, List.nil_append]
  rw [whole_versionDecoder (habsent 0), Decoder.whole_explicit_absent (habsent 1),
    Decoder.whole_bind hqueries, Extension.whole_field (by decide) _ (by omega)]
  cases queries.all Query.isReadable <;> rfl

end RequestBody

namespace Request

/-- **A request that is built here is read back** exactly if its identifiers are readable. -/
theorem decode?_encode? {certIds : List CertId} {nonce : Option Octets} {b : Octets}
    (h : encode? certIds nonce = some b) :
    decode? b = if certIds.all CertId.isReadable then some (build certIds nonce) else none := by
  unfold encode? sealed? at h
  split at h
  · next hmax =>
      cases h
      have hlen := content_length_le hmax
      have hparts := hlen
      simp only [List.length_append] at hparts
      have hbody := RequestBody.readsBack (b := (build certIds nonce).body) rfl (by omega)
      have hback : Decoder.ReadsBack decoder (build certIds nonce).encode (build certIds nonce)
          ((build certIds nonce).body.queries.all Query.isReadable
            && Extension.areReadable (build certIds nonce).body.extensions) := by
        refine Decoder.ReadsBack.inside (by decide) hlen ?_
        change Decoder.whole _ ((build certIds nonce).body.encode ++ []) = _
        rw [Decoder.whole_bind hbody, Decoder.whole_explicit_absent (Decoder.Absent.nil 0)]
        rfl
      have hnonce : Extension.areReadable (build certIds nonce).body.extensions = true := by
        cases nonce <;> rfl
      have hqueries : (build certIds nonce).body.queries.all Query.isReadable
          = certIds.all CertId.isReadable := by
        simp [build, List.all_map, Query.isReadable, Extension.areReadable, Function.comp_def]
      rw [decode?, hback.decode? hmax, hqueries, hnonce, Bool.and_true]
  · cases h

end Request

/-! ### The octets of identifiers inside a request -/

/-- The octets of the identifier inside a question: those of its first element. -/
def Query.certIdSlice : Decoder Octets :=
  Decoder.sequence do
    let octets ← Decoder.taken Decoder.any
    let _ ← Decoder.explicit 0 Extension.listDecoder
    return octets

/-- The octets of the identifiers inside the questions of a request. -/
def RequestBody.certIdSlices : Decoder (List Octets) :=
  Decoder.sequence do
    versionDecoder
    let _ ← Decoder.explicit 1 GeneralName.decoder
    let slices ← Decoder.listOf Query.certIdSlice
    let _ ← Decoder.explicit 2 Extension.listDecoder
    return slices

namespace Request

/-- The octets of the identifiers inside a request. -/
def certIdSlices : Decoder (List Octets) :=
  Decoder.sequence do
    let slices ← RequestBody.certIdSlices
    let _ ← Decoder.explicit 0 RequestSignature.decoder
    return slices

/-- The octets that the identifiers have inside a request, in the order of its questions. -/
def certIdOctets? (b : Octets) : Option (List Octets) := Der.decode? certIdSlices b

theorem follows_query :
    Decoder.Follows Query.decoder Query.certIdSlice fun q => q.certId.encode := by
  refine Decoder.Follows.inside ?_ Tag.sequence
  refine (Decoder.Follows.taken fun c x h => (CertId.whole_canonical h).1).bind fun c => ?_
  exact (Decoder.Follows.self _).bind fun es => Decoder.Follows.pure rfl

theorem follows_body : Decoder.Follows RequestBody.decoder RequestBody.certIdSlices
    fun b => b.queries.map fun q => q.certId.encode := by
  refine Decoder.Follows.inside ?_ Tag.sequence
  refine (Decoder.Follows.self versionDecoder).bind fun _ => ?_
  refine (Decoder.Follows.self _).bind fun requestor => ?_
  refine follows_query.listOf.bind fun queries => ?_
  exact (Decoder.Follows.self _).bind fun es => Decoder.Follows.pure rfl

theorem follows_request : Decoder.Follows decoder certIdSlices
    fun r => r.body.queries.map fun q => q.certId.encode := by
  refine Decoder.Follows.inside ?_ Tag.sequence
  refine follows_body.bind fun body => ?_
  exact (Decoder.Follows.self _).bind fun signature => Decoder.Follows.pure rfl

/-- **The identifiers of a request re-encode to the octets that they had inside it**, in the same order
and as often. -/
theorem certIdOctets?_of_decode? {b : Octets} {r : Request} (h : decode? b = some r) :
    certIdOctets? b = some (r.body.queries.map fun q => q.certId.encode) := by
  obtain ⟨hlen, hwhole⟩ := Decoder.decode?_eq_some_iff.1 h
  exact Decoder.decode?_eq_some_iff.2 ⟨hlen, follows_request.whole hwhole⟩

theorem yields_queries :
    Decoder.Yields decoder fun r => ∀ q ∈ r.body.queries, q.certId.isReadable = true := by
  have hquery : Decoder.Yields Query.decoder fun q => q.certId.isReadable = true := by
    refine Decoder.Yields.inside ?_ Tag.sequence
    refine CertId.isReadable_of_decoder.bind fun c hc => ?_
    exact (Decoder.Yields.of_forall _ fun _ => trivial).bind fun es _ => Decoder.Yields.pure hc
  have hbody : Decoder.Yields RequestBody.decoder
      fun b => ∀ q ∈ b.queries, q.certId.isReadable = true := by
    refine Decoder.Yields.inside ?_ Tag.sequence
    refine (Decoder.Yields.of_forall versionDecoder fun _ => trivial).bind fun _ _ => ?_
    refine (Decoder.Yields.of_forall _ fun _ => trivial).bind fun requestor _ => ?_
    refine hquery.listOf.bind fun queries hqueries => ?_
    exact (Decoder.Yields.of_forall _ fun _ => trivial).bind fun es _ =>
      Decoder.Yields.pure hqueries
  refine Decoder.Yields.inside ?_ Tag.sequence
  refine hbody.bind fun body hqueries => ?_
  exact (Decoder.Yields.of_forall _ fun _ => trivial).bind fun signature _ =>
    Decoder.Yields.pure hqueries

/-- **The identifiers of a request are readable.** -/
theorem isReadable_of_decode? {b : Octets} {r : Request} (h : decode? b = some r) :
    ∀ q ∈ r.body.queries, q.certId.isReadable = true :=
  yields_queries.whole (Decoder.decode?_eq_some_iff.1 h).2

end Request

end Ocsp

end RevocationLab
