/-
**What was signed is what is sent.**

A signed response succeeds when its times are in the calendar, its key can sign and its encoding is not
too long, and then it is one envelope.  Read again, it holds the data that went into it, next to a
signature over the octets that this data has in the response.  Two things are signed and sent but not
read: a serial number without content, which a certificate may have, and a nonce under an object
identifier that no decoder accepts.

Main definitions:

* `Ocsp.ResponseParts.signed` — the signed response made of data and a signature;
* `Ocsp.ResponseParts.unsealed?` — the encoding of a response before its length is checked;
* `Ocsp.ResponseParts.isReadable` — what identifiers and a nonce have to be for their response to be read;
* `Ocsp.CertId.Obtainable` — the identifiers that requests have and certificates give.

Main results:

* `Ocsp.ResponseParts.data_eq` — the data, for a clock in the calendar;
* `Ocsp.ResponseParts.sign_eq_ok_iff` — **when a response is signed, and what it is**;
* `Ocsp.ResponseParts.decode_signed_of_isRegular` — with regular certificates, a response is read back
  exactly if the names in them are readable;
* `Ocsp.ResponseParts.decode_of_sign` — **a response that was signed is read back exactly if all its
  serial numbers have content and the kind of its nonce is readable**, and its signature is over the
  octets that are sent.
-/

import RevocationLab.Ocsp.Signing
import RevocationLab.Proofs.Ocsp.Encoding
import RevocationLab.Proofs.Ocsp.Response
import RevocationLab.Proofs.Rsa
import RevocationLab.Proofs.X509.Certificate

set_option autoImplicit false

namespace RevocationLab

open Der

namespace Ocsp

open X509

/-! ### Identifiers -/

/-- The identifiers that there are: those of the questions in a request that was read, and those of
certificates, whose serial numbers were made or read. -/
inductive CertId.Obtainable : CertId → Prop
  | asked {b : Octets} {request : Request} {q : Query} (h : Request.decode? b = some request)
      (hq : q ∈ request.body.queries) : Obtainable q.certId
  | built (issuer certificate : Certificate) (hash : Digest.Algorithm)
      (h : certificate.body.serial.Obtainable) : Obtainable (of issuer certificate hash)

/-- Such an identifier is read back exactly if its serial number has content. -/
theorem CertId.Obtainable.isReadable {c : CertId} (h : c.Obtainable) :
    c.isReadable = !c.serial.content.isEmpty := by
  cases h with
  | asked h hq =>
      have hreadable := Request.isReadable_of_decode? h _ hq
      have hserial := (Bool.and_eq_true_iff.1 hreadable).2
      rw [hreadable, List.isEmpty_eq_false_iff.2 (SerialNumber.content_ne_nil hserial)]
      rfl
  | built issuer certificate hash h =>
      rw [isReadable_of]
      exact h.isReadable

namespace ResponseParts

/-! ### The data -/

/-- The data with these ends of the window of time. -/
def answered (parts : ResponseParts) (thisUpdate nextUpdate : Der.Time) : ResponseData :=
  { responder := .name parts.signer.body.subject
    producedAt := thisUpdate
    responses := parts.statuses.map (SingleResponse.of thisUpdate nextUpdate)
    extensions := echoedNonce parts.nonce }

/-- The window of the data starts with the second of the clock, and is one second long. -/
theorem exists_window_of_data {parts : ResponseParts} {data : ResponseData}
    (h : parts.data = .ok data) :
    ∃ thisUpdate nextUpdate, Der.Time.ofInstant? parts.now = some thisUpdate
      ∧ nextUpdate.seconds = thisUpdate.seconds + responseLifetime
      ∧ data = parts.answered thisUpdate nextUpdate := by
  unfold ResponseParts.data at h
  cases hthis : Der.Time.ofInstant? parts.now with
  | none => simp [hthis] at h
  | some thisUpdate =>
      cases hlater : parts.now.plus? responseLifetime with
      | none => simp [hthis, hlater] at h
      | some later =>
          cases hnext : Der.Time.ofInstant? later with
          | none => simp [hthis, hlater, hnext] at h
          | some nextUpdate =>
              simp only [hthis, hlater, hnext, Except.ok.injEq] at h
              exact ⟨thisUpdate, nextUpdate, rfl, Der.Time.seconds_of_plus? hlater hthis hnext, h.symm⟩

/-- The data has the second of the clock as the start of its window. -/
theorem exists_answered_of_data {parts : ResponseParts} {data : ResponseData}
    (h : parts.data = .ok data) :
    ∃ thisUpdate nextUpdate, Der.Time.ofInstant? parts.now = some thisUpdate
      ∧ data = parts.answered thisUpdate nextUpdate := by
  obtain ⟨thisUpdate, nextUpdate, hthis, -, hdata⟩ := exists_window_of_data h
  exact ⟨thisUpdate, nextUpdate, hthis, hdata⟩

theorem exists_answered {parts : ResponseParts} {data : ResponseData} (h : parts.data = .ok data) :
    ∃ thisUpdate nextUpdate, data = parts.answered thisUpdate nextUpdate := by
  obtain ⟨thisUpdate, nextUpdate, -, hdata⟩ := exists_answered_of_data h
  exact ⟨thisUpdate, nextUpdate, hdata⟩

/-- **The data, for a clock in the calendar** that has a second left in it. -/
theorem data_eq {parts : ResponseParts} {n : Nat} (hn : parts.now.seconds? = some n)
    (h : n < Calendar.lastSecond) :
    parts.data = .ok (parts.answered ⟨n, Nat.le_of_lt h⟩ ⟨n + 1, h⟩) := by
  have hsecond := Instant.seconds?_eq_some_iff.1 hn
  have hlast : ((Calendar.lastSecond : Nat) : Int) ≤ Instant.last.wholeSecond := by decide
  have hthis : Der.Time.ofInstant? parts.now = some ⟨n, Nat.le_of_lt h⟩ :=
    Der.Time.ofInstant?_eq_some_iff.2 hsecond
  -- the end of the window is one second later, which the clock can say and the calendar has
  obtain ⟨later, hlater⟩ := Instant.exists_plus? (t := parts.now) (n := responseLifetime) (by
    unfold responseLifetime
    omega)
  have hnext : Der.Time.ofInstant? later = some ⟨n + 1, h⟩ := by
    have hsum := Instant.wholeSecond_of_plus? hlater
    refine Der.Time.ofInstant?_eq_some_iff.2 ?_
    rw [hsum, ← hsecond]
    rfl
  unfold ResponseParts.data
  rw [hthis, hlater]
  simp only
  rw [hnext]
  rfl

/-! ### When a response is signed -/

/-- The signed response made of data and a signature. -/
def signed (parts : ResponseParts) (data : ResponseData) (signature : Octets) : BasicResponse :=
  { data := data
    algorithm := AlgorithmIdentifier.sha256WithRsa
    signature := BitString.ofOctets signature
    certificates := some parts.chain }

theorem length_data_le {parts : ResponseParts} {data : ResponseData} {signature : Octets}
    (h : (parts.signed data signature).envelope.encode.length ≤ maxLength) :
    data.encode.length ≤ maxLength := by
  have hparts := content_length_le (BasicResponse.encode_length_le h)
  simp only [List.length_append] at hparts
  change (parts.signed data signature).data.encode.length ≤ maxLength
  omega

theorem basic_eq_ok_iff {parts : ResponseParts} {b : BasicResponse} :
    parts.basic = .ok b ↔ ∃ data signature, parts.data = .ok data
      ∧ data.encode.length ≤ maxLength ∧ parts.key.sign? data.encode = some signature
      ∧ b = parts.signed data signature := by
  unfold basic
  cases parts.data with
  | error e => simp [bind, Except.bind]
  | ok data =>
      simp only [bind, Except.bind, sealed?]
      by_cases hlen : data.encode.length ≤ maxLength
      · cases hsign : parts.key.sign? data.encode with
        | none => simp [hlen, hsign]
        | some signature =>
            simp only [hlen, if_true, hsign, Except.ok.injEq]
            constructor
            · rintro rfl
              exact ⟨data, signature, rfl, hlen, hsign, rfl⟩
            · rintro ⟨data', signature', rfl, -, hsign', rfl⟩
              rw [hsign] at hsign'
              cases hsign'
              rfl
      · simp only [hlen, if_false, reduceCtorEq, false_iff]
        rintro ⟨data', signature', hdata, hlen', -⟩
        cases hdata
        exact hlen hlen'

theorem sign_eq_ok_iff_basic {parts : ResponseParts} {d : Octets} :
    parts.sign = .ok d ↔ ∃ b, parts.basic = .ok b ∧ d = b.envelope.encode
      ∧ d.length ≤ maxLength := by
  unfold sign
  cases parts.basic with
  | error e => simp [bind, Except.bind]
  | ok b =>
      have henvelope : Envelope.encode ⟨.successful, some ⟨basicKind, b.encode⟩⟩
          = b.envelope.encode := rfl
      simp only [bind, Except.bind, sealed?, henvelope]
      by_cases hlen : b.envelope.encode.length ≤ maxLength
      · simp only [hlen, if_true, Except.ok.injEq]
        constructor
        · rintro rfl
          exact ⟨b, rfl, rfl, hlen⟩
        · rintro ⟨b', rfl, rfl, -⟩
          rfl
      · simp only [hlen, if_false, reduceCtorEq, false_iff]
        rintro ⟨b', hb, rfl, hlen'⟩
        cases hb
        exact hlen hlen'

/-- **A response is signed** exactly if there is data, the key signs it, and the encoding is not too
long; it is the envelope of the data with the signature. -/
theorem sign_eq_ok_iff {parts : ResponseParts} {d : Octets} :
    parts.sign = .ok d ↔ ∃ data signature, parts.data = .ok data
      ∧ parts.key.sign? data.encode = some signature
      ∧ d = (parts.signed data signature).envelope.encode ∧ d.length ≤ maxLength := by
  rw [sign_eq_ok_iff_basic]
  constructor
  · rintro ⟨b, hb, hd, hlen⟩
    obtain ⟨data, signature, hdata, -, hsign, rfl⟩ := basic_eq_ok_iff.1 hb
    exact ⟨data, signature, hdata, hsign, hd, hlen⟩
  · rintro ⟨data, signature, hdata, hsign, rfl, hlen⟩
    exact ⟨_, basic_eq_ok_iff.2 ⟨data, signature, hdata, length_data_le hlen, hsign, rfl⟩, rfl, hlen⟩

/-- The encoding of the whole response, however long it is. -/
def unsealed? (parts : ResponseParts) : Option Octets :=
  match parts.data with
  | .ok data =>
      (parts.key.sign? data.encode).map fun signature =>
        (parts.signed data signature).envelope.encode
  | .error _ => none

theorem unsealed?_eq_some {parts : ResponseParts} {data : ResponseData} {signature : Octets}
    (hdata : parts.data = .ok data) (hsign : parts.key.sign? data.encode = some signature) :
    parts.unsealed? = some (parts.signed data signature).envelope.encode := by
  rw [unsealed?, hdata]
  simp only [hsign, Option.map_some]

/-- A response whose encoding is not too long is signed. -/
theorem sign_of_unsealed? {parts : ResponseParts} {d : Octets} (h : parts.unsealed? = some d)
    (hlen : d.length ≤ maxLength) : parts.sign = .ok d := by
  unfold unsealed? at h
  split at h
  · next data hdata =>
      obtain ⟨signature, hsign, rfl⟩ := Option.map_eq_some_iff.1 h
      exact sign_eq_ok_iff.2 ⟨data, signature, hdata, hsign, rfl, hlen⟩
  · cases h

/-! ### What is read back -/

/-- A response that was signed reads back as far as its data and its certificates do. -/
theorem decode_signed {parts : ResponseParts} {data : ResponseData} {signature : Octets} {ok : Bool}
    {okCertificate : Certificate → Bool}
    (hdata : Decoder.ReadsBack ResponseData.decoder data.encode data ok)
    (hchain : ∀ c ∈ parts.chain,
      Decoder.ReadsBack Certificate.decoder c.encode c (okCertificate c))
    (h : (parts.signed data signature).envelope.encode.length ≤ maxLength) :
    BasicResponse.decode (parts.signed data signature).envelope.encode =
      if ok && parts.chain.all okCertificate then .ok (parts.signed data signature)
      else .error .malformed := by
  have hcertificates : ∀ l ∈ (parts.signed data signature).certificates, ∀ c ∈ l,
      Decoder.ReadsBack Certificate.decoder c.encode c (okCertificate c) := by
    rintro l hl
    cases hl
    exact hchain
  exact BasicResponse.decode_envelope
    (BasicResponse.readsBack hdata AlgorithmIdentifier.isReadable_sha256WithRsa ⟨signature, rfl⟩
      hcertificates (BasicResponse.encode_length_le h)) h

/-- Whether the identifiers of the certificates and the kind of the nonce are accepted when read. -/
def isReadable (parts : ResponseParts) : Bool :=
  (parts.statuses.all fun e => e.1.isReadable)
    && parts.nonce.all fun n => ObjectId.isReadable n.kind.octets

/-- Identifiers that there are leave open whether the serial numbers have content. -/
theorem isReadable_of_obtainable {parts : ResponseParts}
    (h : ∀ e ∈ parts.statuses, e.1.Obtainable) :
    parts.isReadable = ((parts.statuses.all fun e => !e.1.serial.content.isEmpty)
      && parts.nonce.all fun n => ObjectId.isReadable n.kind.octets) := by
  have hstatuses : (parts.statuses.all fun e => e.1.isReadable)
      = parts.statuses.all fun e => !e.1.serial.content.isEmpty :=
    all_congr_of_mem fun e he => (h e he).isReadable
  rw [isReadable, hstatuses]

/-- The answers are readable as far as the identifiers in them are. -/
theorem all_isReadable_of (thisUpdate nextUpdate : Der.Time) (statuses : List (CertId × Status)) :
    (statuses.map (SingleResponse.of thisUpdate nextUpdate)).all SingleResponse.isReadable
      = statuses.all fun e => e.1.isReadable := by
  rw [List.all_map]
  congr 1
  funext e
  exact Bool.and_true _

theorem areReadable_echoedNonce (nonce : Option Extension) :
    Extension.areReadable (echoedNonce nonce)
      = nonce.all fun n => ObjectId.isReadable n.kind.octets := by
  cases nonce with
  | none => rfl
  | some n => exact Bool.and_true _

/-- The data reads back as far as the identifiers, the nonce and the name of the responder do. -/
theorem readsBack_answered {parts : ResponseParts} {thisUpdate nextUpdate : Der.Time} {ok : Bool}
    (hname : Decoder.whole Decoder.name parts.signer.body.subject.encode
      = if ok then some parts.signer.body.subject else none)
    (h : (parts.answered thisUpdate nextUpdate).encode.length ≤ maxLength) :
    Decoder.ReadsBack ResponseData.decoder (parts.answered thisUpdate nextUpdate).encode
      (parts.answered thisUpdate nextUpdate) (ok && parts.isReadable) := by
  have hparts := content_length_le h
  simp only [List.length_append] at hparts
  have hresponder : (ResponderId.name parts.signer.body.subject).encode.length ≤ maxLength := by
    change (parts.answered thisUpdate nextUpdate).responder.encode.length ≤ maxLength
    omega
  have hback := ResponseData.readsBack
    (ResponderId.readsBack_name (content_length_le hresponder) hname) h
  rw [answered, all_isReadable_of, areReadable_echoedNonce, Bool.and_assoc] at hback
  exact hback

/-- The certificates in a response are no longer than it. -/
theorem length_certificate_le {parts : ResponseParts} {data : ResponseData} {signature : Octets}
    (h : (parts.signed data signature).envelope.encode.length ≤ maxLength) {c : Certificate}
    (hc : c ∈ parts.chain) : c.encode.length ≤ maxLength := by
  have hparts := content_length_le (BasicResponse.encode_length_le h)
  simp only [List.length_append] at hparts
  have hfield : (encodeCertificates (some parts.chain)).length ≤ maxLength := by
    change (encodeCertificates (parts.signed data signature).certificates).length ≤ maxLength
    omega
  exact Nat.le_trans (Octets.length_le_of_mem_flatMap Certificate.encode hc)
    (content_length_le (content_length_le hfield))

/-- **A response with regular certificates**, that of the signer among them, is read back exactly if
the names in its certificates are readable. -/
theorem decode_signed_of_isRegular {parts : ResponseParts} {thisUpdate nextUpdate : Der.Time}
    {signature : Octets} (hsigner : parts.signer ∈ parts.chain)
    (hregular : ∀ c ∈ parts.chain, c.IsRegular)
    (hstatuses : ∀ e ∈ parts.statuses, e.1.isReadable = true)
    (hnonce : ∀ n ∈ parts.nonce, ObjectId.isReadable n.kind.octets = true)
    (h : (parts.signed (parts.answered thisUpdate nextUpdate) signature).envelope.encode.length
      ≤ maxLength) :
    BasicResponse.decode
        (parts.signed (parts.answered thisUpdate nextUpdate) signature).envelope.encode
      = if parts.chain.all fun c => c.body.hasReadableNames then
          .ok (parts.signed (parts.answered thisUpdate nextUpdate) signature)
        else .error .malformed := by
  have hdata := length_data_le h
  have hparts := content_length_le hdata
  simp only [List.length_append] at hparts
  have hresponder : (ResponderId.name parts.signer.body.subject).encode.length ≤ maxLength := by
    change (parts.answered thisUpdate nextUpdate).responder.encode.length ≤ maxLength
    omega
  have hname := (Name.readsBack (hregular _ hsigner).body.subject (content_length_le hresponder)).whole
  have hreadable : parts.isReadable = true :=
    Bool.and_eq_true_iff.2 ⟨List.all_eq_true.2 hstatuses, (Option.all_eq_true _ _).2 hnonce⟩
  have hback := readsBack_answered hname hdata
  rw [hreadable, Bool.and_true] at hback
  have hchain : ∀ c ∈ parts.chain,
      Decoder.ReadsBack Certificate.decoder c.encode c c.body.hasReadableNames :=
    fun c hc => Certificate.readsBack (hregular c hc) (length_certificate_le h hc)
  rw [decode_signed hback hchain h]
  -- the name of the responder is in a certificate of the chain, so it is readable if those are
  have hand : (parts.signer.body.subject.isReadable
      && parts.chain.all fun c => c.body.hasReadableNames)
        = parts.chain.all fun c => c.body.hasReadableNames := by
    rw [Bool.and_eq_right_iff_imp]
    intro hall
    have hnames := List.all_eq_true.1 hall _ hsigner
    unfold Body.hasReadableNames at hnames
    exact (Bool.and_eq_true_iff.1 hnames).2
  rw [hand]

theorem readsBack_certificate {c : Certificate} (h : Certificate.decode? c.encode = some c) :
    Decoder.ReadsBack Certificate.decoder c.encode c true := by
  obtain ⟨hlen, hwhole⟩ := Decoder.decode?_eq_some_iff.1 h
  exact Decoder.ReadsBack.of_whole (by decide) (content_length_le hlen) hwhole

/-- **What becomes of a response that was signed.**  It is read back exactly if every serial number in it
has content and the nonce has a kind that is readable, as the kind of nonces is: then the reader has the
data that went into it, the certificates in their order, and the signature of the key over the octets of
this data.  These octets are in what is sent, also where it is not read back.  Each certificate and the
name of the signer have to be read back from their own encodings. -/
theorem decode_of_sign {parts : ResponseParts} {d : Octets}
    (hsubject : Der.decode? Decoder.name parts.signer.body.subject.encode
      = some parts.signer.body.subject)
    (hchain : ∀ c ∈ parts.chain, Certificate.decode? c.encode = some c)
    (hstatuses : ∀ e ∈ parts.statuses, e.1.Obtainable)
    (h : parts.sign = .ok d) :
    ∃ basic signature, parts.data = .ok basic.data
      ∧ basic.certificates = some parts.chain
      ∧ basic.algorithm = AlgorithmIdentifier.sha256WithRsa
      ∧ parts.key.sign? basic.data.encode = some signature
      ∧ basic.signature = BitString.ofOctets signature
      ∧ signedOctets? d = some basic.data.encode
      ∧ BasicResponse.decode d =
        if (parts.statuses.all fun e => !e.1.serial.content.isEmpty)
            && parts.nonce.all fun n => ObjectId.isReadable n.kind.octets then .ok basic
        else .error .malformed := by
  obtain ⟨data, signature, hdata, hsign, rfl, hlen⟩ := sign_eq_ok_iff.1 h
  obtain ⟨thisUpdate, nextUpdate, rfl⟩ := exists_answered hdata
  have hname : Decoder.whole Decoder.name parts.signer.body.subject.encode
      = if true then some parts.signer.body.subject else none :=
    (Decoder.decode?_eq_some_iff.1 hsubject).2
  have hback := readsBack_answered hname (length_data_le hlen)
  have hcertificates : ∀ c ∈ parts.chain,
      Decoder.ReadsBack Certificate.decoder c.encode c ((fun _ => true) c) :=
    fun c hc => readsBack_certificate (hchain c hc)
  have hdecode := decode_signed hback hcertificates hlen
  have hall : (parts.chain.all fun _ => true) = true := by simp
  rw [hall, Bool.true_and, Bool.and_true, isReadable_of_obtainable hstatuses] at hdecode
  -- the data is taken out as one element, so that it need not be readable
  have hsent : signedOctets?
      (parts.signed (parts.answered thisUpdate nextUpdate) signature).envelope.encode
        = some (parts.answered thisUpdate nextUpdate).encode := by
    refine BasicResponse.signedOctets?_envelope AlgorithmIdentifier.isReadable_sha256WithRsa
      ⟨signature, rfl⟩ ?_ hlen
    rintro l hl
    cases hl
    exact hcertificates
  exact ⟨parts.signed (parts.answered thisUpdate nextUpdate) signature, signature, hdata, rfl, rfl,
    hsign, rfl, hsent, hdecode⟩

/-! ### A response that is read back, and two that are not -/

/-- The name of an authority. -/
def sampleName : Name := [[⟨commonName, ⟨Tag.utf8String, Octets.ofText "Lab"⟩⟩]]

/-- The certificate of an authority. -/
def sampleCertificate : Certificate :=
  { body :=
      { version := .v3
        serial := ⟨[1]⟩
        algorithm := AlgorithmIdentifier.sha256WithRsa
        issuer := sampleName
        validity := ⟨.utc ⟨0, by decide⟩, .utc ⟨86400, by decide⟩⟩
        subject := sampleName
        key := Rsa.sampleKey.publicKey.info
        issuerId := none
        subjectId := none
        extensions := none }
    algorithm := AlgorithmIdentifier.sha256WithRsa
    signature := BitString.ofOctets [] }

/-- A response about one certificate, with a nonce. -/
def sample : ResponseParts :=
  { signer := sampleCertificate
    key := Rsa.sampleKey
    chain := [sampleCertificate]
    statuses := [(CertId.of sampleCertificate sampleCertificate .sha256, .good)]
    nonce := some (nonceExtension [1, 2, 3])
    now := Instant.ofSeconds 0 }

theorem decode_sampleName : Der.decode? Decoder.name sampleName.encode = some sampleName := by
  decide +kernel

theorem decode_sampleCertificate :
    Certificate.decode? sampleCertificate.encode = some sampleCertificate := by
  decide +kernel

/-- An identifier under the certificate of the sample is one that there is. -/
theorem obtainable_of_sample {serial : SerialNumber} (h : serial.Obtainable) :
    (CertId.of sampleCertificate
      { sampleCertificate with body := { sampleCertificate.body with serial } } .sha256).Obtainable :=
  .built _ _ _ h

/-- The response above is read back. -/
theorem decode_of_sign_sample : ∃ d, sample.sign = .ok d
    ∧ ∃ basic signature, sample.data = .ok basic.data
      ∧ basic.certificates = some sample.chain
      ∧ basic.algorithm = AlgorithmIdentifier.sha256WithRsa
      ∧ sample.key.sign? basic.data.encode = some signature
      ∧ basic.signature = BitString.ofOctets signature
      ∧ signedOctets? d = some basic.data.encode
      ∧ BasicResponse.decode d = .ok basic := by
  have hsigned : sample.sign.isOk = true := by decide +kernel
  obtain ⟨d, hd⟩ : ∃ d, sample.sign = .ok d := by
    cases hsign : sample.sign with
    | ok d => exact ⟨d, rfl⟩
    | error e =>
        rw [hsign] at hsigned
        cases hsigned
  have hchain : ∀ c ∈ sample.chain, Certificate.decode? c.encode = some c :=
    List.forall_mem_singleton.2 decode_sampleCertificate
  have hstatuses : ∀ e ∈ sample.statuses, e.1.Obtainable :=
    List.forall_mem_singleton.2 (obtainable_of_sample (.made [1] (by decide)))
  have hreadable : ((sample.statuses.all fun e => !e.1.serial.content.isEmpty)
      && sample.nonce.all fun n => ObjectId.isReadable n.kind.octets) = true := by decide
  obtain ⟨basic, signature, hbasic⟩ := decode_of_sign decode_sampleName hchain hstatuses hd
  rw [if_pos hreadable] at hbasic
  exact ⟨d, hd, basic, signature, hbasic⟩

/-- **A response that is lost**: its certificates and the name of its signer read back from their own
encodings, its identifiers are ones that there are, it is signed, and what was signed is not read. -/
structure IsLost (parts : ResponseParts) : Prop where
  subject : Der.decode? Decoder.name parts.signer.body.subject.encode
    = some parts.signer.body.subject
  chain : ∀ c ∈ parts.chain, Certificate.decode? c.encode = some c
  statuses : ∀ e ∈ parts.statuses, e.1.Obtainable
  unread : ∃ d, parts.sign = .ok d ∧ ¬ ∃ basic, BasicResponse.decode d = .ok basic

/-- A response that is signed and then refused is lost. -/
theorem unread_of_map {parts : ResponseParts}
    (h : parts.sign.map BasicResponse.decode = .ok (.error .malformed)) :
    ∃ d, parts.sign = .ok d ∧ ¬ ∃ basic, BasicResponse.decode d = .ok basic := by
  cases hsign : parts.sign with
  | error e =>
      rw [hsign] at h
      cases h
  | ok d =>
      refine ⟨d, rfl, ?_⟩
      rintro ⟨basic, hbasic⟩
      rw [hsign, Except.map, hbasic] at h
      cases h

/-- The response about a certificate whose serial number has no content. -/
def emptySample : ResponseParts :=
  let certificate := { sampleCertificate with
    body := { sampleCertificate.body with serial := ⟨[]⟩ } }
  { sample with statuses := [(CertId.of sampleCertificate certificate .sha256, .good)] }

/-- The response with a nonce under the object identifier 1.2.3, which has two octets. -/
def shortSample : ResponseParts :=
  { sample with nonce := some ⟨⟨[0x2a, 0x03]⟩, false, octetString [1, 2, 3]⟩ }

/-- A response is lost with a serial number without content, and with a nonce of an unreadable kind. -/
theorem isLost_emptySample_shortSample : IsLost emptySample ∧ IsLost shortSample := by
  have hchain : ∀ c ∈ [sampleCertificate], Certificate.decode? c.encode = some c :=
    List.forall_mem_singleton.2 decode_sampleCertificate
  constructor
  · refine ⟨decode_sampleName, hchain, ?_, unread_of_map (by decide +kernel)⟩
    exact List.forall_mem_singleton.2 (obtainable_of_sample (.made [] (by decide)))
  · refine ⟨decode_sampleName, hchain, ?_, unread_of_map (by decide +kernel)⟩
    exact List.forall_mem_singleton.2 (obtainable_of_sample (.made [1] (by decide)))

end ResponseParts

end Ocsp

end RevocationLab
