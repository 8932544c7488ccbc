/-
**Mistakes of a client.**

A message whose body ends without a failure of the transport is answered, by an authority that can sign
and by the responder of a certificate, whatever else is wrong with it: with status 200, or with an empty
response that says the client made a mistake.  There is one exception.  A body that goes on after the
length that was declared for it looks like a failure of the transport, since reading stops at that
length, and the responder fails; a body that is too short is refused as it should be.

Main definitions:

* `Responder.Ocsp.IsOverlong` — **a body that goes on after its declared length**;
* `Responder.IsAnswer` — an answer, or a refusal of some status.

Main results:

* `Responder.Ocsp.intake_eq_failed_iff` — only an overlong body is blamed on the transport;
* `Responder.isAnswer_of_body` — **every other message is answered**, and every other length that is
  declared wrongly is refused.
-/

import RevocationLab.Proofs.Responder.Delivery
import RevocationLab.Responder.Certificate

set_option autoImplicit false

namespace RevocationLab

open Der X509

namespace Responder

/-! ### Answers -/

/-- An answer of status 200, or a refusal: an empty response of some other status. -/
def IsAnswer (refusal : Nat) (outcome : Outcome) : Prop :=
  ∃ response, outcome = .response response
    ∧ (response.status = 200
      ∨ response.status = refusal ∧ response.body = []
        ∧ response.headers.get? "content-length" = some (Octets.ofText "0"))

/-- An empty response is a refusal. -/
theorem isAnswer_empty (status : Nat) : IsAnswer status (.response (Http.Response.empty status)) :=
  ⟨_, rfl, Or.inr ⟨rfl, rfl, rfl⟩⟩

/-- The responder of a certificate answers a GET and refuses everything else. -/
theorem Certificate.isAnswer_respond {certificate : X509.Certificate}
    (hfits : certificate.encode.length ≤ maxLength) (message : Http.Request) :
    IsAnswer 405 (Certificate.respond certificate message).outcome := by
  have hsealed : sealed? certificate.encode = some certificate.encode := by
    rw [sealed?, if_pos hfits]
  rw [Certificate.respond, hsealed]
  cases message.isGet with
  | true => exact ⟨_, rfl, Or.inl rfl⟩
  | false => exact isAnswer_empty 405

namespace Ocsp

open RevocationLab.Ocsp Lab

/-! ### Overlong bodies -/

variable {message : Http.Request}

/-- **A body that goes on after its declared length**, in a message that is read as far as its body: a
POST with the content type of a request and a length within the limit. -/
structure IsOverlong (message : Http.Request) : Prop where
  isPost : message.isPost = true
  contentType : hasContentType message.headers = true
  length : ∃ declared, message.headers.contentLength? = some declared
    ∧ declared ≤ message.limit.getD Http.defaultLimit ∧ declared < message.body.octets.length

/-- Only an overlong body is blamed on the transport. -/
theorem intake_eq_failed_iff (hend : message.body.failure = none) {text : String} :
    intake message = .failed text ↔ text = Http.Body.overlong ∧ IsOverlong message := by
  have hread : message.read = .error (.transport text) ↔ _ := Http.readBody_eq_transport_iff hend
  by_cases h : message.isPost = true ∧ hasContentType message.headers = true
  · obtain ⟨hpost, htype⟩ := h
    have hfailed : intake message = .failed text ↔ message.read = .error (.transport text) := by
      rw [intake_of_isPost hpost htype]
      split <;> simp_all
    rw [hfailed, hread]
    constructor
    · rintro ⟨htext, hlength⟩
      exact ⟨htext, hpost, htype, hlength⟩
    · rintro ⟨htext, hover⟩
      exact ⟨htext, hover.length⟩
  · constructor
    · intro hfailed
      rcases intake_of_not_isPost h with ⟨b, hb, -⟩ | hrefused
      · rw [hb] at hfailed
        cases hfailed
      · rw [hrefused] at hfailed
        cases hfailed
    · rintro ⟨-, hover⟩
      exact absurd ⟨hover.isPost, hover.contentType⟩ h

/-- The body of a POST with a wrong length is not taken in. -/
theorem intake_ne_octets (hend : message.body.failure = none) (hpost : message.isPost = true)
    {declared : Nat} (hlength : message.headers.contentLength? = some declared)
    (hne : declared ≠ message.body.octets.length) (b : Octets) : intake message ≠ .octets b := by
  intro h
  by_cases htype : hasContentType message.headers = true
  · rw [intake_of_isPost hpost htype] at h
    split at h
    · next hread =>
        obtain ⟨-, hdeclared, -⟩ := (Http.readBody_eq_ok_iff hend).1 hread
        rw [hlength] at hdeclared
        exact hne (Option.some.inj hdeclared)
    · cases h
    · cases h
  · rcases intake_of_not_isPost fun hboth => htype hboth.2 with ⟨-, -, hget⟩ | hrefused
    · rw [Http.Request.isGet_of_isPost hpost] at hget
      cases hget
    · rw [hrefused] at h
      cases h

/-! ### Answering -/

section

variable {a : Authority} {chain : List Certificate} {now : Instant} {n : Nat}

/-- What is neither taken in nor blamed on the transport is refused. -/
theorem outcome_of_intake_ne (hfailed : ∀ text, intake message ≠ .failed text)
    (hoctets : ∀ b, intake message ≠ .octets b) :
    (respond a chain now message).outcome = .response (Http.Response.empty 400) := by
  unfold respond
  cases hintake : intake message with
  | octets b => exact absurd hintake (hoctets b)
  | refused => rfl
  | rejected cause => rfl
  | failed text => exact absurd hintake (hfailed text)

/-- What is taken in is answered. -/
theorem isAnswer_of_octets (hkey : a.key.canSign = true) (hnow : now.seconds? = some n)
    (hn : n < Calendar.lastSecond) {b : Octets} (hb : intake message = .octets b)
    (hfits : ∀ request d, Request.decode? b = some request →
      (parts a chain now request).unsealed? = some d → d.length ≤ maxLength) :
    IsAnswer 400 (respond a chain now message).outcome := by
  cases hrequest : Request.decode? b with
  | none =>
      rw [respond, hb]
      simp only [answer, hrequest]
      exact isAnswer_empty 400
  | some request =>
      -- the response is made, and the key signs it
      have hdata : (parts a chain now request).data = .ok
          ((parts a chain now request).answered ⟨n, Nat.le_of_lt hn⟩ ⟨n + 1, hn⟩) :=
        ResponseParts.data_eq hnow hn
      obtain ⟨signature, hsignature⟩ := Rsa.KeyPair.exists_sign? hkey
        ((parts a chain now request).answered ⟨n, Nat.le_of_lt hn⟩ ⟨n + 1, hn⟩).encode
      have hunsealed := ResponseParts.unsealed?_eq_some hdata hsignature
      have hlen := hfits request _ hrequest hunsealed
      have hsign := ResponseParts.sign_of_unsealed? hunsealed hlen
      exact ⟨_, outcome_of_sign hb hrequest hsign, Or.inl rfl⟩

end

/-- **Every message with a clean body is answered**, unless the body is overlong: by an authority that
can sign, for a clock in the calendar with a second left in it, and by the responder of a certificate,
as long as what they send is not too long.  A POST with any other length than its body has is refused.
An authority fails on an overlong body. -/
theorem isAnswer_of_body {a : Authority} (hkey : a.key.canSign = true) (chain : List Certificate)
    {now : Instant} {n : Nat} (hnow : now.seconds? = some n) (hn : n < Calendar.lastSecond)
    {message : Http.Request} (hend : message.body.failure = none)
    (hfits : ∀ b request d, intake message = .octets b →
      Request.decode? b = some request →
      (parts a chain now request).unsealed? = some d → d.length ≤ maxLength)
    {certificate : Certificate} (hcertificate : certificate.encode.length ≤ maxLength) :
    (¬ IsOverlong message → IsAnswer 400 (respond a chain now message).outcome)
    ∧ (∀ declared, message.isPost = true → message.headers.contentLength? = some declared →
        declared ≠ message.body.octets.length → ¬ IsOverlong message →
        (respond a chain now message).outcome = .response (Http.Response.empty 400))
    ∧ (IsOverlong message →
        (respond a chain now message).outcome = .failure (.body Http.Body.overlong))
    ∧ IsAnswer 405 (Responder.Certificate.respond certificate message).outcome := by
  have hnofail : ¬ IsOverlong message → ∀ text, intake message ≠ .failed text := by
    intro hover text hfailed
    exact hover ((intake_eq_failed_iff hend).1 hfailed).2
  refine ⟨?_, ?_, ?_, Responder.Certificate.isAnswer_respond hcertificate message⟩
  · intro hover
    by_cases hoctets : ∃ b, intake message = .octets b
    · obtain ⟨b, hb⟩ := hoctets
      exact isAnswer_of_octets hkey hnow hn hb fun request d => hfits b request d hb
    · rw [outcome_of_intake_ne (hnofail hover) fun b hb => hoctets ⟨b, hb⟩]
      exact isAnswer_empty 400
  · intro declared hpost hlength hne hover
    exact outcome_of_intake_ne (hnofail hover) (intake_ne_octets hend hpost hlength hne)
  · intro hover
    rw [respond, (intake_eq_failed_iff hend).2 ⟨rfl, hover⟩]

/-! ### A body that is read, and two that are not -/

/-- Two octets as the body of a POST that declares another length. -/
def misdeclaredMessage (declared : String) : Http.Request :=
  { method := ⟨"POST"⟩
    target := ⟨"/0/", none⟩
    headers := [⟨"content-type", Octets.ofText "application/ocsp-request"⟩,
      ⟨"content-length", Octets.ofText declared⟩]
    body := ⟨[[0x30], [0x30]], none⟩ }

/-- A root answers what is read, and refuses a body that is too short. -/
theorem isAnswer_sampleMessage : ∃ a,
    (History.run (rootEvents "Lab")).lab.authorities.get? 0 = some a
    ∧ IsAnswer 400 (respond a [] (Instant.ofSeconds 5) sampleMessage).outcome
    ∧ (respond a [] (Instant.ofSeconds 5) (misdeclaredMessage "3")).outcome
      = .response (Http.Response.empty 400)
    ∧ IsAnswer 405 (Responder.Certificate.respond a.certificate sampleMessage).outcome := by
  have hroot : ((History.run (rootEvents "Lab")).lab.authorities.get? 0).isSome = true := by
    decide +kernel
  obtain ⟨a, ha⟩ := Option.isSome_iff_exists.1 hroot
  have hkeys : ∀ a ∈ (History.run (rootEvents "Lab")).lab.authorities.get? 0,
      a.key.canSign = true ∧ a.certificate.encode.length ≤ maxLength := by
    decide +kernel
  have hfits : ∀ a ∈ (History.run (rootEvents "Lab")).lab.authorities.get? 0,
      ∀ request ∈ Request.decode? sampleOctets,
      ∀ d ∈ (parts a [] (Instant.ofSeconds 5) request).unsealed?, d.length ≤ maxLength := by
    decide +kernel
  obtain ⟨hkey, hcertificate⟩ := hkeys a ha
  have hnow : (Instant.ofSeconds 5).seconds? = some 5 := by decide
  -- the message that is read
  have hclean : sampleMessage.body.failure = none := rfl
  have hread := isAnswer_of_body hkey [] hnow (by decide) hclean
    (fun b request d hb hrequest hd => hfits a ha request
      (Intake.octets.inj (hb.symm.trans intake_sampleMessage) ▸ hrequest) d hd) hcertificate
  have hsample : ¬ IsOverlong sampleMessage := by
    intro hover
    have hfailed := (intake_eq_failed_iff hclean).2 ⟨rfl, hover⟩
    rw [intake_sampleMessage] at hfailed
    cases hfailed
  -- the message with a body that is too short
  have hend : (misdeclaredMessage "3").body.failure = none := rfl
  have hlength : (misdeclaredMessage "3").headers.contentLength? = some 3 := by decide +kernel
  have hne : 3 ≠ (misdeclaredMessage "3").body.octets.length := by decide
  have hpost : (misdeclaredMessage "3").isPost = true := by decide
  have hshort := isAnswer_of_body hkey [] hnow (by decide) hend
    (fun b request d hb => absurd hb (intake_ne_octets hend hpost hlength hne b)) hcertificate
  have hmisdeclared : ¬ IsOverlong (misdeclaredMessage "3") := by
    intro hover
    obtain ⟨declared, hdeclared, -, hlt⟩ := hover.length
    obtain rfl := Option.some.inj (hlength.symm.trans hdeclared)
    exact absurd hlt (by decide)
  exact ⟨a, ha, hread.1 hsample, hshort.2.1 3 hpost hlength hne hmisdeclared, hread.2.2.2⟩

/-- A body of two octets is too long for a length of one, and a root that can sign fails on it. -/
theorem respond_misdeclaredMessage : (misdeclaredMessage "1").body.failure = none ∧ ∃ a,
    (History.run (rootEvents "Lab")).lab.authorities.get? 0 = some a ∧ a.key.canSign = true
    ∧ (respond a ((History.run (rootEvents "Lab")).lab.authorities.chain 0) (Instant.ofSeconds 5)
        (misdeclaredMessage "1")).outcome = .failure (.body "length limit exceeded") := by
  have hkeys : ((History.run (rootEvents "Lab")).lab.authorities.get? 0).map
      (fun a => a.key.canSign) = some true := by
    decide +kernel
  obtain ⟨a, ha, hkey⟩ := Option.map_eq_some_iff.1 hkeys
  have hintake : intake (misdeclaredMessage "1") = .failed "length limit exceeded" := by
    decide +kernel
  refine ⟨rfl, a, ha, hkey, ?_⟩
  rw [respond, hintake]

end Ocsp

end Responder

end RevocationLab
