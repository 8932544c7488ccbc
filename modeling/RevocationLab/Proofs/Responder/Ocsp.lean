/-
**What a client reads in an answer.**

A request that is read is answered with one status for each of its questions, in their order, under the
identifiers that the request has: they re-encode to the octets that they had inside it.  The answer is
read back if the names in the chain of the authority are; an authority may have a name that is written
and not read, since the text of a common name may add attributes of any kind.

Main definitions:

* `Responder.Ocsp.Answers` — **what an answer says to a request**.

Main results:

* `Responder.Ocsp.respond_of_run` — **every request that is read is answered**, and the answer is read
  back exactly if the names in the chain are readable.
-/

import RevocationLab.Proofs.Lab.Status
import RevocationLab.Proofs.Ocsp.Signing
import RevocationLab.Responder.Ocsp

set_option autoImplicit false

namespace RevocationLab

open Der X509

namespace Responder

namespace Ocsp

open RevocationLab.Ocsp Lab

/-! ### What an answer says -/

/-- **What an answer says to a request**, of an authority with a chain, `n` seconds after the start of
1970; the request was read from the octets `b`. -/
structure Answers (a : Authority) (chain : List Certificate) (n : Nat) (b : Octets)
    (request : RevocationLab.Ocsp.Request) (basic : BasicResponse) : Prop where
  /-- One answer for each question, in the same order and as often. -/
  certIds : basic.data.responses.map SingleResponse.certId
    = request.body.queries.map Query.certId
  /-- The identifiers re-encode to the octets that they had inside the request. -/
  octets : Request.certIdOctets? b = some (basic.data.responses.map fun s => s.certId.encode)
  /-- The statuses are those of the authority. -/
  statuses : ∀ s ∈ basic.data.responses, s.status = a.status s.certId
  /-- The time of production is the second of the clock. -/
  producedAt : basic.data.producedAt.seconds = n
  /-- A status holds from the time of production for one second. -/
  window : ∀ s ∈ basic.data.responses, s.thisUpdate = basic.data.producedAt
    ∧ ∃ next, s.nextUpdate = some next ∧ next.seconds = s.thisUpdate.seconds + 1
  /-- Without a nonce there are no extensions. -/
  noNonce : (∀ es ∈ request.body.extensions, ∀ e ∈ es, e.kind ≠ nonceKind) →
    basic.data.extensions = none
  /-- The first nonce is the only extension, with its value and not critical. -/
  nonce : ∀ before e after, request.body.extensions = some (before ++ e :: after) →
    (∀ e' ∈ before, e'.kind ≠ nonceKind) → e.kind = nonceKind →
    basic.data.extensions = some [⟨nonceKind, false, e.value⟩]
  /-- The certificates are those of the chain. -/
  certificates : basic.certificates = some chain

/-! ### Nonces -/

theorem findNonce?_eq_none {extensions : Option (List Extension)}
    (h : ∀ es ∈ extensions, ∀ e ∈ es, e.kind ≠ nonceKind) : findNonce? extensions = none := by
  cases extensions with
  | none => rfl
  | some es =>
      have hall := h es rfl
      simpa [findNonce?] using hall

theorem findNonce?_eq_some {before after : List Extension} {e : Extension}
    (h : ∀ e' ∈ before, e'.kind ≠ nonceKind) (he : e.kind = nonceKind) :
    findNonce? (some (before ++ e :: after)) = some e := by
  have hbefore : before.find? (fun e => e.kind == nonceKind) = none := by simpa using h
  change (before ++ e :: after).find? _ = some e
  rw [List.find?_append, hbefore]
  simp [he]

theorem kind_of_findNonce? {extensions : Option (List Extension)} {e : Extension}
    (h : findNonce? extensions = some e) : e.kind = nonceKind := by
  obtain ⟨es, -, hfind⟩ := Option.bind_eq_some_iff.1 h
  simpa using List.find?_some hfind

/-! ### The answer -/

/-- What is signed answers the request that it was made for. -/
theorem answers_signed {a : Authority} {chain : List Certificate} {now : Instant} {n : Nat}
    {b : Octets} {request : RevocationLab.Ocsp.Request} (hrequest : Request.decode? b = some request)
    (hn : n < Calendar.lastSecond) (signature : Octets) :
    Answers a chain n b request ((parts a chain now request).signed
      ((parts a chain now request).answered ⟨n, Nat.le_of_lt hn⟩ ⟨n + 1, hn⟩) signature) where
  certIds := by
    change ((request.body.queries.map _).map _).map _ = _
    simp [SingleResponse.of]
  octets := by
    rw [Request.certIdOctets?_of_decode? hrequest]
    change _ = some (((request.body.queries.map _).map _).map _)
    simp [SingleResponse.of]
  statuses := by
    intro s hs
    obtain ⟨e, he, rfl⟩ := List.mem_map.1 hs
    obtain ⟨q, -, rfl⟩ := List.mem_map.1 he
    rfl
  producedAt := rfl
  window := by
    intro s hs
    obtain ⟨e, -, rfl⟩ := List.mem_map.1 hs
    exact ⟨rfl, _, rfl, rfl⟩
  noNonce := by
    intro h
    change echoedNonce (findNonce? request.body.extensions) = none
    rw [findNonce?_eq_none h]
    rfl
  nonce := by
    intro before e after hextensions hbefore he
    change echoedNonce (findNonce? request.body.extensions) = _
    rw [hextensions, findNonce?_eq_some hbefore he, ← he]
    rfl
  certificates := rfl

@[simp] theorem chain_parts (a : Authority) (chain : List Certificate) (now : Instant)
    (request : RevocationLab.Ocsp.Request) : (parts a chain now request).chain = chain := rfl

@[simp] theorem success_body (body : Octets) : (success body).body = body := rfl

theorem outcome_of_sign {a : Authority} {chain : List Certificate} {now : Instant}
    {message : Http.Request} {b : Octets} {request : RevocationLab.Ocsp.Request} {d : Octets}
    (hb : intake message = .octets b) (hrequest : Request.decode? b = some request)
    (h : (parts a chain now request).sign = .ok d) :
    (respond a chain now message).outcome = .response (success d) := by
  rw [respond, hb]
  simp only [answer, hrequest, h]

/-- What is answered is a refusal, or a signed response to a request. -/
theorem response_cases {a : Authority} {chain : List Certificate} {now : Instant}
    {message : Http.Request} {response : Http.Response}
    (h : (respond a chain now message).outcome = .response response) :
    response = Http.Response.empty 400
      ∨ ∃ request basic, (parts a chain now request).basic = .ok basic
        ∧ basic.envelope.encode.length ≤ maxLength ∧ response = success basic.envelope.encode := by
  unfold respond answer at h
  split at h
  · split at h
    · cases h
      exact Or.inl rfl
    · next request hrequest =>
        split at h
        · next cause hcause => cases cause <;> cases h
        · next d hd =>
            obtain ⟨basic, hbasic, rfl, hlen⟩ := ResponseParts.sign_eq_ok_iff_basic.1 hd
            cases h
            exact Or.inr ⟨request, basic, hbasic, hlen, rfl⟩
  · cases h
    exact Or.inl rfl
  · cases h
    exact Or.inl rfl
  · cases h

/-- **Every request that is read is answered**, by every authority that can sign, for a clock in the
calendar with a second left in it, as long as the answer is not too long.  The answer is read back
exactly if the names in the chain of the authority are readable. -/
theorem respond_of_run {es : List Event} {place : Nat} {a : Authority}
    (ha : (History.run es).lab.authorities.get? place = some a) (hkey : a.key.canSign = true)
    {now : Instant} {n : Nat} (hnow : now.seconds? = some n) (hn : n < Calendar.lastSecond)
    {message : Http.Request} {b : Octets} (hb : intake message = .octets b)
    {request : RevocationLab.Ocsp.Request} (hrequest : Request.decode? b = some request)
    (hfits : ∀ d, (parts a ((History.run es).lab.authorities.chain place) now request).unsealed?
      = some d → d.length ≤ maxLength) :
    ∃ response,
      (respond a ((History.run es).lab.authorities.chain place) now message).outcome
        = .response response
      ∧ response.status = 200
      ∧ response.headers.get? "content-type" = some (Octets.ofText "application/ocsp-response")
      ∧ if ((History.run es).lab.authorities.chain place).all fun c => c.body.hasReadableNames then
          ∃ basic, BasicResponse.decode response.body = .ok basic
            ∧ Answers a ((History.run es).lab.authorities.chain place) n b request basic
        else BasicResponse.decode response.body = .error .malformed := by
  have hregular : ∀ c ∈ (History.run es).lab.authorities.chain place, c.IsRegular := by
    intro c hc
    obtain ⟨other, a', ha', rfl⟩ := Authority.Registry.exists_of_mem_chain hc
    exact (History.isSound_run es other a' ha').certificate
  have hmem := Authority.Registry.certificate_mem_chain ha
  generalize (History.run es).lab.authorities.chain place = chain at *
  -- the response is made, and the key signs it
  have hdata : (parts a chain now request).data = .ok
      ((parts a chain now request).answered ⟨n, Nat.le_of_lt hn⟩ ⟨n + 1, hn⟩) :=
    ResponseParts.data_eq hnow hn
  obtain ⟨signature, hsignature⟩ := Rsa.KeyPair.exists_sign? hkey
    ((parts a chain now request).answered ⟨n, Nat.le_of_lt hn⟩ ⟨n + 1, hn⟩).encode
  have hunsealed := ResponseParts.unsealed?_eq_some hdata hsignature
  have hlen := hfits _ hunsealed
  have hsign := ResponseParts.sign_of_unsealed? hunsealed hlen
  refine ⟨_, outcome_of_sign hb hrequest hsign, rfl, rfl, ?_⟩
  -- what was asked and the nonce are readable, so that only the names in the chain can fail
  have hstatuses : ∀ e ∈ (parts a chain now request).statuses, e.1.isReadable = true := by
    intro e he
    obtain ⟨q, hq, rfl⟩ := List.mem_map.1 he
    exact Request.isReadable_of_decode? hrequest q hq
  have hnonce : ∀ e ∈ (parts a chain now request).nonce,
      ObjectId.isReadable e.kind.octets = true := by
    intro e he
    rw [kind_of_findNonce? he]
    decide
  have hdecode := ResponseParts.decode_signed_of_isRegular hmem hregular hstatuses hnonce hlen
  rw [success_body, hdecode, chain_parts]
  cases chain.all fun c => c.body.hasReadableNames with
  | true => exact ⟨_, rfl, answers_signed hrequest hn signature⟩
  | false => rfl

/-! ### A readable and an unreadable name -/

/-- A root with this name. -/
def rootEvents (name : String) : List Event := [
  ⟨.createRoot ⟨"http", some { host := "localhost" }, .segments [""], none, none⟩
    ⟨name, .day, Rsa.sampleKey⟩ (sampleDraw 1) (sampleDraw 2), Instant.ofSeconds 0⟩]

/-- A question about a certificate of somebody else, asked twice, with a nonce. -/
def sampleOctets : Octets :=
  let certId : CertId := ⟨⟨Digest.Algorithm.sha1.objectId, none⟩, [1], [2], ⟨[3]⟩⟩
  (Request.build [certId, certId] (some [4, 5])).encode

/-- The question as the body of a POST. -/
def sampleMessage : Http.Request :=
  { method := ⟨"POST"⟩
    target := ⟨"/0/", none⟩
    headers := [⟨"content-type", Octets.ofText requestContentType⟩,
      Http.lengthHeader sampleOctets.length]
    body := Http.Body.ofOctets sampleOctets }

theorem intake_sampleMessage : intake sampleMessage = .octets sampleOctets := by
  decide +kernel

/-- The answer of a root with a readable name. -/
theorem respond_of_run_rootEvents : ∃ a request response basic,
    (History.run (rootEvents "Lab")).lab.authorities.get? 0 = some a
    ∧ Request.decode? sampleOctets = some request
    ∧ (respond a ((History.run (rootEvents "Lab")).lab.authorities.chain 0) (Instant.ofSeconds 5)
        sampleMessage).outcome = .response response
    ∧ BasicResponse.decode response.body = .ok basic
    ∧ Answers a ((History.run (rootEvents "Lab")).lab.authorities.chain 0) 5 sampleOctets request
        basic := by
  have hroot : ((History.run (rootEvents "Lab")).lab.authorities.get? 0).isSome = true := by
    decide +kernel
  obtain ⟨a, ha⟩ := Option.isSome_iff_exists.1 hroot
  have hkeys : ∀ a ∈ (History.run (rootEvents "Lab")).lab.authorities.get? 0,
      a.key.canSign = true := by
    decide +kernel
  have hread : (Request.decode? sampleOctets).isSome = true := by decide +kernel
  obtain ⟨request, hrequest⟩ := Option.isSome_iff_exists.1 hread
  have hfits : ∀ a ∈ (History.run (rootEvents "Lab")).lab.authorities.get? 0,
      ∀ request ∈ Request.decode? sampleOctets,
      ∀ d ∈ (parts a ((History.run (rootEvents "Lab")).lab.authorities.chain 0)
        (Instant.ofSeconds 5) request).unsealed?, d.length ≤ maxLength := by
    decide +kernel
  have hnames : ((History.run (rootEvents "Lab")).lab.authorities.chain 0).all
      (fun c => c.body.hasReadableNames) = true := by
    decide +kernel
  have hnow : (Instant.ofSeconds 5).seconds? = some 5 := by decide
  obtain ⟨response, houtcome, -, -, hbody⟩ := respond_of_run ha (hkeys a ha) hnow (by decide)
    intake_sampleMessage hrequest (hfits a ha request hrequest)
  rw [if_pos hnames] at hbody
  obtain ⟨basic, hbasic, hanswers⟩ := hbody
  exact ⟨a, request, response, basic, ha, hrequest, houtcome, hbasic, hanswers⟩

/-- A root whose name adds an attribute of a kind that is written and not read answers, and no client
reads the answer. -/
theorem decode_respond_rootEvents :
    ((History.run (rootEvents "Lab,1.2.3=x")).lab.authorities.get? 0).map (fun a =>
      match (respond a ((History.run (rootEvents "Lab,1.2.3=x")).lab.authorities.chain 0)
        (Instant.ofSeconds 5) sampleMessage).outcome with
      | .response response => (response.status, BasicResponse.decode response.body)
      | _ => (0, .error .malformed)) = some (200, .error .malformed) := by
  decide +kernel

end Ocsp

end Responder

end RevocationLab
