/-
**When certificates are said to be revoked.**

An authority stores the moment of a revocation, and replaces it when the certificate is revoked again.
Every stored moment is that of an event, so that a clock which never goes back is past it when a
response is made; both are cut to whole seconds, which keeps their order.  Between two responses a
stored moment stays, or is replaced by one of an event in between, and that is not earlier.

Main definitions:

* `Lab.NeverBack` — the clock never goes back;
* `Lab.Replies`, `Lab.Says` — the response to a request for an authority, and what it says;
* `Lab.Made` — a response that an authority has signed;
* `Lab.IsTimely`, `Lab.NotEarlier` — **the times in a response, and in two of them**.

Main results:

* `Lab.Effect.revoked_cases`, `Lab.History.revoked_cases` — a stored moment was there before, or is
  that of an event since;
* `Lab.Replies.cases` — a response is a refusal, stands for a fault, or is signed by the authority;
* `Lab.Says.exists_answered` — what is signed has the statuses of the authority and the time of the
  event;
* `Lab.timely_of_run` — **nothing is said to be revoked later than the response, and never earlier than
  it was said before**.
-/

import RevocationLab.Proofs.Ocsp.ResponseEncoding
import RevocationLab.Proofs.Responder.Delivery
import RevocationLab.Proofs.Responder.Moment

set_option autoImplicit false

namespace RevocationLab

open Authority X509

/-! ### Moments in the ledgers -/

/-- A certificate that is reported as revoked has a moment in the ledger, whose second is told. -/
theorem Authority.exists_moment_of_status {a : Authority} {certId : Ocsp.CertId} {time : Der.Time}
    {reason : Option Ocsp.Reason} (h : a.status certId = .revoked time reason) :
    ∃ moment, Keyed.get? a.issued certId.serial = some (.revoked moment reason)
      ∧ Der.Time.ofInstant? moment = some time := by
  have hnamed : a.IsNamedBy certId := by
    by_contra hnamed
    rw [Authority.status_eq_unknown hnamed] at h
    cases h
  rw [Authority.status_eq_of_isNamedBy hnamed] at h
  rcases hstanding : Keyed.get? a.issued certId.serial with - | ⟨- | ⟨moment, other⟩⟩
  · rw [hstanding] at h
    cases h
  · rw [hstanding] at h
    cases h
  · rw [hstanding] at h
    simp only [Option.map_some, Option.getD_some, Standing.status] at h
    split at h
    · next htime =>
        cases h
        exact ⟨moment, rfl, htime⟩
    · cases h

namespace Lab

/-- A certificate is stored as revoked at a moment by the authority at a place. -/
def RevokedAt (r : Registry) (place : Nat) (serial : SerialNumber) (moment : Instant) : Prop :=
  ∃ a reason, r.get? place = some a ∧ Keyed.get? a.issued serial = some (.revoked moment reason)

/-- A standing that is written is the one that is found, or another one is found as before. -/
theorem RevokedAt.of_record {r : Registry} {place other : Nat} {serial s : SerialNumber}
    {standing : Standing} {moment : Instant}
    (h : RevokedAt (r.record other s standing) place serial moment) :
    RevokedAt r place serial moment ∨ ∃ reason, standing = .revoked moment reason := by
  obtain ⟨a, reason, ha, hrevoked⟩ := h
  rw [Registry.get?_record, Option.map_eq_some_iff] at ha
  obtain ⟨b, hb, rfl⟩ := ha
  split at hrevoked
  · rw [Ledgers.get?_record] at hrevoked
    split at hrevoked
    · exact Or.inr ⟨reason, Option.some.inj hrevoked⟩
    · exact Or.inl ⟨b, reason, hb, hrevoked⟩
  · exact Or.inl ⟨b, reason, hb, hrevoked⟩

/-- An authority that is added has revoked nothing. -/
theorem RevokedAt.of_add {r : Registry} {b : Authority} (hnew : b.issued = []) {place : Nat}
    {serial : SerialNumber} {moment : Instant} (h : RevokedAt (r.add b) place serial moment) :
    RevokedAt r place serial moment := by
  obtain ⟨a, reason, ha, hrevoked⟩ := h
  rw [Registry.get?_add] at ha
  split at ha
  · cases ha
    rw [hnew] at hrevoked
    cases hrevoked
  · exact ⟨a, reason, ha, hrevoked⟩

/-- **A stored moment was there before the event, or is that of the event.** -/
theorem Effect.revoked_cases {r r' : Registry} {e : Event} {deeds : List Deed}
    (h : Effect r e r' deeds) {place : Nat} {serial : SerialNumber} {moment : Instant}
    (hrevoked : RevokedAt r' place serial moment) :
    RevokedAt r place serial moment ∨ moment = e.now := by
  cases h with
  | nothing => exact Or.inl hrevoked
  | added a ha hnew => exact Or.inl (hrevoked.of_add hnew)
  | issued other s hplace hserial hwrites =>
      rcases hrevoked.of_record with hbefore | ⟨reason, hvalid⟩
      · exact Or.inl hbefore
      · cases hvalid
  | certified other s a hplace hserial hwrites ha hnew =>
      rcases (hrevoked.of_add hnew).of_record with hbefore | ⟨reason, hvalid⟩
      · exact Or.inl hbefore
      · cases hvalid
  | revoked other s reason a ha hissued hwrites =>
      rcases hrevoked.of_record with hbefore | ⟨reason', heq⟩
      · exact Or.inl hbefore
      · cases heq
        exact Or.inr rfl

namespace History

/-- **A stored moment was there before some events, or is that of one of them.** -/
theorem revoked_cases (es later : List Event) {place : Nat} {serial : SerialNumber}
    {moment : Instant}
    (h : RevokedAt (run (es ++ later)).lab.authorities place serial moment) :
    RevokedAt (run es).lab.authorities place serial moment ∨ ∃ e ∈ later, moment = e.now := by
  induction later using List.reverseRecOn with
  | nil =>
      rw [List.append_nil] at h
      exact Or.inl h
  | append_singleton later e ih =>
      rw [← List.append_assoc, run_append_singleton] at h
      rcases (effect_perform (isSound_run (es ++ later)) e).revoked_cases h with hbefore | heq
      · rcases ih hbefore with hbefore | ⟨e', he', heq⟩
        · exact Or.inl hbefore
        · exact Or.inr ⟨e', List.mem_append_left _ he', heq⟩
      · exact Or.inr ⟨e, List.mem_append_right _ List.mem_cons_self, heq⟩

/-- Every stored moment is that of an event. -/
theorem exists_event_of_revoked {es : List Event} {place : Nat} {serial : SerialNumber}
    {moment : Instant} (h : RevokedAt (run es).lab.authorities place serial moment) :
    ∃ e ∈ es, moment = e.now := by
  rcases revoked_cases [] es h with ⟨a, reason, ha, -⟩ | hevent
  · cases ha
  · exact hevent

end History

/-! ### The clock -/

/-- The clock never goes back. -/
def NeverBack (es : List Event) : Prop :=
  es.Pairwise fun e e' => e.now.nanoseconds ≤ e'.now.nanoseconds

/-- **A stored moment is not later than an event that comes next.** -/
theorem NeverBack.moment_le {before after : List Event} {e : Event}
    (h : NeverBack (before ++ e :: after)) {place : Nat} {serial : SerialNumber} {moment : Instant}
    (hrevoked : RevokedAt (History.run before).lab.authorities place serial moment) :
    moment.nanoseconds ≤ e.now.nanoseconds := by
  obtain ⟨e', he', rfl⟩ := History.exists_event_of_revoked hrevoked
  exact (List.pairwise_append.1 h).2.2 e' he' e List.mem_cons_self

/-- **A stored moment is never replaced by an earlier one.** -/
theorem NeverBack.moment_mono {before later : List Event} (h : NeverBack (before ++ later))
    {place : Nat} {serial : SerialNumber} {moment moment' : Instant}
    (hrevoked : RevokedAt (History.run before).lab.authorities place serial moment)
    (hrevoked' : RevokedAt (History.run (before ++ later)).lab.authorities place serial moment') :
    moment.nanoseconds ≤ moment'.nanoseconds := by
  rcases History.revoked_cases before later hrevoked' with hsame | ⟨e', he', rfl⟩
  · obtain ⟨a, reason, ha, hmoment⟩ := hrevoked
    obtain ⟨b, reason', hb, hmoment'⟩ := hsame
    cases ha.symm.trans hb
    cases hmoment.symm.trans hmoment'
    exact Int.le_refl _
  · obtain ⟨e, he, rfl⟩ := History.exists_event_of_revoked hrevoked
    exact (List.pairwise_append.1 h).2.2 e he e' he'

/-! ### Responses -/

/-- An event is a request to a responder of the authority at a place, directly or through the
dispatcher, and this is the response. -/
inductive Replies (l : Lab) (e : Event) (place : Nat) (response : Http.Response) : Prop
  | asked (r : Responder) (message : Http.Request) (haction : e.action = .ask r message)
      (hrole : r.role = .ocsp place) (hanswer : (l.ask r message e.now).2 = .response response)
  | dispatched (d : Dispatch.Dispatcher) (message : Http.Request) (route : String) (r : Responder)
      (haction : e.action = .dispatch d message)
      (hroute : l.routes.lookup? message.target.path = some (route, r)) (hrole : r.role = .ocsp place)
      (hanswer : (l.dispatch d message e.now).2 = .ok response)

/-- A response is the encoding of a signed one. -/
def Says (l : Lab) (e : Event) (place : Nat) (basic : Ocsp.BasicResponse) : Prop :=
  ∃ response, Replies l e place response ∧ response.body = basic.envelope.encode

/-- A response is made for a request, and signed by the authority at a place. -/
inductive Made (l : Lab) (e : Event) (place : Nat) (response : Http.Response) : Prop
  | signed (a : Authority) (request : Ocsp.Request) (basic : Ocsp.BasicResponse)
      (ha : l.authorities.get? place = some a)
      (hbasic : (Responder.Ocsp.parts a (l.authorities.chain place) e.now request).basic = .ok basic)
      (hlen : basic.envelope.encode.length ≤ Der.maxLength)
      (hresponse : response = Responder.Ocsp.success basic.envelope.encode)

variable {l : Lab} {e : Event} {place : Nat}

/-- A responder refuses, or makes a response. -/
theorem made_of_outcome {r : Responder} (hrole : r.role = .ocsp place) {message : Http.Request}
    {response : Http.Response}
    (houtcome : (r.respond l.authorities e.now message l.calls).1.outcome = .response response) :
    response = Http.Response.empty 400 ∨ Made l e place response := by
  rw [Responder.outcome_of_role hrole] at houtcome
  cases ha : l.authorities.get? place with
  | none =>
      rw [ha] at houtcome
      cases houtcome
      exact Or.inl rfl
  | some a =>
      rw [ha] at houtcome
      rcases Responder.Ocsp.response_cases houtcome with hrefused | ⟨request, basic, hb, hlen, hr⟩
      · exact Or.inl hrefused
      · exact Or.inr (.signed a request basic ha hb hlen hr)

/-- **A response is a refusal, stands for a fault, or is signed by the authority.** -/
theorem Replies.cases {response : Http.Response} (h : Replies l e place response) :
    response = Http.Response.empty 400 ∨ response = Http.Response.empty 500
      ∨ Made l e place response := by
  cases h with
  | asked r message haction hrole hanswer =>
      exact (made_of_outcome hrole hanswer).imp_right Or.inr
  | dispatched d message route r haction hroute hrole hanswer =>
      rw [dispatch_of_lookup? hroute] at hanswer
      rcases Dispatch.Dispatcher.settle_cases hanswer with houtcome | hfault
      · exact (made_of_outcome hrole houtcome).imp_right Or.inr
      · exact Or.inr (Or.inl hfault)

/-- A response of status 200 is the encoding of a signed one. -/
theorem Replies.exists_basic {response : Http.Response} (h : Replies l e place response)
    (hstatus : response.status = 200) :
    ∃ basic : Ocsp.BasicResponse, response.body = basic.envelope.encode := by
  rcases h.cases with rfl | rfl | ⟨a, request, basic, -, -, -, rfl⟩
  · exact absurd hstatus (by decide)
  · exact absurd hstatus (by decide)
  · exact ⟨basic, Responder.Ocsp.success_body _⟩

/-- **A response has the statuses of the authority and the second of the event**, and a window of one
second. -/
theorem Says.exists_answered {basic : Ocsp.BasicResponse} (h : Says l e place basic) :
    ∃ (a : Authority) (thisUpdate nextUpdate : Der.Time) (certIds : List Ocsp.CertId),
      l.authorities.get? place = some a
      ∧ Der.Time.ofInstant? e.now = some thisUpdate
      ∧ nextUpdate.seconds = thisUpdate.seconds + 1
      ∧ basic.data.producedAt = thisUpdate
      ∧ basic.data.responses = certIds.map fun certId =>
          Ocsp.SingleResponse.of thisUpdate nextUpdate (certId, a.status certId) := by
  obtain ⟨response, hreplies, hbody⟩ := h
  have hne : response.body ≠ [] := by
    rw [hbody]
    exact Der.element_ne_nil _ _
  rcases hreplies.cases with rfl | rfl | ⟨a, request, made, ha, hmade, hlen, rfl⟩
  · exact absurd rfl hne
  · exact absurd rfl hne
  obtain ⟨data, signature, hdata, -, -, rfl⟩ := Ocsp.ResponseParts.basic_eq_ok_iff.1 hmade
  obtain ⟨thisUpdate, nextUpdate, hthis, hnext, rfl⟩ :=
    Ocsp.ResponseParts.exists_window_of_data hdata
  -- the octets are those of the response that was made, and say what it says
  have hplain : Ocsp.ResponseData.IsPlain ((Responder.Ocsp.parts a
      (l.authorities.chain place) e.now request).answered thisUpdate nextUpdate) := by
    intro s hs
    obtain ⟨q, -, rfl⟩ := List.mem_map.1 hs
    rfl
  obtain ⟨hproduced, hresponses⟩ :=
    Ocsp.BasicResponse.eq_of_envelope (by exact hplain) hlen hbody
  refine ⟨a, thisUpdate, nextUpdate, request.body.queries.map Ocsp.Query.certId, ha, hthis,
    hnext, hproduced.symm, ?_⟩
  rw [← hresponses]
  simp [Ocsp.ResponseParts.signed, Ocsp.ResponseParts.answered, Responder.Ocsp.parts]

/-! ### The times in responses -/

/-- **The times in a response.** -/
structure IsTimely (data : Ocsp.ResponseData) : Prop where
  /-- A status holds from the time of production on, -/
  thisUpdate : ∀ s ∈ data.responses, s.thisUpdate = data.producedAt
  /-- for one second. -/
  nextUpdate : ∀ s ∈ data.responses,
    ∃ next, s.nextUpdate = some next ∧ next.seconds = s.thisUpdate.seconds + 1
  /-- Nothing was revoked later than that. -/
  revoked : ∀ s ∈ data.responses, ∀ time reason, s.status = .revoked time reason →
    time.seconds ≤ s.thisUpdate.seconds

/-- **The times in two responses of an authority**: what the first one says about a certificate was not
revoked earlier by the second one. -/
def NotEarlier (data data' : Ocsp.ResponseData) : Prop :=
  ∀ s ∈ data.responses, ∀ s' ∈ data'.responses, s.certId.serial = s'.certId.serial →
    ∀ time reason time' reason', s.status = .revoked time reason →
      s'.status = .revoked time' reason' → time.seconds ≤ time'.seconds

/-- What a response reports as revoked is stored with a moment that has this second. -/
theorem Says.exists_moment {basic : Ocsp.BasicResponse} (h : Says l e place basic)
    {s : Ocsp.SingleResponse} (hs : s ∈ basic.data.responses)
    {time : Der.Time} {reason : Option Ocsp.Reason} (hrevoked : s.status = .revoked time reason) :
    ∃ moment, RevokedAt l.authorities place s.certId.serial moment
      ∧ Der.Time.ofInstant? moment = some time := by
  obtain ⟨a, thisUpdate, nextUpdate, certIds, ha, -, -, -, hresponses⟩ := h.exists_answered
  rw [hresponses] at hs
  obtain ⟨certId, -, rfl⟩ := List.mem_map.1 hs
  obtain ⟨moment, hmoment, htime⟩ := Authority.exists_moment_of_status hrevoked
  exact ⟨moment, ⟨a, reason, ha, hmoment⟩, htime⟩

theorem isTimely_of_says {before after : List Event} {e : Event}
    (hclock : NeverBack (before ++ e :: after)) {place : Nat} {basic : Ocsp.BasicResponse}
    (h : Says (History.run before).lab e place basic) : IsTimely basic.data := by
  obtain ⟨a, thisUpdate, nextUpdate, certIds, ha, hthis, hnext, hproduced, hresponses⟩ :=
    h.exists_answered
  have hof : ∀ s ∈ basic.data.responses, s.thisUpdate = thisUpdate ∧ s.nextUpdate = some nextUpdate := by
    intro s hs
    rw [hresponses] at hs
    obtain ⟨certId, -, rfl⟩ := List.mem_map.1 hs
    exact ⟨rfl, rfl⟩
  refine ⟨fun s hs => ?_, fun s hs => ?_, fun s hs time reason hrevoked => ?_⟩
  · rw [(hof s hs).1, hproduced]
  · exact ⟨nextUpdate, (hof s hs).2, by rw [(hof s hs).1, hnext]⟩
  · obtain ⟨moment, hmoment, htime⟩ := h.exists_moment hs hrevoked
    rw [(hof s hs).1]
    exact Der.Time.seconds_mono htime hthis (hclock.moment_le hmoment)

theorem notEarlier_of_says {before later : List Event} {e e' : Event}
    (hclock : NeverBack (before ++ later)) {place : Nat} {basic basic' : Ocsp.BasicResponse}
    (h : Says (History.run before).lab e place basic)
    (h' : Says (History.run (before ++ later)).lab e' place basic') :
    NotEarlier basic.data basic'.data := by
  intro s hs s' hs' hserial time reason time' reason' hrevoked hrevoked'
  obtain ⟨moment, hmoment, htime⟩ := h.exists_moment hs hrevoked
  obtain ⟨moment', hmoment', htime'⟩ := h'.exists_moment hs' hrevoked'
  rw [← hserial] at hmoment'
  exact Der.Time.seconds_mono htime htime' (hclock.moment_mono hmoment hmoment')

/-- **Nothing is said to be revoked later than the response, and never earlier than it was said
before.**  In every run in which the clock never goes back, each response of status 200 is the encoding
of a signed one; the times in it belong together, and of two responses for one authority the later one
gives a certificate no earlier time of revocation. -/
theorem timely_of_run {es : List Event} (hclock : NeverBack es) :
    (∀ before e after place response, es = before ++ e :: after →
      Replies (History.run before).lab e place response → response.status = 200 →
        ∃ basic, Says (History.run before).lab e place basic
          ∧ response.body = basic.envelope.encode)
    ∧ (∀ before e after place basic, es = before ++ e :: after →
      Says (History.run before).lab e place basic → IsTimely basic.data)
    ∧ ∀ before e between e' after place basic basic',
      es = before ++ e :: (between ++ e' :: after) →
      Says (History.run before).lab e place basic →
      Says (History.run (before ++ e :: between)).lab e' place basic' →
        NotEarlier basic.data basic'.data := by
  refine ⟨?_, ?_, ?_⟩
  · rintro before e after place response - hreplies hstatus
    obtain ⟨basic, hbody⟩ := hreplies.exists_basic hstatus
    exact ⟨basic, ⟨response, hreplies, hbody⟩, hbody⟩
  · rintro before e after place basic rfl h
    exact isTimely_of_says hclock h
  · rintro before e between e' after place basic basic' rfl h h'
    have hprefix : NeverBack (before ++ e :: between) := by
      refine List.Pairwise.sublist ?_ hclock
      rw [← List.cons_append, ← List.append_assoc]
      exact List.sublist_append_left _ _
    exact notEarlier_of_says hprefix h h'

/-! ### A certificate that is revoked twice -/

/-- A request that is read is answered, and the response says how things stand. -/
theorem exists_says {a : Authority}
    (ha : l.authorities.get? place = some a) (hkey : a.key.canSign = true) {now : Instant} {n : Nat}
    (hnow : now.seconds? = some n) (hn : n < Calendar.lastSecond) {message : Http.Request}
    {b : Octets} (hb : Responder.Ocsp.intake message = .octets b) {request : Ocsp.Request}
    (hrequest : Ocsp.Request.decode? b = some request)
    (hfits : ∀ d, (Responder.Ocsp.parts a (l.authorities.chain place) now request).unsealed? = some d →
      d.length ≤ Der.maxLength)
    {r : Responder} (hrole : r.role = .ocsp place) :
    ∃ basic, Says l ⟨.ask r message, now⟩ place basic
      ∧ basic.data.responses.map Ocsp.SingleResponse.status
        = request.body.queries.map fun q => a.status q.certId := by
  have hdata : (Responder.Ocsp.parts a (l.authorities.chain place) now request).data = .ok
      ((Responder.Ocsp.parts a (l.authorities.chain place) now request).answered
        ⟨n, Nat.le_of_lt hn⟩ ⟨n + 1, hn⟩) := Ocsp.ResponseParts.data_eq hnow hn
  obtain ⟨signature, hsignature⟩ := Rsa.KeyPair.exists_sign? hkey
    ((Responder.Ocsp.parts a (l.authorities.chain place) now request).answered
      ⟨n, Nat.le_of_lt hn⟩ ⟨n + 1, hn⟩).encode
  have hunsealed := Ocsp.ResponseParts.unsealed?_eq_some hdata hsignature
  have hsign := Ocsp.ResponseParts.sign_of_unsealed? hunsealed (hfits _ hunsealed)
  have houtcome := Responder.Ocsp.outcome_of_sign hb hrequest hsign
  have hask : (l.ask r message now).2
      = (Responder.Ocsp.respond a (l.authorities.chain place) now message).outcome := by
    have hrespond := Responder.outcome_of_role hrole l.authorities now message l.calls
    rw [ha] at hrespond
    exact hrespond
  refine ⟨_, ⟨_, .asked r message rfl hrole (hask.trans houtcome), rfl⟩, ?_⟩
  simp [Ocsp.ResponseParts.signed, Ocsp.ResponseParts.answered, Responder.Ocsp.parts,
    Ocsp.SingleResponse.of]

/-- A root, and a certificate that it issues. -/
def timelineStart : List Event := sampleEvents.take 2

/-- A request about the certificate. -/
def timelineOctets : Octets :=
  (((History.run timelineStart).lab.authorities.get? 0).map fun a =>
    (Ocsp.Request.build [Responder.Ocsp.lateQuestion a] none).encode).getD []

/-- The request as the body of a POST. -/
def timelineMessage : Http.Request :=
  { method := ⟨"POST"⟩
    target := ⟨"/0/", none⟩
    headers := [⟨"content-type", Octets.ofText Ocsp.requestContentType⟩,
      ⟨"content-length", Octets.ofText "109"⟩]
    body := Http.Body.ofOctets timelineOctets }

/-- The responder of the root. -/
def timelineResponder : Responder :=
  ⟨⟨"http", some { host := "localhost" }, .segments ["0", ""], none, none⟩, .ocsp 0⟩

/-- A point in time some nanoseconds after a second. -/
def timelineInstant (second part : Nat) : Instant := ⟨((second * Instant.second + part : Nat) : Int)⟩

/-- A revocation of the certificate, early in a second. -/
def timelineRevoke (second : Nat) (reason : Ocsp.Reason) : Event :=
  ⟨.revoke 0 Responder.Ocsp.lateSerial (some reason), timelineInstant second 1⟩

/-- A request about the certificate, late in a second. -/
def timelineAsk (second : Nat) : Event :=
  ⟨.ask timelineResponder timelineMessage, timelineInstant second 999999999⟩

/-- The certificate is revoked and asked about, twice. -/
def timelineEvents : List Event :=
  timelineStart ++ [timelineRevoke 2 .superseded] ++ timelineAsk 2
    :: ([timelineRevoke 4 .keyCompromise] ++ timelineAsk 4 :: [])

theorem seconds?_timelineInstant {second part : Nat} (h : part < Instant.second) :
    (timelineInstant second part).seconds? = some second := by
  have hpos : ¬ ((second * Instant.second + part : Nat) : Int) < 0 := by omega
  rw [Instant.seconds?, timelineInstant, if_neg hpos, Int.toNat_natCast, Nat.add_comm,
    Nat.add_mul_div_right _ _ (by decide), Nat.div_eq_of_lt h, Nat.zero_add]

theorem length_timelineOctets : timelineOctets.length = 109 := by decide +kernel

/-- The request is taken in. -/
theorem intake_timelineMessage :
    Responder.Ocsp.intake timelineMessage = .octets timelineOctets := by
  have hbody : Responder.Ocsp.InBody "/0/" timelineOctets timelineMessage :=
    { isPost := by decide
      path := rfl
      contentType := ⟨"application/ocsp-request".toList, rfl, by decide⟩
      contentLength := ⟨"109".toList, rfl, by decide, by decide, length_timelineOctets.symm⟩
      chunks := List.append_nil _
      failure := rfl }
  refine Responder.Ocsp.intake_of_inBody hbody ?_ ?_ <;> rw [length_timelineOctets] <;> decide

/-- The request is about the certificate. -/
theorem decode?_timelineOctets {a : Authority}
    (ha : (History.run timelineStart).lab.authorities.get? 0 = some a) :
    Ocsp.Request.decode? timelineOctets
      = some (Ocsp.Request.build [Responder.Ocsp.lateQuestion a] none) := by
  have hoctets : timelineOctets = (Ocsp.Request.build [Responder.Ocsp.lateQuestion a] none).encode := by
    rw [timelineOctets, ha]
    rfl
  have hencode : Ocsp.Request.encode? [Responder.Ocsp.lateQuestion a] none = some timelineOctets := by
    rw [Ocsp.Request.encode?, Der.sealed?, ← hoctets, length_timelineOctets]
    rfl
  rw [Ocsp.Request.decode?_encode? hencode]
  rfl

theorem ofInstant?_timelineInstant {second part : Nat} (h : part < Instant.second)
    (hlt : second < Calendar.lastSecond) :
    Der.Time.ofInstant? (timelineInstant second part) = some ⟨second, Nat.le_of_lt hlt⟩ := by
  rw [Der.Time.ofInstant?, seconds?_timelineInstant h]
  exact dif_pos (Nat.le_of_lt hlt)

/-- What is said about the certificate is the stored moment. -/
theorem status_lateQuestion {a : Authority} {moment : Instant} {reason : Option Ocsp.Reason}
    (hstored : Keyed.get? a.issued Responder.Ocsp.lateSerial = some (.revoked moment reason))
    {time : Der.Time} (htime : Der.Time.ofInstant? moment = some time) :
    a.status (Responder.Ocsp.lateQuestion a) = .revoked time reason := by
  have hserial : (Responder.Ocsp.lateQuestion a).serial = Responder.Ocsp.lateSerial := rfl
  rw [Authority.status_eq_of_isNamedBy ⟨.sha256, rfl, rfl, rfl⟩, hserial, hstored]
  simp [Standing.status, htime]

/-- After more events the certificate is revoked, and the response to the request says so. -/
theorem exists_says_timeline (later : List Event) (second : Nat) (hlt : second < Calendar.lastSecond)
    (reason : Ocsp.Reason)
    (hstored : ∀ a ∈ (History.run (timelineStart ++ later)).lab.authorities.get? 0,
      a.key.canSign = true ∧ Keyed.get? a.issued Responder.Ocsp.lateSerial
        = some (.revoked (timelineInstant second 1) (some reason)))
    (hfits : ∀ a ∈ (History.run (timelineStart ++ later)).lab.authorities.get? 0,
      ∀ d ∈ (Responder.Ocsp.parts a ((History.run (timelineStart ++ later)).lab.authorities.chain 0)
        (timelineAsk second).now
        (Ocsp.Request.build [Responder.Ocsp.lateQuestion a] none)).unsealed?,
      d.length ≤ Der.maxLength) :
    ∃ basic, Says (History.run (timelineStart ++ later)).lab (timelineAsk second) 0 basic
      ∧ basic.data.responses.map Ocsp.SingleResponse.status
        = [.revoked ⟨second, Nat.le_of_lt hlt⟩ (some reason)] := by
  have hroot : ((History.run timelineStart).lab.authorities.get? 0).isSome = true := by
    decide +kernel
  obtain ⟨a, ha⟩ := Option.isSome_iff_exists.1 hroot
  obtain ⟨b, -, hb, hcertificate, -⟩ := History.exists_later timelineStart later ha
  have hquestion : Responder.Ocsp.lateQuestion a = Responder.Ocsp.lateQuestion b := by
    rw [Responder.Ocsp.lateQuestion, Responder.Ocsp.lateQuestion, hcertificate]
  have hrequest := decode?_timelineOctets ha
  rw [hquestion] at hrequest
  obtain ⟨hkey, hmoment⟩ := hstored b hb
  have hstatus := status_lateQuestion hmoment (ofInstant?_timelineInstant (by decide) hlt)
  obtain ⟨basic, hbasic, hstatuses⟩ := exists_says (r := timelineResponder) hb hkey
    (seconds?_timelineInstant (by decide)) hlt intake_timelineMessage hrequest (hfits b hb) rfl
  refine ⟨basic, hbasic, hstatuses.trans ?_⟩
  exact congrArg (fun status => [status]) hstatus

/-- Each response has the last revocation before it, of the same second. -/
theorem timely_timelineEvents : ∃ basic basic' : Ocsp.BasicResponse,
    basic.data.responses.map Ocsp.SingleResponse.status
      = [.revoked ⟨2, by decide⟩ (some .superseded)]
    ∧ basic'.data.responses.map Ocsp.SingleResponse.status
      = [.revoked ⟨4, by decide⟩ (some .keyCompromise)]
    ∧ IsTimely basic.data ∧ IsTimely basic'.data ∧ NotEarlier basic.data basic'.data := by
  obtain ⟨basic, hbasic, hstatuses⟩ := exists_says_timeline [timelineRevoke 2 .superseded]
    2 (by decide) .superseded (by decide +kernel) (by decide +kernel)
  obtain ⟨basic', hbasic', hstatuses'⟩ := exists_says_timeline
    ([timelineRevoke 2 .superseded] ++ timelineAsk 2 :: [timelineRevoke 4 .keyCompromise])
    4 (by decide) .keyCompromise (by decide +kernel) (by decide +kernel)
  have hclock : NeverBack timelineEvents := by
    unfold NeverBack
    decide +kernel
  obtain ⟨-, hone, htwo⟩ := timely_of_run hclock
  exact ⟨basic, basic', hstatuses, hstatuses', hone _ _ _ 0 basic rfl hbasic,
    hone _ _ [] 0 basic' (by simp [timelineEvents]) hbasic',
    htwo _ _ _ _ [] 0 basic basic' rfl hbasic hbasic'⟩

end Lab

end RevocationLab
