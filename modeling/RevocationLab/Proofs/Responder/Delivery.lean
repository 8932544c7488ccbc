/-
**Two ways to deliver a request.**

The octets of a request travel in the path of a GET, in any spelling of their base64 text, or as the
body of a POST, in any chunks.  The responder finds the same octets on both ways, and what it answers
depends on nothing else of the message: not on the path of a POST, the headers of a GET, or what was
written down before.  Only the empty string is found in no path, and it is no request either, so that
both ways end in the same refusal.

Main definitions:

* `Responder.Ocsp.InPath` — **a GET that carries octets in its path**;
* `Responder.Ocsp.InBody` — **a POST that carries octets in its body**.

Main results:

* `Responder.Ocsp.intake_of_inPath`, `Responder.Ocsp.intake_of_inBody` — the octets are found;
* `Lab.dispatch_of_inPath_inBody` — **both ways have the same answer**, or the same fault.
-/

import RevocationLab.Lab
import RevocationLab.Proofs.Http.Request
import RevocationLab.Proofs.Ocsp.Segment
import RevocationLab.Proofs.Responder.Ocsp
import RevocationLab.Proofs.Routing.Key

set_option autoImplicit false

namespace RevocationLab

open Der

namespace Responder

namespace Ocsp

open RevocationLab.Ocsp

/-! ### The two ways -/

/-- **A GET that carries octets in its path**, behind a key, in some spelling of their base64 text. -/
structure InPath (key : String) (b : Octets) (message : Http.Request) : Prop where
  isGet : message.isGet = true
  /-- The path is the key and a spelling of the base64 text. -/
  path : ∃ t, Segment.Spells (Base64.encode b) t ∧ message.target.path = key ++ String.ofList t
  /-- The target is one that a text can write. -/
  target : ∃ text, Http.Target.ofText? text = some message.target

/-- **A POST that carries octets in its body**, at a key, in some chunks. -/
structure InBody (key : String) (b : Octets) (message : Http.Request) : Prop where
  isPost : message.isPost = true
  path : message.target.path = key
  /-- The content type is that of a request, in some letter case. -/
  contentType : ∃ t : List Char,
    message.headers.get? "content-type" = some (Octets.ofText (String.ofList t))
      ∧ t.map Char.toLower = "application/ocsp-request".toList
  /-- The declared length is that of the octets, in digits. -/
  contentLength : ∃ ds : List Char,
    message.headers.get? "content-length" = some (Octets.ofText (String.ofList ds))
      ∧ ds ≠ [] ∧ ds.all Char.isDigit = true ∧ Ascii.decimalValue ds = b.length
  /-- The chunks are the octets. -/
  chunks : message.body.chunks.flatten = b
  /-- The transport does not fail. -/
  failure : message.body.failure = none

variable {key : String} {b : Octets} {message : Http.Request}

/-! ### Taking a message in -/

/-- A POST with the content type of a request is taken in as its body is read. -/
theorem intake_of_isPost (hpost : message.isPost = true)
    (htype : hasContentType message.headers = true) :
    intake message = match message.read with
      | .ok b => .octets b
      | .error (.transport text) => .failed text
      | .error cause => .rejected cause := by
  rw [intake, Http.Request.isGet_of_isPost hpost, hpost, htype]
  rfl

/-- Any other message is searched for octets in its path, or refused. -/
theorem intake_of_not_isPost (h : ¬ (message.isPost = true ∧ hasContentType message.headers = true)) :
    (∃ b, intake message = .octets b ∧ message.isGet = true) ∨ intake message = .refused := by
  rw [← Bool.and_eq_true_iff] at h
  rw [intake, if_neg h]
  cases hget : message.isGet with
  | true =>
      cases segmentOctets? message.target.path with
      | some b => exact Or.inl ⟨b, rfl, rfl⟩
      | none => exact Or.inr rfl
  | false => exact Or.inr rfl

/-! ### The path of a GET -/

/-- The octets in a path have sixty-four bits for their length. -/
theorem InPath.length_lt (h : InPath key b message) : b.length < UInt64.size := by
  obtain ⟨t, hspells, hpath⟩ := h.path
  obtain ⟨text, htext⟩ := h.target
  have hencode := Base64.length_le_length_encode b
  have hspelling := hspells.length_le
  have htarget := Http.Target.length_path_le htext
  have hoctets := Octets.length_le_length_ofText t
  rw [hpath, Octets.ofText_append, List.length_append, Http.Target.maxLength] at htarget
  unfold UInt64.size
  omega

/-- The octets in a path are found, unless there are none. -/
theorem intake_of_inPath (hkey : Routing.key? key = some key) (h : InPath key b message) :
    intake message = if b = [] then .refused else .octets b := by
  obtain ⟨t, hspells, hpath⟩ := h.path
  have hsegment : segmentOctets? message.target.path = if b = [] then none else some b := by
    rw [segmentOctets?, hpath, Routing.key?_append hkey, Option.map_some, Option.getD_some,
      Routing.remainder_append, Segment.decode?_of_spells hspells]
  rw [intake, if_pos h.isGet, hsegment]
  by_cases hb : b = []
  · rw [if_pos hb, if_pos hb]
  · rw [if_neg hb, if_neg hb]

/-! ### The body of a POST -/

theorem hasContentType_of_toLower {headers : Http.Headers} {t : List Char}
    (hvalue : headers.get? "content-type" = some (Octets.ofText (String.ofList t)))
    (ht : t.map Char.toLower = "application/ocsp-request".toList) :
    hasContentType headers = true := by
  have hvisible : t.all Ascii.isVisibleChar = true := by
    apply Ascii.all_isVisibleChar_of_map_toLower
    rw [ht]
    decide
  have htext : headers.text? "content-type" = some t := by
    rw [Http.Headers.text?, hvalue]
    exact Ascii.visible?_ofText hvisible
  have hlower : requestContentType.toList.map Char.toLower = requestContentType.toList := by decide
  rw [hasContentType, htext]
  exact Ascii.eqIgnoreCase_iff.2 (ht.trans hlower.symm)

/-- The octets in a body are found, within the limit. -/
theorem intake_of_inBody (h : InBody key b message) (hlt : b.length < UInt64.size)
    (hlimit : b.length ≤ message.limit.getD Http.defaultLimit) :
    intake message = .octets b := by
  obtain ⟨t, hvalue, ht⟩ := h.contentType
  obtain ⟨ds, hlength, hne, hds, hdecimal⟩ := h.contentLength
  have hoctets : message.body.octets = b := h.chunks
  have hdeclared : message.headers.contentLength? = some message.body.octets.length := by
    rw [hoctets, ← hdecimal]
    exact Http.Headers.contentLength?_of_digits hlength hne hds (by omega)
  have hread : message.read = .ok b := by
    refine (Http.readBody_eq_ok_iff h.failure).2 ⟨hoctets.symm, hdeclared, ?_⟩
    rw [hoctets]
    exact hlimit
  have htype := hasContentType_of_toLower hvalue ht
  rw [intake_of_isPost h.isPost htype, hread]

/-! ### What is answered -/

/-- The empty string is no request. -/
theorem decode?_nil : Request.decode? [] = none := by
  decide +kernel

/-- What is found is answered. -/
theorem outcome_of_octets {a : Authority} {chain : List X509.Certificate} {now : Instant}
    (h : intake message = .octets b) :
    (respond a chain now message).outcome = (answer a chain now b).outcome := by
  rw [respond, h]

/-- What is in a path is answered, also if nothing is. -/
theorem outcome_of_inPath {a : Authority} {chain : List X509.Certificate} {now : Instant}
    (hkey : Routing.key? key = some key) (h : InPath key b message) :
    (respond a chain now message).outcome = (answer a chain now b).outcome := by
  have hintake := intake_of_inPath hkey h
  by_cases hb : b = []
  · rw [if_pos hb] at hintake
    rw [respond, hintake, hb, answer, decode?_nil]
  · rw [if_neg hb] at hintake
    exact outcome_of_octets hintake

end Ocsp

/-- The outcome of the responder of an authority. -/
theorem outcome_of_role {r : Responder} {place : Nat} (hrole : r.role = .ocsp place)
    (authorities : Authority.Registry) (now : Instant) (message : Http.Request) (calls : Calls) :
    (r.respond authorities now message calls).1.outcome =
      match authorities.get? place with
      | some a => (Ocsp.respond a (authorities.chain place) now message).outcome
      | none => Ocsp.badRequest := by
  simp only [respond, hrole]
  cases authorities.get? place <;> rfl

end Responder

/-! ### Through the dispatcher -/

/-- What becomes of an outcome does not depend on what was written down. -/
theorem Dispatch.Dispatcher.settle_fst (d : Dispatch.Dispatcher) (route : String)
    (outcome : Responder.Outcome) (desk desk' : Dispatch.Desk) :
    (d.settle route outcome desk).1 = (d.settle route outcome desk').1 := by
  unfold settle
  cases Dispatch.Fault.ofOutcome route outcome with
  | ok r => rfl
  | error fault => cases d.policy <;> rfl

/-- What is answered through a dispatcher comes from the responder, or stands for a fault. -/
theorem Dispatch.Dispatcher.settle_cases {d : Dispatch.Dispatcher} {route : String}
    {outcome : Responder.Outcome} {desk : Dispatch.Desk} {response : Http.Response}
    (h : (d.settle route outcome desk).1 = .ok response) :
    outcome = .response response ∨ response = Http.Response.empty 500 := by
  unfold settle at h
  cases hsettled : Dispatch.Fault.ofOutcome route outcome with
  | ok r =>
      rw [hsettled] at h
      cases h
      cases outcome <;> cases hsettled
      exact Or.inl rfl
  | error fault =>
      rw [hsettled] at h
      cases hpolicy : d.policy with
      | dropConnection =>
          rw [hpolicy] at h
          cases h
      | internalServerError =>
          rw [hpolicy] at h
          cases h
          exact Or.inr rfl

namespace Lab

open Responder.Ocsp

/-- The answer to a request with a route is what becomes of the outcome of its responder. -/
theorem dispatch_of_lookup? {l : Lab} {d : Dispatch.Dispatcher} {request : Http.Request}
    {now : Instant} {route : String} {r : Responder}
    (h : l.routes.lookup? request.target.path = some (route, r)) :
    (l.dispatch d request now).2 = (d.settle route
      (r.respond l.authorities now { request with limit := some d.maxBodyBytes } l.calls).1.outcome
      {}).1 := by
  have hanswer : (l.dispatch d request now).2
      = (d.dispatch l.routes (Responder.respond l.authorities now) request l.calls l.desk).answer :=
    rfl
  rw [hanswer, Dispatch.Dispatcher.dispatch, h]
  exact Dispatch.Dispatcher.settle_fst d route _ _ _

/-- **Both ways have the same answer**, or the same fault: octets that fit the limit and are carried to
the responder of an authority in the path of a GET, or in the body of a POST. -/
theorem dispatch_of_inPath_inBody {l : Lab} {d : Dispatch.Dispatcher} {now : Instant} {key : String}
    (hkey : Routing.key? key = some key) {e : Routing.Entry Responder}
    (he : l.routes.get? key = some e) {place : Nat} (hrole : e.occupant.role = .ocsp place)
    {b : Octets} (hb : b.length ≤ d.maxBodyBytes) {get post : Http.Request}
    (hget : InPath key b get) (hpost : InBody key b post) :
    (l.dispatch d get now).2 = (l.dispatch d post now).2 := by
  obtain ⟨t, hspells, hpath⟩ := hget.path
  have hentry : (l.routes.get? key).map Routing.Entry.occupant = some e.occupant := by rw [he]; rfl
  -- both are routed to the responder
  have hrouteGet : l.routes.lookup? get.target.path = some (key, e.occupant) := by
    refine Routing.Table.lookup?_eq_some_iff.2 ⟨?_, hentry⟩
    rw [hpath]
    exact Routing.key?_append hkey _
  have hroutePost : l.routes.lookup? post.target.path = some (key, e.occupant) := by
    refine Routing.Table.lookup?_eq_some_iff.2 ⟨?_, hentry⟩
    rw [hpost.path]
    exact hkey
  rw [dispatch_of_lookup? hrouteGet, dispatch_of_lookup? hroutePost]
  -- the responder has the same octets, and with them the same outcome
  have hget' : InPath key b { get with limit := some d.maxBodyBytes } :=
    ⟨hget.isGet, hget.path, hget.target⟩
  have hpost' : InBody key b { post with limit := some d.maxBodyBytes } :=
    ⟨hpost.isPost, hpost.path, hpost.contentType, hpost.contentLength, hpost.chunks, hpost.failure⟩
  have hintake := intake_of_inBody hpost' hget.length_lt hb
  have hsame : (e.occupant.respond l.authorities now
        { get with limit := some d.maxBodyBytes } l.calls).1.outcome
      = (e.occupant.respond l.authorities now
        { post with limit := some d.maxBodyBytes } l.calls).1.outcome := by
    rw [Responder.outcome_of_role hrole, Responder.outcome_of_role hrole]
    cases l.authorities.get? place with
    | none => rfl
    | some a => exact (outcome_of_inPath hkey hget').trans (outcome_of_octets hintake).symm
  rw [hsame]

/-! ### A request on both ways -/

/-- A question with a nonce that has slashes in its base64 text. -/
def slashedOctets : Octets :=
  let certId : Ocsp.CertId := ⟨⟨Digest.Algorithm.sha1.objectId, none⟩, [1], [2], ⟨[3]⟩⟩
  (Ocsp.Request.build [certId] (some [63, 255, 255, 255])).encode

/-- The base64 text of the question in front of its slashes. -/
def slashedFront : List Char :=
  "MDMwMTAWMBQwEjAHBgUrDgMCGgQBAQQBAgIBA6IXMBUwEwYJKwYBBQUHMAECBAYEBD".toList

/-- The question in a path, with its four slashes in three spellings. -/
def slashedGet : Http.Request :=
  { method := ⟨"get"⟩
    target := ⟨"/ocsp/" ++ String.ofList (slashedFront ++ "/%2F%2f/8=".toList), none⟩
    headers := []
    body := ⟨[], none⟩ }

/-- The question in a body of two chunks. -/
def slashedPost : Http.Request :=
  { method := ⟨"POST"⟩
    target := ⟨"/ocsp/", none⟩
    headers := [⟨"content-length", Octets.ofText "053"⟩,
      ⟨"content-type", Octets.ofText "Application/OCSP-Request"⟩]
    body := ⟨[slashedOctets.take 7, slashedOctets.drop 7], none⟩ }

theorem inPath_slashedGet : InPath "/ocsp/" slashedOctets slashedGet where
  isGet := by decide
  path := by
    have htext : Base64.encode slashedOctets = slashedFront ++ "////8=".toList := by
      decide +kernel
    refine ⟨slashedFront ++ "/%2F%2f/8=".toList, ?_, rfl⟩
    rw [htext]
    exact (Ocsp.Segment.Spells.refl slashedFront).append
      (.plain '/' (.upper (.lower (.plain '/' (Ocsp.Segment.Spells.refl ['8', '='])))))
  target := ⟨slashedGet.target.path, by decide +kernel⟩

theorem inBody_slashedPost : InBody "/ocsp/" slashedOctets slashedPost where
  isPost := by decide
  path := rfl
  contentType := ⟨"Application/OCSP-Request".toList, by decide, by decide⟩
  contentLength := ⟨"053".toList, by decide, by decide, by decide, by decide +kernel⟩
  chunks := by decide +kernel
  failure := rfl

/-- A root and its responder. -/
def routedEvents : List Event :=
  rootEvents "Lab" ++ [⟨.register ⟨⟨"http", some { host := "localhost" },
    .segments ["ocsp", ""], none, none⟩, .ocsp 0⟩, Instant.ofSeconds 1⟩]

/-- The question has the same answer on both ways. -/
theorem dispatch_slashedGet_slashedPost :
    ((History.run routedEvents).lab.dispatch ⟨.dropConnection, 53⟩ slashedGet
        (Instant.ofSeconds 5)).2
      = ((History.run routedEvents).lab.dispatch ⟨.dropConnection, 53⟩ slashedPost
        (Instant.ofSeconds 5)).2 := by
  have hroute : ((History.run routedEvents).lab.routes.get? "/ocsp/").map
      (fun e => e.occupant.role) = some (.ocsp 0) := by
    decide +kernel
  obtain ⟨e, he, hrole⟩ := Option.map_eq_some_iff.1 hroute
  have hfits : slashedOctets.length ≤ 53 := by decide +kernel
  exact dispatch_of_inPath_inBody (by decide) he hrole hfits inPath_slashedGet inBody_slashedPost

end Lab

end RevocationLab
