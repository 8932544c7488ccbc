/-
**The address of a request reaches its responder.**

A client puts the base64 text of a request behind the URL of a responder, and a slash before it if the
URL has none at its end.  Where the responder is under a key, the path of the new URL is that key and the
segment: the client, the router and the responder agree on where the key ends, also if the segment starts
with a slash or has several in a row.  So the request is routed to the responder, which finds its octets
in the path.

Main definitions:

* `Responder.Ocsp.slashed` — a path with a slash at its end;
* `Responder.Ocsp.Carries` — **a URL that carries octets to a key**.

Main results:

* `Ocsp.Segment.isSafe_encode` — a segment may be written behind a path;
* `Responder.Ocsp.ends_of_isKey` — how the URL of a responder ends;
* `Responder.Ocsp.carries_requestUrl` — **the URL of a request carries its octets**.
-/

import RevocationLab.Ocsp.Address
import RevocationLab.Proofs.Ocsp.Grammar
import RevocationLab.Proofs.Responder.Delivery
import RevocationLab.Proofs.Url.Append

set_option autoImplicit false

namespace RevocationLab

/-! ### Segments behind a path -/

namespace Ocsp

namespace Segment

/-- **A segment may be written behind a path**, with its slashes escaped or not. -/
theorem isSafe_encode (b : Octets) (escaped : Bool) : Url.IsSafe (encode b escaped).toList := by
  have hspells := spells_encode b escaped
  have hcharacter : ∀ c ∈ (encode b escaped).toList,
      (c = '/' ∨ Url.isPlainChar c = true) ∧ c ≠ '\\' ∧ c ≠ '.' := by
    have halphabet : ∀ n < 64, (Base64.character n = '/' ∨ Url.isPlainChar (Base64.character n) = true)
        ∧ Base64.character n ≠ '\\' ∧ Base64.character n ≠ '.' := by
      decide
    intro c hc
    rcases (isReadable_of_spells hspells).characters c hc with ⟨n, hn, rfl⟩ | rfl | rfl
    · exact halphabet n hn
    · decide
    · decide
  refine ⟨fun c hc => (hcharacter c hc).1, fun hmem => (hcharacter _ hmem).2.1 rfl, ?_⟩
  intro kind p hp hdot
  obtain ⟨before, after, hinfix⟩ := Url.infix_of_mem_splitSegments hp
  rcases Url.head?_plainDots hdot with hhead | ⟨c, r, rfl, hc⟩
  · have hmem := (Url.infix_of_mem_splitSegments hp).subset (List.mem_of_mem_head? hhead)
    exact (hcharacter '.' hmem).2.2 rfl
  · -- an escape in a segment is that of a slash
    rw [List.append_assoc, List.cons_append] at hinfix
    rw [← hinfix] at hspells
    obtain ⟨r', heq | heq⟩ := hspells.escape_of_percent (Base64.percent_not_mem_encode b)
    · cases heq
      rcases hc with hc | hc <;> cases hc
    · cases heq
      rcases hc with hc | hc <;> cases hc

end Segment

end Ocsp

/-! ### Requests that are routed -/

/-- What the responder of an authority finds in a request that is routed to it is answered. -/
theorem Lab.dispatch_of_octets {l : Lab} {d : Dispatch.Dispatcher} {request : Http.Request}
    {now : Instant} {key : String} {r : Responder} {place : Nat} {a : Authority} {b : Octets}
    (hroute : l.routes.lookup? request.target.path = some (key, r)) (hrole : r.role = .ocsp place)
    (ha : l.authorities.get? place = some a)
    (hintake : Responder.Ocsp.intake { request with limit := some d.maxBodyBytes } = .octets b) :
    (l.dispatch d request now).2 = (d.settle key
      (Responder.Ocsp.answer a (l.authorities.chain place) now b).outcome {}).1 := by
  rw [Lab.dispatch_of_lookup? hroute, Responder.outcome_of_role hrole, ha]
  simp only [Responder.Ocsp.outcome_of_octets hintake]

/-! ### Keys -/

namespace Responder

namespace Ocsp

open RevocationLab.Ocsp

/-- A path with a slash at its end. -/
def slashed (path : String) : String :=
  if path.toList.getLast? = some '/' then path else path ++ "/"

/-- A path that is a key, but for the slash at its end, has one segment. -/
theorem path_of_isKey {path : String} (h : Routing.isKey (slashed path) = true) :
    ∃ σ r : List Char, σ ≠ [] ∧ '/' ∉ σ ∧ path.toList = '/' :: σ ++ r
      ∧ (r = [] ∧ path.toList.getLast? ≠ some '/' ∨ r = ['/'])
      ∧ slashed path = "/" ++ String.ofList σ ++ "/" := by
  obtain ⟨σ, hkey, hne, hσ⟩ := Routing.isKey_iff.1 h
  have htext : slashed path = "/" ++ String.ofList σ ++ "/" := by
    apply String.toList_inj.1
    rw [hkey]
    simp
  unfold slashed at hkey
  split at hkey
  · exact ⟨σ, ['/'], hne, hσ, hkey, Or.inr rfl, htext⟩
  · next hlast =>
      refine ⟨σ, [], hne, hσ, ?_, Or.inl ⟨rfl, hlast⟩, htext⟩
      rw [String.toList_append] at hkey
      rw [List.append_nil]
      exact List.append_cancel_right hkey

/-! ### Targets -/

/-- A target may hold what a path keeps. -/
theorem isPathChar_of_isPlainChar {c : Char} (h : Url.isPlainChar c = true) :
    Http.Target.isPathChar c = true := by
  have hlow : '!' ≤ c := Nat.succ_le_of_lt (Nat.not_le.1 (Url.isPlainChar_ne h).1)
  have hmark : ∀ {d : Char}, Url.inPath d = true → c ≠ d := Url.ne_of_isPlainChar h
  have hless : c ≠ '<' := hmark (by decide)
  have hmore : c ≠ '>' := hmark (by decide)
  have htick : c ≠ '`' := hmark (by decide)
  have hfragment : c ≠ '#' := hmark (by decide)
  have hquery : c ≠ '?' := hmark (by decide)
  simp [Http.Target.isPathChar, hlow, hless, hmore, htick, hfragment, hquery]

theorem isPathChar_of_isSafe {w : List Char} (h : Url.IsSafe w) :
    ∀ c ∈ w, Http.Target.isPathChar c = true := by
  intro c hc
  rcases h.char c hc with rfl | hplain
  · decide
  · exact isPathChar_of_isPlainChar hplain

/-- A path of such characters is a target, unless it is too long for one. -/
theorem ofText?_path {path : String} {r : List Char} (hslash : path.toList = '/' :: r)
    (h : ∀ c ∈ path.toList, Http.Target.isPathChar c = true)
    (hfits : path.utf8ByteSize ≤ Http.Target.maxLength) :
    Http.Target.ofText? path = some ⟨path, none⟩ := by
  have htake := List.takeWhile_eq_self_iff.2 h
  have hdrop := List.dropWhile_eq_nil_iff.2 h
  have hread : Http.Target.pathAndQuery? path.toList = some ⟨path, none⟩ := by
    have hne : path.toList ≠ [] := by
      rw [hslash]
      exact List.cons_ne_nil '/' r
    unfold Http.Target.pathAndQuery?
    simp only [htake, hdrop, if_neg hne, String.ofList_toList]
  rw [hslash] at hread
  unfold Http.Target.ofText?
  simp only [if_neg (Nat.not_lt.2 hfits), hslash, hread]

/-! ### The URL of a request -/

/-- The text of a URL that ends in its path. -/
theorem exists_toText {u : Url} (hu : u.EndsInPath) :
    ∃ front, u.toText.toList = front ++ u.path.toList := by
  rw [Url.toText, hu.query, hu.fragment]
  simp only [Option.map_none, Option.getD_none, String.append_empty]
  rw [String.toList_append]
  exact ⟨_, rfl⟩

/-- **How the URL of a responder ends**: in the segment of its key, or in the slash behind that. -/
theorem ends_of_isKey {u : Url} (hread : Url.parse u.toText = .ok u) (hquery : u.query = none)
    (hfragment : u.fragment = none) (hkey : Routing.isKey (slashed u.path) = true) :
    u.EndsInPath ∧ ∃ (σ front : List Char) (c : Char), σ ≠ [] ∧ (∀ d ∈ σ, Url.isPlainChar d = true)
      ∧ slashed u.path = "/" ++ String.ofList σ ++ "/" ∧ u.toText.toList = front ++ [c] ∧ ¬ c ≤ ' '
      ∧ (u.location = .segments [String.ofList σ] ∧ c ≠ '/'
        ∨ u.location = .segments [String.ofList σ, ""] ∧ c = '/') := by
  obtain ⟨σ, r, hne, hσ, hpath, hr, hslashed⟩ := path_of_isKey hkey
  have hends : u.EndsInPath := by
    obtain ⟨c, s, rfl⟩ := List.exists_cons_of_ne_nil hne
    exact ⟨hquery, hfragment, c, s ++ r, hpath⟩
  obtain ⟨list, hlist, hplain⟩ := Url.exists_segments_of_parse hread hends
  have hform : list = String.ofList σ :: (if r = [] then [] else [""]) := by
    refine Url.segments_of_toText (fun s hs hmem => ?_) hσ (hr.imp_left And.left) ?_
    · exact (Url.isPlainChar_spec (hplain s hs '/' hmem)).2.2 rfl
    · rw [← hpath, Url.path, hlist]
  have hchars : ∀ d ∈ σ, Url.isPlainChar d = true := by
    intro d hd
    refine hplain (String.ofList σ) (by rw [hform]; exact List.mem_cons_self) d ?_
    rwa [String.toList_ofList]
  obtain ⟨front, hfront⟩ := exists_toText hends
  rw [hpath] at hfront
  refine ⟨hends, σ, ?_⟩
  rcases hr with ⟨rfl, -⟩ | rfl
  · obtain ⟨s, c, rfl⟩ := (List.eq_nil_or_concat σ).resolve_left hne
    have hc := hchars c (by simp)
    refine ⟨front ++ '/' :: s, c, hne, hchars, hslashed, ?_, (Url.isPlainChar_ne hc).1, Or.inl ⟨?_, ?_⟩⟩
    · simp [hfront]
    · rw [hlist, hform, if_pos rfl]
    · exact (Url.isPlainChar_spec hc).2.2
  · refine ⟨front ++ '/' :: σ, '/', hne, hchars, hslashed, ?_, by decide, Or.inr ⟨?_, rfl⟩⟩
    · simp [hfront]
    · rw [hlist, hform, if_neg (List.cons_ne_nil _ _)]

/-- **The URL of a request** is that of the responder with the segment behind its key. -/
theorem exists_requestUrl {u : Url} (hread : Url.parse u.toText = .ok u) (hquery : u.query = none)
    (hfragment : u.fragment = none) (hkey : Routing.isKey (slashed u.path) = true) (b : Octets)
    (escaped : Bool) :
    ∃ url, requestUrl u b escaped = .ok url ∧ url = { u with location := url.location }
      ∧ url.path = slashed u.path ++ Segment.encode b escaped := by
  obtain ⟨hends, σ, front, c, hne, -, hslashed, htext, hblank, hform⟩ :=
    ends_of_isKey hread hquery hfragment hkey
  have hσ : String.ofList σ ≠ "" := by
    intro heq
    exact hne (String.toList_ofList.symm.trans (congrArg String.toList heq))
  -- the client puts a slash where there is none
  have hseparator : u.location = .segments [String.ofList σ]
        ∧ (if u.toText.toList.getLast? = some '/' then "" else "/") = "/"
      ∨ u.location = .segments [String.ofList σ, ""] ∧ c = '/'
        ∧ (if u.toText.toList.getLast? = some '/' then "" else "/") = "" := by
    rw [htext, List.getLast?_concat]
    rcases hform with ⟨hone, hc⟩ | ⟨htwo, rfl⟩
    · exact Or.inl ⟨hone, if_neg fun heq => hc (Option.some.inj heq)⟩
    · exact Or.inr ⟨htwo, rfl, if_pos rfl⟩
  obtain ⟨url, hurl, hrest, hpath⟩ := Url.parse_append hread hends htext hblank hσ
    (Segment.isSafe_encode b escaped) hseparator
  rw [String.ofList_toList] at hurl hpath
  refine ⟨url, ?_, hrest, ?_⟩
  · rw [requestUrl, ← hurl, String.append_assoc]
  · rw [hpath, hslashed]

/-- The path of the URL of a request is a target, unless it is too long for one. -/
theorem ofText?_key {u : Url} (hread : Url.parse u.toText = .ok u) (hquery : u.query = none)
    (hfragment : u.fragment = none) (hkey : Routing.isKey (slashed u.path) = true) {b : Octets}
    {escaped : Bool} {path : String} (hpath : path = slashed u.path ++ Segment.encode b escaped)
    (hfits : path.utf8ByteSize ≤ Http.Target.maxLength) :
    Http.Target.ofText? path = some ⟨path, none⟩ := by
  obtain ⟨-, σ, -, -, -, hchars, hslashed, -⟩ := ends_of_isKey hread hquery hfragment hkey
  have hlist : path.toList = '/' :: (σ ++ '/' :: (Segment.encode b escaped).toList) := by
    rw [hpath, hslashed]
    simp
  have hslash : Http.Target.isPathChar '/' = true := by decide
  refine ofText?_path hlist ?_ hfits
  rw [hlist]
  refine List.forall_mem_cons.2 ⟨hslash, List.forall_mem_append.2 ⟨?_, ?_⟩⟩
  · exact fun c hc => isPathChar_of_isPlainChar (hchars c hc)
  · exact List.forall_mem_cons.2 ⟨hslash, isPathChar_of_isSafe (Segment.isSafe_encode b escaped)⟩

/-! ### Carrying octets -/

/-- **A URL that carries octets to a key**, where it is made from the URL of a responder. -/
structure Carries (u : Url) (key : String) (b : Octets) (escaped : Bool) (url : Url) : Prop where
  /-- The path is the key and the segment of the octets. -/
  path : url.path = key ++ Segment.encode b escaped
  /-- There is no query. -/
  query : url.query = none
  /-- There is no fragment. -/
  fragment : url.fragment = none
  /-- Nothing but the path is changed. -/
  rest : url = { u with location := url.location }
  /-- The path is a target, unless it is too long for one. -/
  target : url.path.utf8ByteSize ≤ Http.Target.maxLength →
    Http.Target.ofText? url.path = some ⟨url.path, none⟩
  /-- Every table routes the path to whoever is under the key. -/
  route : ∀ {α : Type} (t : Routing.Table α) (e : Routing.Entry α), t.get? key = some e →
    t.lookup? url.path = some (key, e.occupant)
  /-- A responder finds the octets in a GET for the path. -/
  octets : ∀ message : Http.Request, message.isGet = true → message.target.path = url.path →
    intake message = .octets b
  /-- An authority whose responder is under the key answers to the octets. -/
  answered : ∀ (l : Lab) (d : Dispatch.Dispatcher) (e : Routing.Entry Responder) (place : Nat)
    (a : Authority) (message : Http.Request) (now : Instant), l.routes.get? key = some e →
    e.occupant.role = .ocsp place → l.authorities.get? place = some a → message.isGet = true →
    message.target.path = url.path →
    (l.dispatch d message now).2
      = (d.settle key (answer a (l.authorities.chain place) now b).outcome {}).1

/-- The octets of a segment behind a key are found. -/
theorem intake_of_path {key : String} (hkey : Routing.key? key = some key) {b : Octets} (hb : b ≠ [])
    {escaped : Bool} {message : Http.Request} (hget : message.isGet = true)
    (hpath : message.target.path = key ++ Segment.encode b escaped) :
    intake message = .octets b := by
  have hsegment : segmentOctets? message.target.path = some b := by
    rw [segmentOctets?, hpath, Routing.key?_append hkey, Option.map_some, Option.getD_some,
      Routing.remainder_append]
    exact Segment.decode?_eq_some_iff.2 ⟨hb, Segment.spells_encode b escaped⟩
  rw [intake, if_pos hget, hsegment]

/-- **The URL of a request carries its octets** to the key of the responder, for every URL that is read
from its own text, has no query and no fragment, and has a path that is a key, perhaps without the
slash at its end. -/
theorem carries_requestUrl {u : Url} (hread : Url.parse u.toText = .ok u) (hquery : u.query = none)
    (hfragment : u.fragment = none) (hkey : Routing.isKey (slashed u.path) = true) {b : Octets}
    (hb : b ≠ []) (escaped : Bool) :
    ∃ url, requestUrl u b escaped = .ok url ∧ Carries u (slashed u.path) b escaped url := by
  obtain ⟨url, hurl, hrest, hpath⟩ := exists_requestUrl hread hquery hfragment hkey b escaped
  have hself := Routing.key?_of_isKey hkey
  have hroute : ∀ {α : Type} (t : Routing.Table α) (e : Routing.Entry α),
      t.get? (slashed u.path) = some e → t.lookup? url.path = some (slashed u.path, e.occupant) := by
    intro α t e he
    rw [Routing.Table.lookup?_eq_some_iff, hpath, he]
    exact ⟨Routing.key?_append hself _, rfl⟩
  refine ⟨url, hurl, hpath, ?_, ?_, hrest, ofText?_key hread hquery hfragment hkey hpath, hroute,
    ?_, ?_⟩
  · rw [hrest]
    exact hquery
  · rw [hrest]
    exact hfragment
  · intro message hget hmessage
    exact intake_of_path hself hb hget (hmessage.trans hpath)
  · intro l d e place a message now he hrole ha hget hmessage
    refine Lab.dispatch_of_octets ?_ hrole ha ?_
    · rw [hmessage]
      exact hroute l.routes e he
    · exact intake_of_path hself hb hget (hmessage.trans hpath)

/-- A responder without a slash at the end of its URL. -/
def bareUrl : Url :=
  ⟨"http", some { host := "localhost", port := some 4000 }, .segments ["ocsp"], none, none⟩

/-- Octets whose base64 text starts with a slash and has two in a row. -/
def slashyOctets : Octets := [0xfc, 0x00, 0x01, 0xfb, 0xff, 0xff]

/-- A segment with a slash in front, behind a URL without one at its end. -/
theorem carries_requestUrl_bareUrl : ∃ url, requestUrl bareUrl slashyOctets false = .ok url
    ∧ url.path = "/ocsp//AAB+///" ∧ Carries bareUrl "/ocsp/" slashyOctets false url := by
  have hread : Url.parse bareUrl.toText = .ok bareUrl := by decide +kernel
  have hkey : Routing.isKey (slashed bareUrl.path) = true := by decide +kernel
  have hslashed : slashed bareUrl.path = "/ocsp/" := by decide +kernel
  have hsegment : Segment.encode slashyOctets false = "/AAB+///" := by decide +kernel
  have hb : slashyOctets ≠ [] := by decide
  obtain ⟨url, hurl, hcarries⟩ := carries_requestUrl hread rfl rfl hkey hb false
  rw [hslashed] at hcarries
  refine ⟨url, hurl, ?_, hcarries⟩
  rw [hcarries.path, hsegment]
  rfl

end Ocsp

end Responder

end RevocationLab
