/-
**Responses with a body.**

A head is closed with a body and one more header, which declares the length of the body.  The status,
the headers and their order stay.  A head without a length becomes a response with exactly one, and the
body is read back under it.  A head that has a length already keeps it: there are two of them then, and
the one that is read is the one that was there, whatever the length of the body is.

Main definitions:

* `Http.Headers.values`, `Http.Headers.others` — headers sorted out by their names;
* `Http.ResponseHead.IsFramed` — **a response that declares the length of its body**;
* `Http.ResponseHead.Closes` — what closing a head does.

Main results:

* `Http.Headers.contentLength?_of_values` — the length that a number declares;
* `Http.ResponseHead.closes_withBody` — **a closed response declares the length of its body exactly if
  its head declared none**;
* `Http.ResponseHead.withBody_staleHead` — **a response that declares two lengths**.
-/

import RevocationLab.Http.Response
import RevocationLab.Proofs.Http.Request

set_option autoImplicit false

namespace RevocationLab

namespace Http

/-! ### Headers by name -/

namespace Headers

/-- The values of all headers of a name, in their order. -/
def values (hs : Headers) (name : String) : List Octets :=
  (hs.filter fun h => h.name == name).map Header.value

/-- The headers of all other names, in their order. -/
def others (hs : Headers) (name : String) : Headers := hs.filter fun h => h.name != name

theorem values_append (hs ks : Headers) (name : String) :
    (hs ++ ks).values name = hs.values name ++ ks.values name := by
  rw [values, List.filter_append, List.map_append]
  rfl

theorem others_append (hs ks : Headers) (name : String) :
    (hs ++ ks).others name = hs.others name ++ ks.others name :=
  List.filter_append hs ks

/-- What is found under a name is the first of its values. -/
theorem get?_eq_head?_values (hs : Headers) (name : String) :
    hs.get? name = (hs.values name).head? := by
  rw [get?, values, List.head?_map, List.head?_filter]

/-- Headers with the same first value of a length have the same length. -/
theorem contentLength?_congr {hs ks : Headers}
    (h : (hs.values "content-length").head? = (ks.values "content-length").head?) :
    hs.contentLength? = ks.contentLength? := by
  rw [contentLength?, contentLength?, text?, text?, get?_eq_head?_values, get?_eq_head?_values, h]

/-- **A number is read as the length that it declares**, whatever other lengths come behind it. -/
theorem contentLength?_of_values {hs : Headers} {n : Nat} {rest : List Octets}
    (h : hs.values "content-length" = Octets.ofText (toString n) :: rest) (hn : n < UInt64.size) :
    hs.contentLength? = some n := by
  have hvalue : Ascii.decimalValue (Nat.toDigits 10 n) = n := Nat.ofDigitChars_ten_toDigits
  have hget : hs.get? "content-length"
      = some (Octets.ofText (String.ofList (Nat.toDigits 10 n))) := by
    rw [get?_eq_head?_values, h]
    rfl
  have hdigits : (Nat.toDigits 10 n).all Char.isDigit = true :=
    List.all_eq_true.2 fun c hc => Nat.isDigit_of_mem_toDigits (by decide) (by decide) hc
  have hlength := contentLength?_of_digits hget Nat.toDigits_ne_nil hdigits (hvalue.symm ▸ hn)
  rwa [hvalue] at hlength

end Headers

/-! ### Closing a head -/

namespace ResponseHead

/-- What a response keeps of the head and the body that it was made of. -/
structure Keeps (head : ResponseHead) (body : Octets) (r : Response) : Prop where
  octets : r.body = body
  status : r.status = head.status
  /-- All headers but those of a length stay, with all their values. -/
  others : r.headers.others "content-length" = head.headers.others "content-length"

/-- **A response that declares the length of its body.** -/
structure IsFramed (head : ResponseHead) (body : Octets) (r : Response) : Prop
    extends Keeps head body r where
  /-- There is exactly one length, and it is the number of the octets. -/
  values : r.headers.values "content-length" = [Octets.ofText (toString body.length)]
  /-- This is the length that is read, -/
  length : r.headers.contentLength? = some body.length
  /-- and the body is read back under it if the limit allows, in whatever chunks it is sent. -/
  read : ∀ (limit : Option Nat) (sent : Body), sent.failure = none → sent.octets = r.body →
    body.length ≤ limit.getD defaultLimit → readBody r.headers limit sent = .ok body

/-- What closing a head with a body does. -/
structure Closes (head : ResponseHead) (body : Octets) : Prop
    extends Keeps head body (head.withBody body) where
  /-- The length of the body is declared behind those that are there. -/
  values : (head.withBody body).headers.values "content-length"
    = head.headers.values "content-length" ++ [Octets.ofText (toString body.length)]
  /-- **The response declares the length of its body exactly if none was there.** -/
  framed_iff : IsFramed head body (head.withBody body) ↔
    head.headers.values "content-length" = []
  /-- If one was there, it is still the one that is read. -/
  stale : head.headers.values "content-length" ≠ [] →
    (head.withBody body).headers.contentLength? = head.headers.contentLength?

variable {head : ResponseHead} {body : Octets}

theorem values_lengthHeader (n : Nat) :
    Headers.values [lengthHeader n] "content-length" = [Octets.ofText (toString n)] := rfl

theorem keeps_withBody (head : ResponseHead) (body : Octets) :
    Keeps head body (head.withBody body) where
  octets := rfl
  status := rfl
  others := by
    change Headers.others (head.headers ++ [lengthHeader body.length]) _ = _
    rw [Headers.others_append]
    exact List.append_nil _

theorem values_withBody (head : ResponseHead) (body : Octets) :
    (head.withBody body).headers.values "content-length"
      = head.headers.values "content-length" ++ [Octets.ofText (toString body.length)] := by
  change Headers.values (head.headers ++ [lengthHeader body.length]) _ = _
  rw [Headers.values_append, values_lengthHeader]

/-- A response with one length, which is the one of its body, declares it. -/
theorem isFramed_of_values {r : Response} (h : Keeps head body r)
    (hvalues : r.headers.values "content-length" = [Octets.ofText (toString body.length)])
    (hsize : body.length < UInt64.size) : IsFramed head body r where
  toKeeps := h
  values := hvalues
  length := Headers.contentLength?_of_values hvalues hsize
  read limit sent hfailure hoctets hlimit := by
    have hsent : sent.octets = body := hoctets.trans h.octets
    rw [readBody_eq_ok_iff hfailure, hsent]
    exact ⟨rfl, Headers.contentLength?_of_values hvalues hsize, hlimit⟩

/-- **A closed response declares the length of its body exactly if its head declared none.** -/
theorem closes_withBody (head : ResponseHead) {body : Octets} (hsize : body.length < UInt64.size) :
    head.Closes body where
  toKeeps := keeps_withBody head body
  values := values_withBody head body
  framed_iff := by
    constructor
    · intro h
      -- the value that is added stands behind those that were there, so that none was
      have hvalues := h.values
      rw [values_withBody] at hvalues
      exact List.append_left_eq_self.1 hvalues
    · intro h
      refine isFramed_of_values (keeps_withBody head body) ?_ hsize
      rw [values_withBody, h, List.nil_append]
  stale h := by
    refine Headers.contentLength?_congr ?_
    rw [values_withBody, List.head?_append_of_ne_nil _ h]

/-- Some octets for a body. -/
def sampleBody : Octets := [1, 2, 3]

/-- A head with two values of one name, and without a length. -/
def sampleHead : ResponseHead :=
  ⟨404, [⟨"x-a", Octets.ofText "1"⟩, ⟨"content-type", Octets.ofText "text/plain"⟩,
    ⟨"x-a", Octets.ofText "2"⟩]⟩

theorem closes_sampleHead : sampleBody.length < UInt64.size ∧ sampleHead.Closes sampleBody
    ∧ IsFramed sampleHead sampleBody (sampleHead.withBody sampleBody) := by
  have hsize : sampleBody.length < UInt64.size := by decide
  have hcloses := closes_withBody sampleHead hsize
  exact ⟨hsize, hcloses, hcloses.framed_iff.2 (by decide)⟩

/-- A head that declares a length. -/
def staleHead : ResponseHead := ⟨200, [⟨"content-length", Octets.ofText "7"⟩]⟩

/-- **A response that declares two lengths**, of which the wrong one is read. -/
theorem withBody_staleHead :
    (staleHead.withBody sampleBody).headers.values "content-length"
      = [Octets.ofText "7", Octets.ofText "3"]
    ∧ (staleHead.withBody sampleBody).headers.contentLength? = some 7
    ∧ ¬ IsFramed staleHead sampleBody (staleHead.withBody sampleBody) := by
  refine ⟨by decide, by decide, fun h => ?_⟩
  exact absurd h.length (by decide)

end ResponseHead

end Http

end RevocationLab
