/-
**Reading under a declared length.**

A body is read in one of six ways.  Two of them are decided by the headers and the limit before the
body is looked at: no length is declared, or one beyond the limit.  Otherwise the body goes on after
the declared length, the transport fails, the body ends too early, or it is read.  What is read is the
whole body, and it has exactly the length that was declared; how the octets were cut into chunks does
not show.

Main definitions:

* `Http.Ending` — **how reading ends**, by the declared length, the limit and the body;
* `Http.Request.ReadsWhole` — what this means for each result.

Main results:

* `Http.readBody_eq_iff_ending` — **reading ends in exactly one of the ways**;
* `Http.Request.readsWhole_read` — **a body is read as a whole or not at all**.
-/

import RevocationLab.Proofs.Http.Request

set_option autoImplicit false

namespace RevocationLab

namespace Http

/-! ### How reading ends -/

/-- **How reading a body ends**, when this length is declared for it, if any, and this is the limit. -/
inductive Ending (declared? : Option Nat) (limit : Nat) (body : Body) :
    Except ReadError Octets → Prop
  /-- No length is declared. -/
  | missing (hdeclared : declared? = none) : Ending declared? limit body (.error .missingLength)
  /-- The declared length is beyond the limit. -/
  | tooLarge (declared : Nat) (hdeclared : declared? = some declared) (hlimit : limit < declared) :
      Ending declared? limit body (.error (.tooLarge declared limit))
  /-- The body goes on after the declared length, whatever comes behind. -/
  | overlong (declared : Nat) (hdeclared : declared? = some declared) (hlimit : declared ≤ limit)
      (hlength : declared < body.octets.length) :
      Ending declared? limit body (.error (.transport Body.overlong))
  /-- The transport fails, perhaps right after the declared length. -/
  | cut (declared : Nat) (text : String) (hdeclared : declared? = some declared)
      (hlimit : declared ≤ limit) (hlength : body.octets.length ≤ declared)
      (hfailure : body.failure = some text) :
      Ending declared? limit body (.error (.transport text))
  /-- The body ends before the declared length. -/
  | truncated (declared : Nat) (hdeclared : declared? = some declared) (hlimit : declared ≤ limit)
      (hlength : body.octets.length < declared) (hfailure : body.failure = none) :
      Ending declared? limit body (.error (.truncated declared body.octets.length))
  /-- The body ends at the declared length. -/
  | whole (hdeclared : declared? = some body.octets.length) (hlimit : body.octets.length ≤ limit)
      (hfailure : body.failure = none) : Ending declared? limit body (.ok body.octets)

section

variable {headers : Headers} {limit : Option Nat} {body : Body}

/-- Reading ends in one of the ways. -/
theorem ending_readBody (headers : Headers) (limit : Option Nat) (body : Body) :
    Ending headers.contentLength? (limit.getD defaultLimit) body (readBody headers limit body) := by
  rw [readBody_endings]
  cases hdeclared : headers.contentLength? with
  | none => exact .missing rfl
  | some declared =>
      simp only
      by_cases hlarge : limit.getD defaultLimit < declared
      · rw [if_pos hlarge]
        exact .tooLarge declared rfl hlarge
      · rw [if_neg hlarge]
        have hlimit := Nat.not_lt.1 hlarge
        by_cases hover : declared < body.octets.length
        · rw [if_pos hover]
          exact .overlong declared rfl hlimit hover
        · rw [if_neg hover]
          have hlength := Nat.not_lt.1 hover
          cases hfailure : body.failure with
          | some text => exact .cut declared text rfl hlimit hlength hfailure
          | none =>
              by_cases hshort : body.octets.length < declared
              · rw [if_pos hshort]
                exact .truncated declared rfl hlimit hshort hfailure
              · obtain rfl : declared = body.octets.length := by omega
                rw [if_neg hshort]
                exact .whole rfl hlimit hfailure

/-- It ends in no other way. -/
theorem readBody_of_ending {x : Except ReadError Octets}
    (h : Ending headers.contentLength? (limit.getD defaultLimit) body x) :
    readBody headers limit body = x := by
  rw [readBody_endings]
  cases h with
  | missing hdeclared => rw [hdeclared]
  | tooLarge declared hdeclared hlimit =>
      rw [hdeclared]
      exact if_pos hlimit
  | overlong declared hdeclared hlimit hlength =>
      rw [hdeclared]
      simp only [if_neg (Nat.not_lt.2 hlimit), if_pos hlength]
  | cut declared text hdeclared hlimit hlength hfailure =>
      rw [hdeclared]
      simp only [if_neg (Nat.not_lt.2 hlimit), if_neg (Nat.not_lt.2 hlength), hfailure]
  | truncated declared hdeclared hlimit hlength hfailure =>
      have hover := Nat.not_lt.2 (Nat.le_of_lt hlength)
      rw [hdeclared]
      simp only [if_neg (Nat.not_lt.2 hlimit), if_neg hover, hfailure, if_pos hlength]
  | whole hdeclared hlimit hfailure =>
      rw [hdeclared]
      simp only [if_neg (Nat.not_lt.2 hlimit), if_neg (Nat.lt_irrefl _), hfailure]

/-- **Reading ends in exactly one of the ways.** -/
theorem readBody_eq_iff_ending {x : Except ReadError Octets} :
    readBody headers limit body = x ↔
      Ending headers.contentLength? (limit.getD defaultLimit) body x :=
  ⟨fun h => h ▸ ending_readBody headers limit body, readBody_of_ending⟩

end

/-! ### What each result means -/

namespace Request

/-- The most octets that the body of a request may have: the limit that the request carries, or the
one that applies where none is given. -/
def bound (r : Request) : Nat := r.limit.getD defaultLimit

theorem read_eq_iff_ending {r : Request} {x : Except ReadError Octets} :
    r.read = x ↔ Ending r.headers.contentLength? r.bound r.body x :=
  readBody_eq_iff_ending

/-- **A body is read as a whole or not at all**: what each result of reading says about the headers,
the limit and the body. -/
structure ReadsWhole (r : Request) : Prop where
  /-- Octets are read exactly if a length is declared within the limit, the body ends cleanly and has
  this length; and then they are all of the body. -/
  ok_iff : ∀ b, r.read = .ok b ↔
    ∃ declared, r.headers.contentLength? = some declared ∧ declared ≤ r.bound
      ∧ r.body.failure = none ∧ r.body.octets.length = declared ∧ b = r.body.octets
  /-- The length is missing exactly if none is declared, whatever the body is. -/
  missing_iff : r.read = .error .missingLength ↔ r.headers.contentLength? = none
  /-- The body is too large exactly if a length beyond the limit is declared, whatever the body is. -/
  tooLarge_iff : ∀ declared limit, r.read = .error (.tooLarge declared limit) ↔
    r.headers.contentLength? = some declared ∧ limit = r.bound ∧ limit < declared
  /-- The body is truncated exactly if it ends cleanly before a declared length within the limit. -/
  truncated_iff : ∀ declared received, r.read = .error (.truncated declared received) ↔
    r.headers.contentLength? = some declared ∧ declared ≤ r.bound ∧ r.body.failure = none
      ∧ received = r.body.octets.length ∧ received < declared
  /-- The transport is blamed for everything else: a failure, or a body that goes on. -/
  transport_iff : (∃ text, r.read = .error (.transport text)) ↔
    ∃ declared, r.headers.contentLength? = some declared ∧ declared ≤ r.bound
      ∧ (r.body.failure ≠ none ∨ declared < r.body.octets.length)
  /-- Of two bodies that end cleanly with the same octets, one is read as the other, however they are
  cut into chunks. -/
  chunks : r.body.failure = none → ∀ body : Body, body.failure = none →
    body.octets = r.body.octets → { r with body }.read = r.read
  /-- No more is read than the limit allows. -/
  length_le : ∀ b, r.read = .ok b → b.length ≤ r.bound

variable {r : Request}

theorem read_eq_ok_iff {b : Octets} : r.read = .ok b ↔
    ∃ declared, r.headers.contentLength? = some declared ∧ declared ≤ r.bound
      ∧ r.body.failure = none ∧ r.body.octets.length = declared ∧ b = r.body.octets := by
  rw [read_eq_iff_ending]
  constructor
  · intro h
    cases h with
    | whole hdeclared hlimit hfailure => exact ⟨_, hdeclared, hlimit, hfailure, rfl, rfl⟩
  · rintro ⟨declared, hdeclared, hlimit, hfailure, rfl, rfl⟩
    exact .whole hdeclared hlimit hfailure

theorem read_eq_missing_iff :
    r.read = .error .missingLength ↔ r.headers.contentLength? = none := by
  rw [read_eq_iff_ending]
  constructor
  · intro h
    cases h with
    | missing hdeclared => exact hdeclared
  · exact .missing

theorem read_eq_tooLarge_iff {declared limit : Nat} :
    r.read = .error (.tooLarge declared limit) ↔
      r.headers.contentLength? = some declared ∧ limit = r.bound ∧ limit < declared := by
  rw [read_eq_iff_ending]
  constructor
  · intro h
    cases h with
    | tooLarge _ hdeclared hlimit => exact ⟨hdeclared, rfl, hlimit⟩
  · rintro ⟨hdeclared, rfl, hlimit⟩
    exact .tooLarge declared hdeclared hlimit

theorem read_eq_truncated_iff {declared received : Nat} :
    r.read = .error (.truncated declared received) ↔
      r.headers.contentLength? = some declared ∧ declared ≤ r.bound ∧ r.body.failure = none
        ∧ received = r.body.octets.length ∧ received < declared := by
  rw [read_eq_iff_ending]
  constructor
  · intro h
    cases h with
    | truncated _ hdeclared hlimit hlength hfailure =>
        exact ⟨hdeclared, hlimit, hfailure, rfl, hlength⟩
  · rintro ⟨hdeclared, hlimit, hfailure, rfl, hlength⟩
    exact .truncated declared hdeclared hlimit hlength hfailure

theorem exists_read_eq_transport_iff : (∃ text, r.read = .error (.transport text)) ↔
    ∃ declared, r.headers.contentLength? = some declared ∧ declared ≤ r.bound
      ∧ (r.body.failure ≠ none ∨ declared < r.body.octets.length) := by
  simp only [read_eq_iff_ending]
  constructor
  · rintro ⟨text, h⟩
    cases h with
    | overlong declared hdeclared hlimit hlength =>
        exact ⟨declared, hdeclared, hlimit, .inr hlength⟩
    | cut declared text hdeclared hlimit hlength hfailure =>
        exact ⟨declared, hdeclared, hlimit, .inl (by simp [hfailure])⟩
  · rintro ⟨declared, hdeclared, hlimit, hcause⟩
    -- a body that goes on is told by its length, before any failure of the transport shows
    by_cases hlength : declared < r.body.octets.length
    · exact ⟨_, .overlong declared hdeclared hlimit hlength⟩
    · obtain ⟨text, hfailure⟩ := Option.ne_none_iff_exists'.1 (hcause.resolve_right hlength)
      exact ⟨text, .cut declared text hdeclared hlimit (Nat.not_lt.1 hlength) hfailure⟩

/-- Chunks do not show in a body that ends cleanly. -/
theorem read_congr_chunks (h : r.body.failure = none) {body : Body} (hfailure : body.failure = none)
    (hoctets : body.octets = r.body.octets) : { r with body }.read = r.read := by
  change readBody r.headers r.limit body = readBody r.headers r.limit r.body
  rw [readBody_eq h, readBody_eq hfailure, hoctets]

/-- **A body is read as a whole or not at all**, in every request. -/
theorem readsWhole_read (r : Request) : r.ReadsWhole where
  ok_iff _ := read_eq_ok_iff
  missing_iff := read_eq_missing_iff
  tooLarge_iff _ _ := read_eq_tooLarge_iff
  truncated_iff _ _ := read_eq_truncated_iff
  transport_iff := exists_read_eq_transport_iff
  chunks h _ hfailure hoctets := read_congr_chunks h hfailure hoctets
  length_le b hb := by
    obtain ⟨declared, -, hlimit, -, rfl, rfl⟩ := read_eq_ok_iff.1 hb
    exact hlimit

/-- The transport fails after the declared length was reached, and the body is refused. -/
example : Request.read
    { method := ⟨"POST"⟩, target := ⟨"/", none⟩
      headers := [⟨"content-length", Octets.ofText "3"⟩]
      body := ⟨[[1], [], [2, 3]], some "wire cut"⟩ } = .error (.transport "wire cut") := by
  decide

end Request

end Http

end RevocationLab
