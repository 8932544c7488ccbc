/-
**Bodies and targets.**

A body is its octets, in whatever chunks they came: it is overlong if there is no room for them, and is
read in full otherwise, unless the transport fails after them.  Under a declared length this leaves six
endings, of which five are those of a body that ends cleanly; they are told apart by the length that
was declared, the limit and the length that arrived.  A target is no longer than the text that writes
it.

Main definitions:

* `Http.Body.octets` — the octets of a body, without its chunks.

Main results:

* `Http.Body.collect_eq` — chunks do not matter;
* `Http.readBody_endings` — **the six endings of a body**;
* `Http.readBody_eq_ok_iff` — when a body is read;
* `Http.readBody_eq_transport_iff` — the only ending that is blamed on the transport;
* `Http.Headers.contentLength?_of_digits` — a length that is declared in digits;
* `Http.Target.length_path_le` — a target has a bounded path.
-/

import Mathlib.Data.List.Flatten
import RevocationLab.Http.Request
import RevocationLab.Proofs.Text.Ascii

set_option autoImplicit false

namespace RevocationLab

namespace Http

/-! ### Bodies -/

namespace Body

/-- The octets of a body, without its chunks. -/
def octets (body : Body) : Octets := body.chunks.flatten

/-- Chunks are read in full if there is room for all of them and the transport does not fail after
them. -/
theorem collectChunks_eq (failure : Option String) (room : Nat) (chunks : List Octets) :
    collectChunks failure room chunks =
      if room < chunks.flatten.length then .error overlong
      else match failure with
        | some text => .error text
        | none => .ok chunks.flatten := by
  -- the room shrinks with each chunk
  induction chunks generalizing room with
  | nil => cases failure <;> rfl
  | cons c r ih =>
      rw [collectChunks, ih, List.flatten_cons, List.length_append]
      by_cases hc : room < c.length
      · have hsum : room < c.length + r.flatten.length := by omega
        rw [if_pos hc, if_pos hsum]
      · by_cases hr : room - c.length < r.flatten.length
        · have hsum : room < c.length + r.flatten.length := by omega
          rw [if_neg hc, if_pos hr, if_pos hsum]
          rfl
        · have hsum : ¬ room < c.length + r.flatten.length := by omega
          rw [if_neg hc, if_neg hr, if_neg hsum]
          cases failure <;> rfl

/-- **A body is its octets**, if there is room for them and the transport does not fail. -/
theorem collect_eq (body : Body) (limit : Nat) :
    body.collect limit =
      if limit < body.octets.length then .error overlong
      else match body.failure with
        | some text => .error text
        | none => .ok body.octets :=
  collectChunks_eq body.failure limit body.chunks

end Body

/-! ### Reading under a declared length -/

section

variable {headers : Headers} {limit : Option Nat} {body : Body}

/-- **The six endings of a body.** -/
theorem readBody_endings (headers : Headers) (limit : Option Nat) (body : Body) :
    readBody headers limit body =
      match headers.contentLength? with
      | none => .error .missingLength
      | some declared =>
          if limit.getD defaultLimit < declared then
            .error (.tooLarge declared (limit.getD defaultLimit))
          else if declared < body.octets.length then .error (.transport Body.overlong)
          else match body.failure with
            | some text => .error (.transport text)
            | none =>
                if body.octets.length < declared then
                  .error (.truncated declared body.octets.length)
                else .ok body.octets := by
  rw [readBody]
  cases headers.contentLength? with
  | none => rfl
  | some declared =>
      simp only [Body.collect_eq]
      by_cases hover : declared < body.octets.length
      · rw [if_pos hover, if_pos hover]
      · rw [if_neg hover, if_neg hover]
        cases body.failure with
        | some text => rfl
        | none =>
            by_cases hshort : body.octets.length < declared
            · simp only [if_neg (Nat.ne_of_lt hshort), if_pos hshort]
            · have heq : body.octets.length = declared := by omega
              simp only [if_pos heq, if_neg hshort]

/-- The five endings of a body that ends cleanly. -/
theorem readBody_eq (h : body.failure = none) :
    readBody headers limit body =
      match headers.contentLength? with
      | none => .error .missingLength
      | some declared =>
          if limit.getD defaultLimit < declared then
            .error (.tooLarge declared (limit.getD defaultLimit))
          else if declared < body.octets.length then .error (.transport Body.overlong)
          else if body.octets.length < declared then
            .error (.truncated declared body.octets.length)
          else .ok body.octets := by
  rw [readBody_endings, h]

/-- A body is read exactly if it has the length that was declared, within the limit. -/
theorem readBody_eq_ok_iff (h : body.failure = none) {b : Octets} :
    readBody headers limit body = .ok b ↔
      b = body.octets ∧ headers.contentLength? = some body.octets.length
        ∧ body.octets.length ≤ limit.getD defaultLimit := by
  rw [readBody_eq h]
  cases headers.contentLength? with
  | none => simp
  | some declared =>
      simp only [Option.some.injEq]
      by_cases hlarge : limit.getD defaultLimit < declared
      · simp only [if_pos hlarge, reduceCtorEq, false_iff, not_and]
        omega
      · by_cases hover : declared < body.octets.length
        · simp only [if_neg hlarge, if_pos hover, reduceCtorEq, false_iff, not_and]
          omega
        · by_cases hshort : body.octets.length < declared
          · simp only [if_neg hlarge, if_neg hover, if_pos hshort, reduceCtorEq, false_iff, not_and]
            omega
          · have heq : declared = body.octets.length := by omega
            subst heq
            simp only [if_neg hlarge, if_neg hover, Except.ok.injEq, Nat.not_lt.1 hlarge, and_true]
            exact eq_comm

/-- The only ending that is blamed on the transport is a body that goes on after the length that was
declared for it. -/
theorem readBody_eq_transport_iff (h : body.failure = none) {text : String} :
    readBody headers limit body = .error (.transport text) ↔
      text = Body.overlong ∧ ∃ declared, headers.contentLength? = some declared
        ∧ declared ≤ limit.getD defaultLimit ∧ declared < body.octets.length := by
  rw [readBody_eq h]
  cases headers.contentLength? with
  | none => simp
  | some declared =>
      simp only [Option.some.injEq, exists_eq_left']
      by_cases hlarge : limit.getD defaultLimit < declared
      · simp [hlarge, Nat.not_le.2 hlarge]
      · by_cases hover : declared < body.octets.length
        · simp [hlarge, hover, Nat.not_lt.1 hlarge, eq_comm]
        · by_cases hshort : body.octets.length < declared
          · simp [hlarge, hover, hshort]
          · simp [hlarge, hover, hshort]

end

/-- A length that is declared in digits is read as their number. -/
theorem Headers.contentLength?_of_digits {headers : Headers} {ds : List Char}
    (h : headers.get? "content-length" = some (Octets.ofText (String.ofList ds))) (hne : ds ≠ [])
    (hds : ds.all Char.isDigit = true) (hlt : Ascii.decimalValue ds < UInt64.size) :
    headers.contentLength? = some (Ascii.decimalValue ds) := by
  have hvisible : ds.all Ascii.isVisibleChar = true := by
    rw [List.all_eq_true] at hds ⊢
    exact fun c hc => Ascii.isVisibleChar_of_isDigit (hds c hc)
  have htext : headers.text? "content-length" = some ds := by
    rw [Headers.text?, h]
    exact Ascii.visible?_ofText hvisible
  rw [Headers.contentLength?, htext]
  exact Ascii.word64?_trim hne hds hlt

/-! ### Methods -/

/-- A message is no GET if it is a POST. -/
theorem Request.isGet_of_isPost {message : Request} (h : message.isPost = true) :
    message.isGet = false := by
  rw [Request.isPost, beq_iff_eq] at h
  rw [Request.isGet, h]
  decide

/-! ### Targets -/

namespace Target

/-- A path is a slash, or a part of the text in front of a query. -/
theorem path_of_pathAndQuery? {s : List Char} {t : Target} (h : pathAndQuery? s = some t) :
    t.path = "/" ∨ t.path.toList.Sublist s := by
  have hpath : t.path = if s.takeWhile isPathChar = [] then "/"
      else String.ofList (s.takeWhile isPathChar) := by
    simp only [pathAndQuery?] at h
    split at h
    · exact (Option.some.inj h) ▸ rfl
    · exact (Option.some.inj h) ▸ rfl
    · split at h
      · exact (Option.some.inj h) ▸ rfl
      · exact (Option.some.inj h) ▸ rfl
      · simp at h
    · simp at h
  by_cases hnil : s.takeWhile isPathChar = []
  · rw [if_pos hnil] at hpath
    exact Or.inl hpath
  · rw [if_neg hnil] at hpath
    right
    rw [hpath, String.toList_ofList]
    exact List.takeWhile_sublist _

/-- The path of a target with a scheme or an authority is a slash, or a part of the text. -/
theorem path_of_full? {s : List Char} {t : Target} (h : full? s = some t) :
    t.path = "/" ∨ t.path.toList.Sublist s := by
  simp only [full?] at h
  split at h
  · split at h
    · simp at h
    · rcases path_of_pathAndQuery? h with hslash | hpart
      · exact Or.inl hslash
      · exact Or.inr (hpart.trans ((List.dropWhile_sublist _).trans (List.drop_sublist _ _)))
  · split at h
    · obtain rfl := Option.some.inj h
      exact Or.inr (List.nil_sublist _)
    · simp at h

/-- A path is a slash, or a part of the text that writes the target. -/
theorem path_of_ofText? {text : String} {t : Target} (h : ofText? text = some t) :
    t.path = "/" ∨ t.path.toList.Sublist text.toList := by
  simp only [ofText?] at h
  split at h
  · simp at h
  · split at h
    · simp at h
    · next htext =>
        obtain rfl := Option.some.inj h
        rw [htext]
        exact Or.inr (List.Sublist.refl _)
    · exact path_of_pathAndQuery? h
    · exact path_of_full? h

/-- A target has a bounded path. -/
theorem length_path_le {text : String} {t : Target} (h : ofText? text = some t) :
    (Octets.ofText t.path).length ≤ maxLength := by
  have hfits : text.utf8ByteSize ≤ maxLength := by
    refine Nat.le_of_not_lt fun hlong => ?_
    rw [ofText?, if_pos hlong] at h
    simp at h
  rcases path_of_ofText? h with hslash | hpart
  · rw [hslash]
    decide
  · have hle : (Octets.ofText t.path).length ≤ (Octets.ofText text).length :=
      (hpart.flatMap _).length_le
    rw [Octets.length_ofText text] at hle
    exact Nat.le_trans hle hfits

end Target

end Http

end RevocationLab
