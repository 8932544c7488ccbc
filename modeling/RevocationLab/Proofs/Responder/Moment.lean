/-
**Reading statuses while certificates are revoked.**

The status for each question of a request is read by itself, one after another, and the clock is read
once after that; certificates may be revoked in between.  A status is the one of the moment at which it
was read, and the window of the response begins with the second of the clock.  So a certificate that
is reported as good had not been revoked when its status was read; whether it has been since, the
response cannot say, and if that took until a later second than the one of the revocation, the
certificate was revoked before the window began.

Main definitions:

* `Responder.Ocsp.Step`, `Responder.Ocsp.Answering` — **a request on its way, step by step**;
* `Responder.Ocsp.NeverBack` — the clock never goes back;
* `Responder.Ocsp.GoodWhenRead` — what a response that reports a certificate as good says about its
  revocations.

Main results:

* `Responder.Ocsp.Answering.parts?_of_alone` — without anything in between, the response is made of
  the same parts as that of one uninterrupted step;
* `Responder.Ocsp.Answering.wasRead_of_run` — every status was read at one point of the run;
* `Responder.Ocsp.good_of_run` — **a certificate that is reported as good was good when its status was
  read**, and what revoked it before the window began came between that and the clock;
* `Responder.Ocsp.good_lateSteps` — **a response that reports a revoked certificate as good**.
-/

import Mathlib.Data.List.Induction
import RevocationLab.Proofs.Lab.Status
import RevocationLab.Proofs.Ocsp.Signing
import RevocationLab.Responder.Ocsp

set_option autoImplicit false

namespace RevocationLab

open X509

namespace Responder

namespace Ocsp

open RevocationLab.Ocsp

/-! ### Steps -/

/-- What can happen while a request is answered. -/
inductive Step where
  /-- The authority at a place revokes a certificate: it reads the clock and writes, at once. -/
  | revoke (place : Nat) (serial : SerialNumber) (reason : Option Reason) (now : Instant)
  /-- The status for the next question is read. -/
  | read
  /-- The clock is read, once all statuses are. -/
  | stamp (now : Instant)
  deriving DecidableEq

namespace Step

/-- The clock as a step reads it. -/
def time? : Step → Option Instant
  | revoke _ _ _ now => some now
  | read => none
  | stamp now => some now

/-- Whether a step revokes a serial number at a place. -/
def Revokes (place : Nat) (serial : SerialNumber) : Step → Prop
  | revoke other s _ _ => other = place ∧ s = serial
  | read | stamp _ => False

/-- Whether it does so before a second. -/
def RevokesBefore (place : Nat) (serial : SerialNumber) (second : Nat) : Step → Prop
  | revoke other s _ now => other = place ∧ s = serial ∧ now.wholeSecond < second
  | read | stamp _ => False

/-- Whether a step reads a status. -/
def isRead : Step → Bool
  | read => true
  | revoke _ _ _ _ | stamp _ => false

end Step

/-- The clock never goes back from one step to a later one. -/
def NeverBack (steps : List Step) : Prop :=
  steps.Pairwise fun s t => ∀ a ∈ s.time?, ∀ b ∈ t.time?, a.nanoseconds ≤ b.nanoseconds

/-- A request on its way: the authorities, the questions that are left, the statuses that were read,
and the time once it was read. -/
structure Answering where
  authorities : Authority.Registry
  questions : List CertId
  statuses : List (CertId × Status) := []
  stamp : Option Instant := none

namespace Answering

/-- A request of which nothing is answered yet. -/
def start (r : Authority.Registry) (questions : List CertId) : Answering :=
  { authorities := r, questions }

/-- The next step for a request to the authority at a place, if it can happen. -/
def step? (place : Nat) (s : Answering) : Step → Option Answering
  | .revoke other serial reason now =>
      some { s with authorities := (s.authorities.revoke other serial reason now).1 }
  | .read =>
      match s.questions, s.authorities.get? place with
      | certId :: rest, some a =>
          some { s with questions := rest, statuses := s.statuses ++ [(certId, a.status certId)] }
      | _, _ => none
  | .stamp now =>
      if s.questions = [] ∧ s.stamp = none then some { s with stamp := some now } else none

/-- Some steps, if each of them can happen. -/
def run? (place : Nat) (s : Answering) (steps : List Step) : Option Answering :=
  steps.foldlM (step? place) s

/-- What goes into the response, once the clock was read. -/
def parts? (place : Nat) (nonce : Option Extension) (s : Answering) : Option ResponseParts :=
  match s.authorities.get? place, s.stamp with
  | some a, some now =>
      some
        { signer := a.certificate
          key := a.key
          chain := s.authorities.chain place
          statuses := s.statuses
          nonce := nonce
          now := now }
  | _, _ => none

variable {place : Nat} {s t : Answering}

theorem run?_append (steps more : List Step) :
    s.run? place (steps ++ more) = (s.run? place steps).bind fun t => t.run? place more := by
  simp [run?, List.foldlM_append]

theorem run?_cons (step : Step) (steps : List Step) :
    s.run? place (step :: steps) = (s.step? place step).bind fun t => t.run? place steps := by
  simp [run?]

theorem run?_singleton (step : Step) : s.run? place [step] = s.step? place step := by
  simp [run?]

theorem step?_read : s.step? place .read = some t ↔ ∃ certId rest a,
    s.questions = certId :: rest ∧ s.authorities.get? place = some a
      ∧ t = { s with questions := rest, statuses := s.statuses ++ [(certId, a.status certId)] } := by
  unfold step?
  rcases hquestions : s.questions with - | ⟨certId, rest⟩ <;>
    rcases ha : s.authorities.get? place with - | a <;> simp [eq_comm]

theorem step?_stamp {now : Instant} : s.step? place (.stamp now) = some t ↔
    s.questions = [] ∧ s.stamp = none ∧ t = { s with stamp := some now } := by
  by_cases h : s.questions = [] ∧ s.stamp = none
  · simp [step?, h, eq_comm]
  · simp only [step?, h, if_false, reduceCtorEq, false_iff]
    rintro ⟨hquestions, hstamp, -⟩
    exact h ⟨hquestions, hstamp⟩

/-! ### Alone -/

/-- The statuses of some questions, read with nothing in between. -/
theorem run?_reads {a : Authority} (ha : s.authorities.get? place = some a) :
    s.run? place (List.replicate s.questions.length .read) = some { s with
      questions := []
      statuses := s.statuses ++ s.questions.map fun certId => (certId, a.status certId) } := by
  obtain ⟨authorities, questions, statuses, stamp⟩ := s
  induction questions generalizing statuses with
  | nil => simp [run?]
  | cons certId rest ih =>
      have hstep : step? place ⟨authorities, certId :: rest, statuses, stamp⟩ .read
          = some ⟨authorities, rest, statuses ++ [(certId, a.status certId)], stamp⟩ :=
        step?_read.2 ⟨certId, rest, a, rfl, ha, rfl⟩
      rw [List.length_cons, List.replicate_succ, run?_cons, hstep, Option.bind_some, ih _ ha]
      simp

/-- **Without anything in between**, the response has the same parts as that of one step. -/
theorem parts?_of_alone {r : Authority.Registry} {a : Authority} (ha : r.get? place = some a)
    (request : RevocationLab.Ocsp.Request) (now : Instant) :
    ((start r (request.body.queries.map Query.certId)).run? place
        (List.replicate request.body.queries.length .read ++ [.stamp now])).bind
          (parts? place (findNonce? request.body.extensions))
      = some (parts a (r.chain place) now request) := by
  have hreads := run?_reads (s := start r (request.body.queries.map Query.certId)) ha
  simp only [start, List.length_map] at hreads
  rw [start, run?_append, hreads, Option.bind_some, run?_singleton, step?_stamp.2 ⟨rfl, rfl, rfl⟩]
  simp [parts?, ha, parts]

/-! ### Where each status was read -/

/-- What holds at the start and is kept by every step holds after every run. -/
theorem run?_induction {P : List Step → Answering → Prop} {init : Answering} (hinit : P [] init)
    (hstep : ∀ steps t u step, init.run? place steps = some t → P steps t →
      t.step? place step = some u → P (steps ++ [step]) u)
    {steps : List Step} (h : init.run? place steps = some s) : P steps s := by
  induction steps using List.reverseRecOn generalizing s with
  | nil =>
      obtain rfl : init = s := by simpa [run?] using h
      exact hinit
  | append_singleton steps step ih =>
      rw [run?_append, Option.bind_eq_some_iff] at h
      obtain ⟨t, ht, hlast⟩ := h
      rw [run?_singleton] at hlast
      exact hstep steps t s step ht (ih ht) hlast

variable {r : Authority.Registry} {certIds : List CertId} {steps : List Step}

/-- The statuses are those of the questions that are no longer left, one for each that was read. -/
theorem asked_of_run (h : (start r certIds).run? place steps = some s) :
    s.statuses.map Prod.fst ++ s.questions = certIds
      ∧ s.statuses.length = steps.countP Step.isRead := by
  refine run?_induction (P := fun steps s => s.statuses.map Prod.fst ++ s.questions = certIds
    ∧ s.statuses.length = steps.countP Step.isRead) ⟨rfl, rfl⟩ ?_ h
  intro steps t u step _ ih hstep
  cases step with
  | revoke other serial reason now =>
      cases hstep
      simpa [List.countP_append, Step.isRead] using ih
  | read =>
      obtain ⟨certId, rest, a, hquestions, -, rfl⟩ := step?_read.1 hstep
      rw [hquestions] at ih
      simpa [List.countP_append, Step.isRead] using ih
  | stamp now =>
      obtain ⟨-, -, rfl⟩ := step?_stamp.1 hstep
      simpa [List.countP_append, Step.isRead] using ih

/-- The status at a place in the response was read after those before it, from the authority as it
was then. -/
def WasRead (place : Nat) (init : Answering) (steps : List Step) (i : Nat) (e : CertId × Status) :
    Prop :=
  ∃ before between t a, steps = before ++ .read :: between ∧ before.countP Step.isRead = i
    ∧ init.run? place before = some t ∧ t.authorities.get? place = some a ∧ e.2 = a.status e.1

theorem WasRead.append {init : Answering} {i : Nat} {e : CertId × Status}
    (h : WasRead place init steps i e) (more : List Step) :
    WasRead place init (steps ++ more) i e := by
  obtain ⟨before, between, t, a, rfl, hrest⟩ := h
  exact ⟨before, between ++ more, t, a, by simp, hrest⟩

/-- **Every status was read at one point of the run.** -/
theorem wasRead_of_run (h : (start r certIds).run? place steps = some s) {i : Nat}
    {e : CertId × Status} (he : s.statuses[i]? = some e) :
    WasRead place (start r certIds) steps i e := by
  refine run?_induction (P := fun steps s => ∀ e, s.statuses[i]? = some e →
    WasRead place (start r certIds) steps i e) (by simp [start]) ?_ h e he
  intro steps t u step ht ih hstep e he
  cases step with
  | revoke other serial reason now =>
      cases hstep
      exact (ih e he).append _
  | stamp now =>
      obtain ⟨-, -, rfl⟩ := step?_stamp.1 hstep
      exact (ih e he).append _
  | read =>
      obtain ⟨certId, rest, a, -, ha, rfl⟩ := step?_read.1 hstep
      rw [List.getElem?_append] at he
      split at he
      · exact (ih e he).append _
      · next hlen =>
          obtain ⟨hi, rfl⟩ : i - t.statuses.length = 0 ∧ (certId, a.status certId) = e := by
            simpa [List.getElem?_singleton] using he
          have hlast : steps.countP Step.isRead = i := by
            rw [← (asked_of_run ht).2]
            omega
          exact ⟨steps, [], t, a, rfl, hlast, ht, ha, rfl⟩

/-- The clock was read at one point of the run, after all statuses. -/
theorem exists_stamp (h : (start r certIds).run? place steps = some s)
    {now : Instant} (hnow : s.stamp = some now) :
    s.questions = [] ∧ ∃ before after t, steps = before ++ .stamp now :: after
      ∧ (start r certIds).run? place before = some t
      ∧ t.statuses = s.statuses := by
  refine run?_induction (P := fun steps s => s.stamp = some now →
    s.questions = [] ∧ ∃ before after t, steps = before ++ .stamp now :: after
      ∧ (start r certIds).run? place before = some t
      ∧ t.statuses = s.statuses) (by simp [start]) ?_ h hnow
  intro steps t u step ht ih hstep hnow
  cases step with
  | revoke other serial reason time =>
      cases hstep
      obtain ⟨hquestions, before, after, q, hsteps, hq, hstatuses⟩ := ih hnow
      exact ⟨hquestions, before, after ++ [.revoke other serial reason time], q, by simp [hsteps], hq,
        hstatuses⟩
  | read =>
      -- nothing is left to be read once the clock was
      obtain ⟨certId, rest, a, hquestions, -, rfl⟩ := step?_read.1 hstep
      obtain ⟨hnone, -⟩ := ih hnow
      rw [hquestions] at hnone
      cases hnone
  | stamp time =>
      obtain ⟨hquestions, hstamp, rfl⟩ := step?_stamp.1 hstep
      cases hnow
      exact ⟨hquestions, steps, [], t, rfl, ht, rfl⟩

end Answering

/-! ### What was not revoked -/

/-- A certificate that is valid after a revocation was valid before, and is another one. -/
theorem valid_of_revoke {r : Authority.Registry} {other place : Nat} {s serial : SerialNumber}
    {reason : Option Reason} {now : Instant} {a : Authority}
    (ha : (r.revoke other s reason now).1.get? place = some a)
    (hvalid : Keyed.get? a.issued serial = some .valid) :
    (∃ b, r.get? place = some b ∧ Keyed.get? b.issued serial = some .valid)
      ∧ ¬ (other = place ∧ s = serial) := by
  rcases r.revoke_cases other s reason now with ⟨e, hnone, h⟩ | ⟨b, standing, -, -, h⟩
  · rw [h] at ha
    refine ⟨⟨a, ha, hvalid⟩, ?_⟩
    rintro ⟨rfl, rfl⟩
    rw [hnone a ha] at hvalid
    cases hvalid
  · rw [h, Authority.Registry.get?_record, Option.map_eq_some_iff] at ha
    obtain ⟨c, hc, rfl⟩ := ha
    by_cases hother : other = place
    · rw [if_pos hother, Authority.record, Keyed.get?_put] at hvalid
      split at hvalid
      · cases hvalid
      · next hs => exact ⟨⟨c, hc, hvalid⟩, fun hboth => hs hboth.2⟩
    · rw [if_neg hother] at hvalid
      exact ⟨⟨c, hc, hvalid⟩, fun hboth => hother hboth.1⟩

theorem valid_of_status_good {a : Authority} {certId : CertId} (h : a.status certId = .good) :
    Keyed.get? a.issued certId.serial = some .valid := by
  have hnamed : a.IsNamedBy certId := by
    by_contra hnamed
    rw [Authority.status_eq_unknown hnamed] at h
    cases h
  rw [Authority.status_eq_of_isNamedBy hnamed] at h
  rcases hstanding : Keyed.get? a.issued certId.serial with - | standing
  · rw [hstanding] at h
    cases h
  · rw [hstanding] at h
    cases standing with
    | valid => rfl
    | revoked moment reason =>
        simp only [Option.map_some, Option.getD_some, Authority.Standing.status] at h
        split at h <;> cases h

/-- A certificate that is valid after some steps was valid before them, and none of them revoked
it. -/
theorem valid_of_run {r : Authority.Registry} {certIds : List CertId} {place : Nat}
    {steps : List Step} {s : Answering} {a : Authority} {serial : SerialNumber}
    (h : (Answering.start r certIds).run? place steps = some s)
    (ha : s.authorities.get? place = some a) (hvalid : Keyed.get? a.issued serial = some .valid) :
    (∃ b, r.get? place = some b ∧ Keyed.get? b.issued serial = some .valid)
      ∧ ∀ step ∈ steps, ¬ step.Revokes place serial := by
  refine Answering.run?_induction (P := fun steps s => ∀ a, s.authorities.get? place = some a →
    Keyed.get? a.issued serial = some .valid →
      (∃ b, r.get? place = some b ∧ Keyed.get? b.issued serial = some .valid)
        ∧ ∀ step ∈ steps, ¬ step.Revokes place serial) ?_ ?_ h a ha hvalid
  · intro a ha hvalid
    exact ⟨⟨a, ha, hvalid⟩, by simp⟩
  · intro steps t u step _ ih hstep a ha hvalid
    cases step with
    | revoke other s reason now =>
        cases hstep
        obtain ⟨⟨b, hb, hbvalid⟩, hother⟩ := valid_of_revoke ha hvalid
        obtain ⟨hstart, hnone⟩ := ih b hb hbvalid
        exact ⟨hstart, List.forall_mem_append.2 ⟨hnone, List.forall_mem_singleton.2 hother⟩⟩
    | read =>
        obtain ⟨certId, rest, b, -, -, rfl⟩ := Answering.step?_read.1 hstep
        obtain ⟨hstart, hnone⟩ := ih a ha hvalid
        exact ⟨hstart, List.forall_mem_append.2 ⟨hnone, List.forall_mem_singleton.2 not_false⟩⟩
    | stamp now =>
        obtain ⟨-, -, rfl⟩ := Answering.step?_stamp.1 hstep
        obtain ⟨hstart, hnone⟩ := ih a ha hvalid
        exact ⟨hstart, List.forall_mem_append.2 ⟨hnone, List.forall_mem_singleton.2 not_false⟩⟩

/-! ### What a response says -/

/-- What a response that reports a certificate as good says about its revocations, for the answer at a
place in it: the status was read after the steps `before`, and the clock read `now` after the steps
`between`. -/
structure GoodWhenRead (r : Authority.Registry) (place : Nat) (before between after : List Step)
    (now : Instant) (single : SingleResponse) : Prop where
  /-- The window begins with the second of the clock. -/
  second : (single.thisUpdate.seconds : Int) = now.wholeSecond
  /-- The certificate was issued and not revoked when all this began, -/
  valid : ∃ a, r.get? place = some a ∧ Keyed.get? a.issued single.certId.serial = some .valid
  /-- and nobody revoked it until its status was read. -/
  untouched : ∀ step ∈ before, ¬ step.Revokes place single.certId.serial
  /-- Whoever revoked it after the clock was read did so in that second or later. -/
  later : ∀ step ∈ after,
    ¬ step.RevokesBefore place single.certId.serial single.thisUpdate.seconds
  /-- **So what revoked it before the window began came in between.** -/
  meanwhile : ∀ step ∈ before ++ .read :: (between ++ .stamp now :: after),
    step.RevokesBefore place single.certId.serial single.thisUpdate.seconds → step ∈ between

theorem Step.Revokes.of_before {place : Nat} {serial : SerialNumber} {second : Nat} {step : Step}
    (h : step.RevokesBefore place serial second) : step.Revokes place serial := by
  cases step with
  | revoke other s reason now => exact ⟨h.1, h.2.1⟩
  | read => exact h
  | stamp now => exact h

/-- What comes after the clock was read is not before that second. -/
theorem not_revokesBefore_of_neverBack {between after : List Step} {now : Instant}
    (hclock : NeverBack (between ++ .stamp now :: after)) {second : Nat}
    (hsecond : (second : Int) = now.wholeSecond) (place : Nat) (serial : SerialNumber) :
    ∀ step ∈ after, ¬ step.RevokesBefore place serial second := by
  intro step hmem hbefore
  have hstamp := (List.pairwise_cons.1 (List.pairwise_append.1 hclock).2.1).1 step hmem now rfl
  cases step with
  | revoke other s reason time =>
      have hle := Instant.wholeSecond_mono (hstamp time rfl)
      have hlt := hbefore.2.2
      omega
  | read => exact hbefore
  | stamp time => exact hbefore

/-- **A certificate that is reported as good was good when its status was read**, and what revoked it
before the window began came between that and the clock. -/
theorem good_of_run {r : Authority.Registry} {certIds : List CertId} {place : Nat}
    {steps : List Step} (hclock : NeverBack steps) {s : Answering}
    (hrun : (Answering.start r certIds).run? place steps = some s) {nonce : Option Extension}
    {parts : ResponseParts} (hparts : s.parts? place nonce = some parts) {basic : BasicResponse}
    (hbasic : parts.basic = .ok basic) :
    basic.data.responses.map SingleResponse.certId = certIds
      ∧ ∀ i single, basic.data.responses[i]? = some single → single.status = .good →
        ∃ before between after now,
          steps = before ++ .read :: (between ++ .stamp now :: after)
            ∧ before.countP Step.isRead = i
            ∧ GoodWhenRead r place before between after now single := by
  obtain ⟨data, signature, hdata, -, -, rfl⟩ := ResponseParts.basic_eq_ok_iff.1 hbasic
  obtain ⟨thisUpdate, nextUpdate, hthis, rfl⟩ := ResponseParts.exists_answered_of_data hdata
  -- the parts are there once the clock was read, and then no question is left
  obtain ⟨now, hnow, hstatuses, hstamp⟩ : ∃ now, s.stamp = some now
      ∧ parts.statuses = s.statuses ∧ parts.now = now := by
    unfold Answering.parts? at hparts
    split at hparts
    · next a now _ hnow =>
        cases hparts
        exact ⟨now, hnow, rfl, rfl⟩
    · cases hparts
  rw [hstamp] at hthis
  obtain ⟨hquestions, upto, after, t, rfl, hupto, hread⟩ := Answering.exists_stamp hrun hnow
  change (parts.statuses.map (SingleResponse.of thisUpdate nextUpdate)).map SingleResponse.certId
      = certIds ∧ ∀ i single,
    (parts.statuses.map (SingleResponse.of thisUpdate nextUpdate))[i]? = some single → _
  rw [hstatuses]
  constructor
  · have hasked := (Answering.asked_of_run hrun).1
    rw [hquestions, List.append_nil] at hasked
    rw [← hasked, List.map_map]
    rfl
  · intro i single hsingle hgood
    rw [List.getElem?_map, Option.map_eq_some_iff] at hsingle
    obtain ⟨e, he, rfl⟩ := hsingle
    rw [← hread] at he
    obtain ⟨before, between, q, a, rfl, hcount, hq, ha, hstatus⟩ :=
      Answering.wasRead_of_run hupto he
    have hvalid := valid_of_status_good (hstatus.symm.trans hgood)
    obtain ⟨hstart, huntouched⟩ := valid_of_run hq ha hvalid
    have hsecond := Der.Time.ofInstant?_eq_some_iff.1 hthis
    have hlater := not_revokesBefore_of_neverBack hclock hsecond place e.1.serial
    refine ⟨before, between, after, now, by simp, hcount, hsecond, hstart, huntouched, hlater, ?_⟩
    intro step hmem hbefore
    simp only [List.mem_append, List.mem_cons] at hmem
    rcases hmem with hmem | rfl | hmem | rfl | hmem
    · exact absurd (Step.Revokes.of_before hbefore) (huntouched step hmem)
    · exact absurd hbefore not_false
    · exact hmem
    · exact absurd hbefore not_false
    · exact absurd hbefore (hlater step hmem)

/-! ### A revocation between the status and the clock -/

/-- One question, with a revocation between its status and the clock. -/
theorem Answering.run?_revokedBetween {r : Authority.Registry} {place : Nat} {a : Authority}
    {certId : CertId} {status : Status} (ha : r.get? place = some a)
    (hstatus : a.status certId = status) (other : Nat) (serial : SerialNumber)
    (reason : Option Reason) (revoked now : Instant) :
    (start r [certId]).run? place [.read, .revoke other serial reason revoked, .stamp now] = some
      { authorities := (r.revoke other serial reason revoked).1
        questions := []
        statuses := [(certId, status)]
        stamp := some now } := by
  have hread : (start r [certId]).step? place .read
      = some ⟨r, [], [(certId, a.status certId)], none⟩ :=
    step?_read.2 ⟨certId, [], a, rfl, ha, rfl⟩
  rw [run?_cons, hread, hstatus]
  rfl

/-- The number of a certificate that a root has issued. -/
def lateSerial : SerialNumber := SerialNumber.ofDraw (Lab.sampleDraw 3).octets

/-- The root, and nobody else. -/
def lateRegistry : Authority.Registry := (Lab.History.run (Lab.sampleEvents.take 2)).lab.authorities

/-- The question about the certificate, to an authority that has issued it. -/
def lateQuestion (a : Authority) : CertId :=
  { CertId.of a.certificate a.certificate .sha256 with serial := lateSerial }

/-- The status is read, the certificate is revoked in the tenth second, and the clock is read in the
eleventh. -/
def lateSteps : List Step :=
  [.read, .revoke 0 lateSerial none (Instant.ofSeconds 10), .stamp (Instant.ofSeconds 11)]

theorem neverBack_lateSteps : NeverBack lateSteps := by
  simp [NeverBack, lateSteps, Step.time?, Instant.ofSeconds, Instant.second]

/-- What goes into the response, of the root before and after the revocation. -/
def lateParts (a b : Authority) : ResponseParts :=
  { signer := b.certificate
    key := b.key
    chain := (lateRegistry.revoke 0 lateSerial none (Instant.ofSeconds 10)).1.chain 0
    statuses := [(lateQuestion a, .good)]
    nonce := none
    now := Instant.ofSeconds 11 }

/-- What comes of these steps. -/
theorem exists_basic_lateSteps : ∃ a s parts basic single,
    lateRegistry.get? 0 = some a
      ∧ (Answering.start lateRegistry [lateQuestion a]).run? 0 lateSteps = some s
      ∧ s.parts? 0 none = some parts ∧ parts.basic = .ok basic
      ∧ basic.data.responses = [single] ∧ single.certId = lateQuestion a ∧ single.status = .good
      ∧ single.thisUpdate.seconds = 11 := by
  have hroot : (lateRegistry.get? 0).isSome = true := by decide +kernel
  obtain ⟨a, ha⟩ := Option.isSome_iff_exists.1 hroot
  have hrevoked : ((lateRegistry.revoke 0 lateSerial none (Instant.ofSeconds 10)).1.get? 0).isSome
      = true := by
    decide +kernel
  obtain ⟨b, hb⟩ := Option.isSome_iff_exists.1 hrevoked
  -- the certificate is good when its status is read
  have hissued : ∀ a ∈ lateRegistry.get? 0, Keyed.get? a.issued lateSerial = some .valid := by
    decide +kernel
  have hgood : a.status (lateQuestion a) = .good := by
    rw [Authority.status_eq_of_isNamedBy ⟨.sha256, rfl, rfl, rfl⟩]
    have hserial : (lateQuestion a).serial = lateSerial := rfl
    rw [hserial, hissued a ha]
    rfl
  have hrun := Answering.run?_revokedBetween ha hgood 0 lateSerial none (Instant.ofSeconds 10)
    (Instant.ofSeconds 11)
  -- the response is signed
  have hkey : ∀ b ∈ (lateRegistry.revoke 0 lateSerial none (Instant.ofSeconds 10)).1.get? 0,
      b.key.canSign = true := by
    decide +kernel
  have hlen : ∀ a ∈ lateRegistry.get? 0,
      ∀ b ∈ (lateRegistry.revoke 0 lateSerial none (Instant.ofSeconds 10)).1.get? 0,
      ((lateParts a b).answered ⟨11, by decide⟩ ⟨12, by decide⟩).encode.length ≤ Der.maxLength := by
    decide +kernel
  have hdata : (lateParts a b).data
      = .ok ((lateParts a b).answered ⟨11, by decide⟩ ⟨12, by decide⟩) :=
    ResponseParts.data_eq (Instant.seconds?_ofSeconds 11) (by decide)
  obtain ⟨signature, hsignature⟩ := Rsa.KeyPair.exists_sign? (hkey b hb)
    ((lateParts a b).answered ⟨11, by decide⟩ ⟨12, by decide⟩).encode
  refine ⟨a, _, lateParts a b, _, _, ha, hrun, ?_,
    ResponseParts.basic_eq_ok_iff.2 ⟨_, signature, hdata, hlen a ha b hb, hsignature, rfl⟩, rfl, rfl,
    rfl, rfl⟩
  simp [Answering.parts?, hb, lateParts]

/-- **A response that reports a revoked certificate as good**: it was revoked a second before the
window of the response begins. -/
theorem good_lateSteps : NeverBack lateSteps ∧ ∃ a s parts basic single,
    lateRegistry.get? 0 = some a
      ∧ (Answering.start lateRegistry [lateQuestion a]).run? 0 lateSteps = some s
      ∧ s.parts? 0 none = some parts ∧ parts.basic = .ok basic
      ∧ single ∈ basic.data.responses ∧ single.status = .good
      ∧ ∃ step ∈ lateSteps,
        step.RevokesBefore 0 single.certId.serial single.thisUpdate.seconds := by
  obtain ⟨a, s, parts, basic, single, ha, hrun, hparts, hbasic, hresponses, hcertId, hgood, hsecond⟩ :=
    exists_basic_lateSteps
  refine ⟨neverBack_lateSteps, a, s, parts, basic, single, ha, hrun, hparts, hbasic,
    by rw [hresponses]; exact List.mem_cons_self, hgood,
    .revoke 0 lateSerial none (Instant.ofSeconds 10), by simp [lateSteps], rfl, ?_, ?_⟩
  · rw [hcertId]
    rfl
  · rw [hsecond]
    decide

/-- The revocation of that certificate came between its status and the clock. -/
theorem goodWhenRead_lateSteps : ∃ a s parts basic single before between after now,
    lateRegistry.get? 0 = some a
      ∧ (Answering.start lateRegistry [lateQuestion a]).run? 0 lateSteps = some s
      ∧ s.parts? 0 none = some parts ∧ parts.basic = .ok basic
      ∧ basic.data.responses[0]? = some single ∧ single.status = .good
      ∧ lateSteps = before ++ .read :: (between ++ .stamp now :: after)
      ∧ GoodWhenRead lateRegistry 0 before between after now single := by
  obtain ⟨a, s, parts, basic, single, ha, hrun, hparts, hbasic, hresponses, -, hgood, -⟩ :=
    exists_basic_lateSteps
  have hsingle : basic.data.responses[0]? = some single := by rw [hresponses]; rfl
  obtain ⟨before, between, after, now, hsteps, -, hread⟩ :=
    (good_of_run neverBack_lateSteps hrun hparts hbasic).2 0 single hsingle hgood
  exact ⟨a, s, parts, basic, single, before, between, after, now, ha, hrun, hparts, hbasic, hsingle,
    hgood, hsteps, hread⟩

end Ocsp

end Responder

end RevocationLab
