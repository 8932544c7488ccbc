/-
**What an authority says about a certificate.**

An authority knows the certificates that it issued and no others.  What it says about one of them is
settled by the last time that it revoked it, whatever else went on in the laboratory, and by whichever
identifier it is asked: under either algorithm, with any parameters, and before or after it went through
a request.

Main definitions:

* `Authority.IsNamedBy` — the identifiers that name an authority as the issuer;
* `Lab.InCalendar`, `Lab.NeverRepeats` — what is assumed of the clock and of the draws;
* `Lab.Told` — **what an authority says, by what was done**.

Main results:

* `Authority.status_eq_of_isNamedBy`, `Authority.status_eq_unknown` — the status by the ledger;
* `Lab.told_of_run` — **in every history, every authority says what was done**.
-/

import RevocationLab.Proofs.Lab.Ledger
import RevocationLab.Proofs.Ocsp.Request
import RevocationLab.Proofs.Rsa

set_option autoImplicit false

namespace RevocationLab

open Ocsp X509

/-! ### Naming an authority -/

namespace Authority

/-- An identifier names an authority as the issuer: by an algorithm that is known, and by the digests
of the name and of the key of the authority under it. -/
def IsNamedBy (a : Authority) (id : CertId) : Prop :=
  ∃ hash : Digest.Algorithm, id.hash.algorithm = hash.objectId
    ∧ id.nameHash = hash.digest a.subject.encode
    ∧ id.keyHash = hash.digest a.certificate.body.key.key.octets

theorem answersFor_iff {a : Authority} {id : CertId} : a.answersFor id = true ↔ a.IsNamedBy id := by
  unfold answersFor IsNamedBy
  constructor
  · intro h
    split at h
    · next hash hhash =>
        rw [beq_iff_eq, IssuerHashes.of, IssuerHashes.mk.injEq] at h
        exact ⟨hash, Digest.Algorithm.ofObjectId?_eq_some_iff.1 hhash, h.1.symm, h.2.symm⟩
    · cases h
  · rintro ⟨hash, hhash, hname, hkey⟩
    rw [Digest.Algorithm.ofObjectId?_eq_some_iff.2 hhash, hname, hkey]
    simp [IssuerHashes.of, subject]

/-- Under either algorithm an identifier of a certificate names the issuer that it was made for. -/
theorem isNamedBy_of (a : Authority) (certificate : Certificate) (hash : Digest.Algorithm) :
    a.IsNamedBy (CertId.of a.certificate certificate hash) := ⟨hash, rfl, rfl, rfl⟩

/-! ### The status by the ledger -/

theorem status_eq_unknown {a : Authority} {id : CertId} (h : ¬ a.IsNamedBy id) :
    a.status id = .unknown := by
  rw [← answersFor_iff] at h
  exact if_neg h

/-- The status of an identifier that names the authority is what the ledger holds. -/
theorem status_eq_of_isNamedBy {a : Authority} {id : CertId} (h : a.IsNamedBy id) :
    a.status id = ((Keyed.get? a.issued id.serial).map Standing.status).getD .unknown := by
  rw [← answersFor_iff] at h
  unfold status
  rw [if_pos h]
  cases Keyed.get? a.issued id.serial <;> rfl

/-- The status depends on the certificate and the ledger of an authority only. -/
theorem status_congr {a b : Authority} (hcertificate : b.certificate = a.certificate)
    (hissued : b.issued = a.issued) (id : CertId) : b.status id = a.status id := by
  unfold status answersFor
  rw [hcertificate, hissued]

/-- **The status does not depend on the parameters of the algorithm.** -/
theorem status_parameters (a : Authority) (id : CertId) (parameters : Option Der.Element) :
    a.status { id with hash := { id.hash with parameters } } = a.status id := rfl

/-- **The status is the same under both algorithms.** -/
theorem status_of (a : Authority) (certificate : Certificate) (hash hash' : Digest.Algorithm) :
    a.status (CertId.of a.certificate certificate hash)
      = a.status (CertId.of a.certificate certificate hash') := by
  rw [status_eq_of_isNamedBy (a.isNamedBy_of certificate hash),
    status_eq_of_isNamedBy (a.isNamedBy_of certificate hash')]
  rfl

/-- **The status is the same after a request was written and read.** -/
theorem status_asked (a : Authority) {ids : List CertId} {nonce : Option Octets} {b : Octets}
    {request : Request} (hb : Request.encode? ids nonce = some b)
    (hrequest : Request.decode? b = some request) :
    request.body.queries.map (fun q => a.status q.certId) = ids.map a.status := by
  rw [Request.decode?_encode? hb] at hrequest
  split at hrequest
  · cases hrequest
    simp [Request.build]
  · cases hrequest

end Authority

namespace Lab

/-! ### What is assumed -/

/-- The clock stays in the calendar. -/
def InCalendar (es : List Event) : Prop :=
  ∀ e ∈ es, ∃ time, Der.Time.ofInstant? e.now = some time

/-- No serial number is issued twice by one authority. -/
def NeverRepeats (es : List Event) : Prop :=
  ∀ place, (issuedAt place (History.run es).deeds).Nodup

/-! ### What an authority says -/

/-- **What the authority at a place says after some events, by what was done.** -/
structure Told (es : List Event) (place : Nat) (a : Authority) : Prop where
  /-- It knows nothing but what it issued, and only if it is named. -/
  unknown : ∀ id, ¬ (a.IsNamedBy id ∧ id.serial ∈ issuedAt place (History.run es).deeds) →
    a.status id = .unknown
  /-- What it never revoked is good. -/
  good : ∀ id, a.IsNamedBy id → id.serial ∈ issuedAt place (History.run es).deeds →
    revocations place id.serial (History.run es).deeds = [] → a.status id = .good
  /-- What it revoked has the whole second and the reason of the last time. -/
  revoked : ∀ id moment reason, a.IsNamedBy id →
    (revocations place id.serial (History.run es).deeds).getLast? = some (moment, reason) →
    ∃ time, moment.seconds? = some time.seconds ∧ a.status id = .revoked time reason
  /-- The parameters of the algorithm do not count. -/
  parameters : ∀ id parameters,
    a.status { id with hash := { id.hash with parameters } } = a.status id
  /-- A certificate has one status under both algorithms. -/
  algorithms : ∀ certificate, a.status (CertId.of a.certificate certificate .sha1)
    = a.status (CertId.of a.certificate certificate .sha256)
  /-- A request leaves the status as it is. -/
  asked : ∀ ids nonce b request, Request.encode? ids nonce = some b →
    Request.decode? b = some request →
    request.body.queries.map (fun q => a.status q.certId) = ids.map a.status
  /-- A request about certificates that it issued is read. -/
  read : ∀ ids nonce b, Request.encode? ids nonce = some b →
    (∀ id ∈ ids, ∃ certificate hash, id = CertId.of a.certificate certificate hash
      ∧ certificate.body.serial ∈ issuedAt place (History.run es).deeds) →
    ∃ request, Request.decode? b = some request
  /-- What happens elsewhere, and requests, change nothing. -/
  elsewhere : ∀ e : Event, ¬ e.writesAt place →
    ∃ a', (History.run (es ++ [e])).lab.authorities.get? place = some a'
      ∧ ∀ id, a'.status id = a.status id
  /-- What was revoked stays revoked. -/
  forGood : ∀ later id time reason, a.status id = .revoked time reason →
    InCalendar (es ++ later) → NeverRepeats (es ++ later) →
    ∃ a' time' reason', (History.run (es ++ later)).lab.authorities.get? place = some a'
      ∧ a'.status id = .revoked time' reason'

namespace History

/-- An authority stays where it is, and what was done stays done. -/
theorem exists_later (es later : List Event) {place : Nat} {a : Authority}
    (ha : (run es).lab.authorities.get? place = some a) :
    ∃ a' new, (run (es ++ later)).lab.authorities.get? place = some a'
      ∧ a'.certificate = a.certificate ∧ (run (es ++ later)).deeds = (run es).deeds ++ new := by
  induction later using List.reverseRecOn with
  | nil =>
      rw [List.append_nil]
      exact ⟨a, [], ha, rfl, by rw [List.append_nil]⟩
  | append_singleton later e ih =>
      obtain ⟨a', new, ha', hcertificate, hdeeds⟩ := ih
      have heffect := effect_perform (isSound_run (es ++ later)) e
      obtain ⟨b, hb, hsame, -⟩ := heffect.get?_of_get? ha'
      refine ⟨b, new ++ ((run (es ++ later)).lab.perform e).2, ?_, hsame.trans hcertificate, ?_⟩
      · rw [← List.append_assoc, run_append_singleton]
        exact hb
      · rw [← List.append_assoc, deeds_append_singleton, hdeeds, List.append_assoc]

/-- The status of an identifier that names the authority, by what was done. -/
theorem status_run {es : List Event} (hclock : InCalendar es) (hserials : NeverRepeats es)
    {place : Nat} {a : Authority} (ha : (run es).lab.authorities.get? place = some a) {id : CertId}
    (hid : a.IsNamedBy id) :
    a.status id = if id.serial ∈ issuedAt place (run es).deeds
      then (lastStanding (revocations place id.serial (run es).deeds)).status else .unknown := by
  rw [Authority.status_eq_of_isNamedBy hid,
    (ledgers_run hclock hserials).ledger place a ha id.serial]
  split_ifs <;> rfl

/-- A certificate that was revoked last at some moment is revoked as of then. -/
theorem status_of_revoked {es : List Event} (hclock : InCalendar es) (hserials : NeverRepeats es)
    {place : Nat} {a : Authority} (ha : (run es).lab.authorities.get? place = some a) {id : CertId}
    (hid : a.IsNamedBy id) {moment : Instant} {reason : Option Reason}
    (hlast : (revocations place id.serial (run es).deeds).getLast? = some (moment, reason)) :
    ∃ time, moment.seconds? = some time.seconds ∧ a.status id = .revoked time reason := by
  have hledgers := ledgers_run hclock hserials
  have hmem := List.mem_of_getLast? hlast
  -- what was revoked had been issued, at a moment that has a time in the calendar
  have hissued := hledgers.known place id.serial (List.ne_nil_of_mem hmem)
  obtain ⟨time, htime⟩ := hledgers.moments place id.serial _ hmem
  have hseconds : moment.seconds? = some time.seconds := by
    simp only [Der.Time.ofInstant?, Option.bind_eq_bind, Option.bind_eq_some_iff,
      Der.Time.ofSeconds?, Option.dite_none_right_eq_some, Option.some.injEq] at htime
    obtain ⟨n, hn, hle, rfl⟩ := htime
    exact hn
  refine ⟨time, hseconds, ?_⟩
  rw [status_run hclock hserials ha hid, if_pos hissued, lastStanding, hlast]
  simp only [Authority.Standing.status, htime]

end History

/-- **In every history, every authority says what was done**: while the clock stays in the calendar and
no authority draws a serial number twice. -/
theorem told_of_run {es : List Event} (hclock : InCalendar es) (hserials : NeverRepeats es)
    {place : Nat} {a : Authority}
    (ha : (History.run es).lab.authorities.get? place = some a) : Told es place a where
  unknown := by
    intro id hnot
    by_cases hid : a.IsNamedBy id
    · rw [History.status_run hclock hserials ha hid, if_neg fun hmem => hnot ⟨hid, hmem⟩]
    · exact Authority.status_eq_unknown hid
  good := by
    intro id hid hissued hnone
    rw [History.status_run hclock hserials ha hid, if_pos hissued, hnone]
    rfl
  revoked := fun _ _ _ hid hlast => History.status_of_revoked hclock hserials ha hid hlast
  parameters := a.status_parameters
  algorithms := fun certificate => a.status_of certificate _ _
  asked := fun _ _ _ _ hb hrequest => a.status_asked hb hrequest
  read := by
    intro ids nonce b hb hids
    have hledgers := History.ledgers_run hclock hserials
    have hall : ids.all CertId.isReadable = true := by
      rw [List.all_eq_true]
      intro id hid
      obtain ⟨certificate, hash, rfl, hissued⟩ := hids id hid
      rw [CertId.isReadable_of]
      exact hledgers.readable place _ hissued
    exact ⟨_, by rw [Request.decode?_encode? hb, if_pos hall]⟩
  elsewhere := by
    intro e hwrites
    obtain ⟨a', ha', hcertificate, hissued⟩ :=
      (effect_perform (History.isSound_run es) e).get?_of_get? ha
    refine ⟨a', ?_, Authority.status_congr hcertificate (hissued hwrites)⟩
    rw [History.run_append_singleton]
    exact ha'
  forGood := by
    intro later id time reason hrevoked hclock' hserials'
    have hid : a.IsNamedBy id := by
      by_contra hid
      rw [Authority.status_eq_unknown hid] at hrevoked
      cases hrevoked
    obtain ⟨a', new, ha', hcertificate, hdeeds⟩ := History.exists_later es later ha
    -- an identifier names an authority by its certificate, which stays
    have hid' : a'.IsNamedBy id := by
      unfold Authority.IsNamedBy Authority.subject
      rw [hcertificate]
      exact hid
    -- a revocation is among the deeds, since the status is neither good nor unknown
    have hne : revocations place id.serial (History.run es).deeds ≠ [] := by
      intro hnone
      rw [History.status_run hclock hserials ha hid, hnone] at hrevoked
      split at hrevoked <;> cases hrevoked
    have hlater : revocations place id.serial (History.run (es ++ later)).deeds ≠ [] := by
      rw [hdeeds, revocations_append]
      exact List.append_ne_nil_of_left_ne_nil hne _
    obtain ⟨time', -, hstatus⟩ := History.status_of_revoked hclock' hserials' ha' hid'
      (List.getLast?_eq_some_getLast hlater)
    exact ⟨a', time', _, ha', hstatus⟩

/-! ### A history -/

/-- Sixteen equal octets. -/
def sampleDraw (b : UInt8) : Draw := ⟨List.replicate 16 b, List.length_replicate⟩

/-- A root issues two certificates and revokes the first one, an intermediate authority is made under
it, and the second one is issued by that. -/
def sampleEvents : List Event := [
  ⟨.createRoot ⟨"http", some { host := "localhost" }, .segments [""], none, none⟩
    ⟨"Lab", .day, Rsa.sampleKey⟩ (sampleDraw 1) (sampleDraw 2), Instant.ofSeconds 0⟩,
  ⟨.issue 0 "Leaf" Rsa.sampleKey.publicKey.info (sampleDraw 3), Instant.ofSeconds 1⟩,
  ⟨.createIntermediate 0 ⟨"Sub", .day, Rsa.sampleKey⟩ (sampleDraw 5) (sampleDraw 6),
    Instant.ofSeconds 2⟩,
  ⟨.issue 1 "Leaf" Rsa.sampleKey.publicKey.info (sampleDraw 3), Instant.ofSeconds 3⟩,
  ⟨.revoke 0 (SerialNumber.ofDraw (sampleDraw 3).octets) (some .keyCompromise),
    Instant.ofSeconds 4⟩]

theorem deeds_sampleEvents : (History.run sampleEvents).deeds = [
    .issued 0 (SerialNumber.ofDraw (sampleDraw 3).octets),
    .issued 0 (SerialNumber.ofDraw (sampleDraw 5).octets),
    .issued 1 (SerialNumber.ofDraw (sampleDraw 3).octets),
    .revoked 0 (SerialNumber.ofDraw (sampleDraw 3).octets) (Instant.ofSeconds 4)
      (some .keyCompromise)] := by
  decide +kernel

theorem inCalendar_sampleEvents : InCalendar sampleEvents := by
  have hall : ∀ e ∈ sampleEvents, (Der.Time.ofInstant? e.now).isSome = true := by decide +kernel
  exact fun e he => Option.isSome_iff_exists.1 (hall e he)

theorem neverRepeats_sampleEvents : NeverRepeats sampleEvents := by
  intro place
  rw [deeds_sampleEvents]
  by_cases hroot : place = 0
  · subst hroot
    decide +kernel
  · by_cases hsub : place = 1
    · subst hsub
      decide +kernel
    · have hnone : ¬ 0 = place ∧ ¬ 1 = place := ⟨Ne.symm hroot, Ne.symm hsub⟩
      simp [issuedAt, hnone.1, hnone.2]

/-- What the root says after the events above. -/
theorem told_of_run_sampleEvents : ∃ a,
    (History.run sampleEvents).lab.authorities.get? 0 = some a ∧ Told sampleEvents 0 a := by
  have hroot : ((History.run sampleEvents).lab.authorities.get? 0).isSome = true := by
    decide +kernel
  obtain ⟨a, ha⟩ := Option.isSome_iff_exists.1 hroot
  exact ⟨a, ha, told_of_run inCalendar_sampleEvents neverRepeats_sampleEvents ha⟩

end Lab

end RevocationLab
