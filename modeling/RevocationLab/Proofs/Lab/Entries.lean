/-
**What a call writes.**

A call that is refused leaves every authority as it was, whatever it was refused for: also making an
intermediate authority, which writes the certificate down before it is done, since nothing is refused
any more after that.  A call that is done writes one entry into one ledger and leaves every other entry
of every authority alone; an authority that it adds has nothing issued.

Main definitions:

* `Authority.Registry.standing?` — what the ledger of an authority holds for a serial number;
* `Authority.Registry.WritesEntry` — **one entry is written** and nothing else;
* `Lab.IsAtomic` — refused without a trace, or done;
* `Lab.WritesOne` — what the calls do that write into ledgers.

Main results:

* `Authority.Registry.WritesEntry.record` — writing a standing writes one entry;
* `Lab.writesOne_of_run` — **every call in every history writes one entry or nothing**.
-/

import RevocationLab.Proofs.Authority.Link
import RevocationLab.Proofs.Lab.History

set_option autoImplicit false

namespace RevocationLab

open Authority X509

namespace Authority

namespace Registry

/-! ### Entries -/

/-- What the ledger of the authority at a place holds for a serial number. -/
def standing? (r : Registry) (place : Nat) (serial : SerialNumber) : Option Standing :=
  (r.get? place).bind fun a => Keyed.get? a.issued serial

theorem standing?_of_get? {r : Registry} {place : Nat} {a : Authority} (h : r.get? place = some a)
    (serial : SerialNumber) : r.standing? place serial = Keyed.get? a.issued serial := by
  rw [standing?, h]
  rfl

/-- An authority with nothing issued brings no entry. -/
theorem standing?_add (r : Registry) {a : Authority} (ha : a.issued = []) (place : Nat)
    (serial : SerialNumber) : (r.add a).standing? place serial = r.standing? place serial := by
  by_cases hplace : place = r.size
  · -- nobody stood at the new place before
    have hnone : r.get? place = none := by
      rw [hplace]
      exact List.getElem?_eq_none (Nat.le_refl _)
    rw [standing?, standing?, get?_add, if_pos hplace, hnone, Option.bind_some, ha]
    rfl
  · rw [standing?, standing?, get?_add, if_neg hplace]

/-- **One entry is written** into the ledger of the authority at a place, and every other entry of every
authority is as it was. -/
structure WritesEntry (r r' : Registry) (place : Nat) (serial : SerialNumber) (standing : Standing) :
    Prop where
  /-- There is such an authority. -/
  placed : place < r.size
  /-- Everybody is still there. -/
  everybody : r.Extends r'
  /-- The entry is written, and the others are as they were. -/
  entries : ∀ other s, r'.standing? other s =
    if other = place ∧ s = serial then some standing else r.standing? other s

namespace WritesEntry

variable {r r' : Registry} {place : Nat} {serial : SerialNumber} {standing : Standing}

/-- Writing a standing writes one entry. -/
theorem record (hplace : place < r.size) :
    r.WritesEntry (r.record place serial standing) place serial standing where
  placed := hplace
  everybody := .record r place serial standing
  entries := by
    intro other s
    rw [standing?, standing?, get?_record]
    cases hother : r.get? other with
    | none =>
        -- nobody stands there, so that it is another place
        have hne : ¬ (other = place ∧ s = serial) := by
          rintro ⟨rfl, -⟩
          exact Nat.not_lt.2 (List.getElem?_eq_none_iff.1 hother) hplace
        rw [if_neg hne]
        rfl
    | some a =>
        rw [Option.map_some, Option.bind_some, Option.bind_some]
        by_cases hsame : place = other
        · subst hsame
          rw [if_pos rfl, Authority.record, Keyed.get?_put]
          simp only [true_and, eq_comm]
        · have hne : ¬ (other = place ∧ s = serial) := fun h => hsame h.1.symm
          rw [if_neg hsame, if_neg hne]

/-- An authority with nothing issued may be added. -/
theorem add (h : r.WritesEntry r' place serial standing) {a : Authority} (ha : a.issued = []) :
    r.WritesEntry (r'.add a) place serial standing where
  placed := h.placed
  everybody := h.everybody.trans (.add r' a)
  entries := by
    intro other s
    rw [standing?_add r' ha, h.entries]

/-- A status that asks another authority, or for another serial number, is as it was. -/
theorem status_eq (h : r.WritesEntry r' place serial standing) {other : Nat} {a b : Authority}
    (ha : r.get? other = some a) (hb : r'.get? other = some b) {id : Ocsp.CertId}
    (hne : ¬ (other = place ∧ id.serial = serial)) : b.status id = a.status id := by
  obtain ⟨c, hc, hstays⟩ := h.everybody other a ha
  obtain rfl : c = b := Option.some.inj (hc.symm.trans hb)
  have hanswers : c.answersFor id = a.answersFor id := by
    rw [answersFor, answersFor, hstays.certificate]
  have hentry : Keyed.get? c.issued id.serial = Keyed.get? a.issued id.serial := by
    rw [← standing?_of_get? hb, ← standing?_of_get? ha, h.entries, if_neg hne]
  rw [status, status, hanswers, hentry]

end WritesEntry

end Registry

end Authority

namespace Lab

/-! ### Calls -/

/-- A call that is refused leaves the authorities as they were, with every ledger and every status; one
that is done leaves them as `done` says. -/
def IsAtomic {α : Type} (l : Lab) (call : Lab × Except Authority.Error α)
    (done : α → Registry → Prop) : Prop :=
  match call.2 with
  | .error _ => call.1.authorities = l.authorities
  | .ok value => done value call.1.authorities

/-- **What the calls do that write into ledgers**: a call is refused without a trace, or writes one
entry. -/
structure WritesOne (l : Lab) (now : Instant) : Prop where
  /-- Issuing writes down that the serial number of the new certificate is valid. -/
  issue : ∀ place commonName key (serial : Draw),
    l.IsAtomic (l.issue place commonName key serial.octets now) fun certificate r =>
      l.authorities.WritesEntry r place certificate.body.serial .valid
        ∧ r.size = l.authorities.size
  /-- Making an intermediate authority writes the same into the ledger of its issuer, and adds the
  authority with nothing issued. -/
  createIntermediate : ∀ parent plan (serial name : Draw),
    l.IsAtomic (l.createIntermediate parent plan ⟨serial.octets, name.octets⟩ now) fun child r =>
      ∃ a, r.get? child = some a ∧ a.issued = [] ∧ a.parent = some parent
        ∧ l.authorities.WritesEntry r parent a.certificate.body.serial .valid
        ∧ child = l.authorities.size ∧ r.size = l.authorities.size + 1
  /-- Revoking writes over the entry of a serial number that was issued. -/
  revoke : ∀ place serial reason,
    l.IsAtomic (l.revoke place serial reason now) fun _ r =>
      l.authorities.WritesEntry r place serial (.revoked now reason)
        ∧ (l.authorities.standing? place serial).isSome = true
        ∧ r.size = l.authorities.size

variable {l : Lab} (now : Instant)

theorem isAtomic_issue (place : Nat) (commonName : String) (key : PublicKeyInfo) (serial : Draw) :
    l.IsAtomic (l.issue place commonName key serial.octets now) fun certificate r =>
      l.authorities.WritesEntry r place certificate.body.serial .valid
        ∧ r.size = l.authorities.size := by
  obtain ⟨l', hcall, hlab⟩ := l.exists_issue place commonName key serial.octets now
  rw [IsAtomic, hcall]
  rcases l.authorities.issue_cases place commonName key serial.octets now with
    ⟨e, h⟩ | ⟨c, h, -, hplace⟩
  · simp only [h, hlab]
  · simp only [h, hlab]
    exact ⟨.record hplace, Registry.size_record _ _ _ _⟩

theorem isAtomic_createIntermediate (hl : l.authorities.IsSound) (parent : Nat) (plan : Plan)
    (serial name : Draw) :
    l.IsAtomic (l.createIntermediate parent plan ⟨serial.octets, name.octets⟩ now) fun child r =>
      ∃ a, r.get? child = some a ∧ a.issued = [] ∧ a.parent = some parent
        ∧ l.authorities.WritesEntry r parent a.certificate.body.serial .valid
        ∧ child = l.authorities.size ∧ r.size = l.authorities.size + 1 := by
  have hdraws : (⟨serial.octets, name.octets⟩ : Draws).serial.length = 16 := serial.length_eq
  obtain ⟨l', hcall, hlab⟩ :=
    l.exists_createIntermediate parent plan ⟨serial.octets, name.octets⟩ now
  rw [IsAtomic, hcall]
  rcases Registry.createIntermediate_cases hl parent plan hdraws now with
    ⟨e, h⟩ | ⟨a, h, hparent, -, hnew⟩
  · simp only [h, hlab]
  · obtain ⟨b, -, hb, hissuer, -, -⟩ := Registry.parent_createIntermediate (congrArg Prod.snd h)
    have hchild : ((l.authorities.record parent a.certificate.body.serial .valid).add a).get?
        l.authorities.size = some a := by
      rw [Registry.get?_add, Registry.size_record, if_pos rfl]
    obtain rfl : a = b := by
      rw [h, hchild] at hb
      exact Option.some.inj hb
    simp only [h, hlab]
    refine ⟨a, hchild, hnew, hissuer, (Registry.WritesEntry.record hparent).add hnew, trivial, ?_⟩
    rw [Registry.size_add, Registry.size_record]

theorem isAtomic_revoke (place : Nat) (serial : SerialNumber) (reason : Option Ocsp.Reason) :
    l.IsAtomic (l.revoke place serial reason now) fun _ r =>
      l.authorities.WritesEntry r place serial (.revoked now reason)
        ∧ (l.authorities.standing? place serial).isSome = true
        ∧ r.size = l.authorities.size := by
  obtain ⟨l', hcall, hlab⟩ := l.exists_revoke place serial reason now
  rw [IsAtomic, hcall]
  rcases l.authorities.revoke_cases place serial reason now with
    ⟨e, -, h⟩ | ⟨a, standing, ha, hissued, h⟩
  · simp only [h, hlab]
  · simp only [h, hlab]
    refine ⟨.record (Registry.lt_size_of_get? ha), ?_, Registry.size_record _ _ _ _⟩
    rw [Registry.standing?_of_get? ha, hissued]
    rfl

/-- **Every call in every history writes one entry or nothing**: after any events, issuing a
certificate, making an intermediate authority and revoking a certificate, with any arguments, are
refused without a trace or write exactly the entry that they are about. -/
theorem writesOne_of_run (es : List Event) (now : Instant) : (History.run es).lab.WritesOne now where
  issue := isAtomic_issue now
  createIntermediate := isAtomic_createIntermediate now (History.isSound_run es)
  revoke := isAtomic_revoke now

end Lab

end RevocationLab
