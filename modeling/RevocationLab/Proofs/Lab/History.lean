/-
**Histories of a laboratory.**

A history runs events one after another from an empty laboratory and keeps what came of them: which
certificates were issued where, and which were revoked, when and why.  It reads this off the answers of
the operations.  An event does one of five things to the authorities, and says so; requests do nothing.

Main definitions:

* `Lab.Action`, `Lab.Event` — what may happen, and when;
* `Lab.Deed` — a certificate was issued, or revoked;
* `Lab.perform`, `Lab.History.run` — one event, and a list of them;
* `Lab.Effect` — **what an event can do to the authorities**.

Main results:

* `Lab.effect_perform` — every event has one of the effects;
* `Lab.Effect.get?_of_get?` — an authority stays where it is with its certificate, and its ledger stays
  as it is unless the event writes there;
* `Lab.History.isSound_run` — every authority of a history is sound.
-/

import RevocationLab.Lab
import RevocationLab.Proofs.Authority.Registry

set_option autoImplicit false

namespace RevocationLab

open Authority X509

namespace Lab

/-! ### Events -/

/-- Sixteen octets that are drawn. -/
structure Draw where
  octets : Octets
  length_eq : octets.length = 16
  deriving DecidableEq

/-- What may happen in a laboratory. -/
inductive Action where
  | createRoot (base : Url) (plan : Plan) (serial name : Draw)
  | createIntermediate (parent : Nat) (plan : Plan) (serial name : Draw)
  | issue (place : Nat) (commonName : String) (key : PublicKeyInfo) (serial : Draw)
  | revoke (place : Nat) (serial : SerialNumber) (reason : Option Ocsp.Reason)
  | register (r : Responder)
  | release (r : Routing.Registration)
  | dispatch (d : Dispatch.Dispatcher) (request : Http.Request)
  | ask (r : Responder) (request : Http.Request)

/-- What happens, and when. -/
structure Event where
  action : Action
  now : Instant

/-- Whether an event is an operation that writes into the ledger of the authority at a place. -/
def Event.writesAt (e : Event) (place : Nat) : Prop :=
  match e.action with
  | .createIntermediate parent _ _ _ => parent = place
  | .issue other _ _ _ => other = place
  | .revoke other _ _ => other = place
  | _ => False

/-! ### Deeds -/

/-- A certificate of the authority at a place was issued, or revoked at a moment for a reason. -/
inductive Deed where
  | issued (place : Nat) (serial : SerialNumber)
  | revoked (place : Nat) (serial : SerialNumber) (moment : Instant) (reason : Option Ocsp.Reason)
  deriving DecidableEq

/-- The place of the authority. -/
def Deed.place : Deed → Nat
  | issued place _ => place
  | revoked place _ _ _ => place

/-- The serial numbers that the authority at a place issued, in their order. -/
def issuedAt (place : Nat) (deeds : List Deed) : List SerialNumber :=
  deeds.filterMap fun
    | .issued other serial => if other = place then some serial else none
    | .revoked _ _ _ _ => none

/-- When and why a serial number was revoked by the authority at a place, in their order. -/
def revocations (place : Nat) (serial : SerialNumber) (deeds : List Deed) :
    List (Instant × Option Ocsp.Reason) :=
  deeds.filterMap fun
    | .issued _ _ => none
    | .revoked other s moment reason =>
        if other = place ∧ s = serial then some (moment, reason) else none

/-! ### Running -/

/-- The laboratory after an event, and what the event did by the answer of its operation. -/
def perform (l : Lab) (e : Event) : Lab × List Deed :=
  match e.action with
  | .createRoot base plan serial name =>
      ((l.createRoot base plan ⟨serial.octets, name.octets⟩ e.now).1, [])
  | .createIntermediate parent plan serial name =>
      match l.createIntermediate parent plan ⟨serial.octets, name.octets⟩ e.now with
      | (l, .ok child) =>
          (l, ((l.authorities.get? child).map fun a =>
            Deed.issued parent a.certificate.body.serial).toList)
      | (l, .error _) => (l, [])
  | .issue place commonName key serial =>
      match l.issue place commonName key serial.octets e.now with
      | (l, .ok certificate) => (l, [.issued place certificate.body.serial])
      | (l, .error _) => (l, [])
  | .revoke place serial reason =>
      match l.revoke place serial reason e.now with
      | (l, .ok ()) => (l, [.revoked place serial e.now reason])
      | (l, .error _) => (l, [])
  | .register r => ((l.register r).1, [])
  | .release r => (l.release r, [])
  | .dispatch d request => ((l.dispatch d request e.now).1, [])
  | .ask r request => ((l.ask r request e.now).1, [])

/-- A laboratory with what was done in it. -/
structure History where
  lab : Lab := {}
  deeds : List Deed := []

namespace History

/-- The history with one more event. -/
def step (h : History) (e : Event) : History :=
  let (lab, deeds) := h.lab.perform e
  ⟨lab, h.deeds ++ deeds⟩

/-- The history of a list of events, from an empty laboratory on. -/
def run (es : List Event) : History := es.foldl step {}

theorem run_append_singleton (es : List Event) (e : Event) : run (es ++ [e]) = (run es).step e := by
  simp [run]

end History

/-! ### What an event can do -/

/-- What an event can do to the authorities, and what it says that it did. -/
inductive Effect (r : Registry) (e : Event) : Registry → List Deed → Prop
  /-- Nothing. -/
  | nothing : Effect r e r []
  /-- A root is added. -/
  | added (a : Authority) (ha : a.IsSound) (hnew : a.issued = []) : Effect r e (r.add a) []
  /-- A certificate is issued. -/
  | issued (place : Nat) (serial : SerialNumber) (hplace : place < r.size)
      (hserial : serial.isReadable = true) (hwrites : e.writesAt place) :
      Effect r e (r.record place serial .valid) [.issued place serial]
  /-- A certificate is issued, and the authority that it is for is added. -/
  | certified (place : Nat) (serial : SerialNumber) (a : Authority) (hplace : place < r.size)
      (hserial : serial.isReadable = true) (hwrites : e.writesAt place) (ha : a.IsSound)
      (hnew : a.issued = []) :
      Effect r e ((r.record place serial .valid).add a) [.issued place serial]
  /-- A certificate that was issued is revoked. -/
  | revoked (place : Nat) (serial : SerialNumber) (reason : Option Ocsp.Reason) (a : Authority)
      (ha : r.get? place = some a) (hissued : (Keyed.get? a.issued serial).isSome = true)
      (hwrites : e.writesAt place) :
      Effect r e (r.record place serial (.revoked e.now reason))
        [.revoked place serial e.now reason]

theorem createRoot_eq (l : Lab) (base : Url) (plan : Plan) (draws : Draws) (now : Instant) :
    (l.createRoot base plan draws now).1.authorities
      = (l.authorities.createRoot base plan draws now).1 := by
  unfold createRoot
  rcases l.authorities.createRoot base plan draws now with ⟨r, e | place⟩ <;> rfl

theorem exists_createIntermediate (l : Lab) (parent : Nat) (plan : Plan) (draws : Draws)
    (now : Instant) : ∃ l', l.createIntermediate parent plan draws now
        = (l', (l.authorities.createIntermediate parent plan draws now).2)
      ∧ l'.authorities = (l.authorities.createIntermediate parent plan draws now).1 := by
  unfold createIntermediate
  rcases l.authorities.createIntermediate parent plan draws now with ⟨r, e | place⟩
  · exact ⟨_, rfl, rfl⟩
  · exact ⟨_, rfl, rfl⟩

theorem exists_issue (l : Lab) (place : Nat) (commonName : String) (key : PublicKeyInfo)
    (draw : Octets) (now : Instant) : ∃ l', l.issue place commonName key draw now
        = (l', (l.authorities.issue place commonName key draw now).2)
      ∧ l'.authorities = (l.authorities.issue place commonName key draw now).1 := by
  unfold issue
  rcases l.authorities.issue place commonName key draw now with ⟨r, e | c⟩
  · exact ⟨_, rfl, rfl⟩
  · exact ⟨_, rfl, rfl⟩

theorem exists_revoke (l : Lab) (place : Nat) (serial : SerialNumber)
    (reason : Option Ocsp.Reason) (now : Instant) : ∃ l', l.revoke place serial reason now
        = (l', (l.authorities.revoke place serial reason now).2)
      ∧ l'.authorities = (l.authorities.revoke place serial reason now).1 := by
  unfold revoke
  rcases l.authorities.revoke place serial reason now with ⟨r, e | u⟩
  · exact ⟨_, rfl, rfl⟩
  · exact ⟨_, rfl, rfl⟩

/-- Registering a responder does nothing to the authorities. -/
theorem register_eq (l : Lab) (r : Responder) : (l.register r).1.authorities = l.authorities := by
  unfold register
  simp only
  split
  · simp only [insertRoute]
    split <;> rfl
  · rfl

/-- Releasing a registration does nothing to the authorities. -/
theorem release_eq (l : Lab) (r : Routing.Registration) :
    (l.release r).authorities = l.authorities := by
  unfold release
  split <;> rfl

/-- **Every event has one of the effects.** -/
theorem effect_perform {l : Lab} (hl : l.authorities.IsSound) (e : Event) :
    Effect l.authorities e (l.perform e).1.authorities (l.perform e).2 := by
  rcases e with ⟨action, now⟩
  cases action with
  | createRoot base plan serial name =>
      change Effect l.authorities _
        (l.createRoot base plan ⟨serial.octets, name.octets⟩ now).1.authorities []
      rw [createRoot_eq]
      have hdraws : (⟨serial.octets, name.octets⟩ : Draws).serial.length = 16 := serial.length_eq
      rcases l.authorities.createRoot_cases base plan hdraws now with ⟨error, h⟩ | ⟨a, h, ha, hnew⟩
      · rw [h]
        exact .nothing
      · rw [h]
        exact .added a ha hnew
  | createIntermediate parent plan serial name =>
      have hdraws : (⟨serial.octets, name.octets⟩ : Draws).serial.length = 16 := serial.length_eq
      obtain ⟨l', hdone, hlab⟩ :=
        l.exists_createIntermediate parent plan ⟨serial.octets, name.octets⟩ now
      simp only [perform, hdone]
      rcases Registry.createIntermediate_cases hl parent plan hdraws now with
        ⟨error, h⟩ | ⟨a, h, hparent, ha, hnew⟩
      · simp only [h, hlab]
        exact .nothing
      · -- the new authority is looked up again, for the serial number of its certificate
        have hchild : ((l.authorities.record parent a.certificate.body.serial .valid).add a).get?
            l.authorities.size = some a := by
          rw [Registry.get?_add, Registry.size_record, if_pos rfl]
        simp only [h, hlab, hchild, Option.map_some, Option.toList_some]
        exact .certified parent _ a hparent ha.certificate.body.serial rfl ha hnew
  | issue place commonName key serial =>
      obtain ⟨l', hdone, hlab⟩ := l.exists_issue place commonName key serial.octets now
      simp only [perform, hdone]
      rcases l.authorities.issue_cases place commonName key serial.octets now with
        ⟨error, h⟩ | ⟨c, h, hserial, hplace⟩
      · simp only [h, hlab]
        exact .nothing
      · have hreadable : c.body.serial.isReadable = true := by
          rw [hserial]
          exact SerialNumber.isReadable_ofDraw serial.length_eq
        simp only [h, hlab]
        exact .issued place _ hplace hreadable rfl
  | revoke place serial reason =>
      obtain ⟨l', hdone, hlab⟩ := l.exists_revoke place serial reason now
      simp only [perform, hdone]
      rcases l.authorities.revoke_cases place serial reason now with
        ⟨error, -, h⟩ | ⟨a, standing, ha, hissued, h⟩
      · simp only [h, hlab]
        exact .nothing
      · simp only [h, hlab]
        exact .revoked place serial reason a ha (by rw [hissued]; rfl) rfl
  | register r =>
      have hsame := l.register_eq r
      simp only [perform]
      rw [hsame]
      exact .nothing
  | release r =>
      have hsame := l.release_eq r
      simp only [perform]
      rw [hsame]
      exact .nothing
  -- requests read the authorities and leave them alone
  | dispatch d request =>
      change Effect l.authorities _ l.authorities []
      exact .nothing
  | ask r request =>
      change Effect l.authorities _ l.authorities []
      exact .nothing

/-! ### What stays -/

namespace Effect

variable {r r' : Registry} {e : Event} {deeds : List Deed}

/-- Soundness is kept. -/
theorem isSound (h : Effect r e r' deeds) (hr : r.IsSound) : r'.IsSound := by
  cases h with
  | nothing => exact hr
  | added a ha _ => exact hr.add ha
  | issued place serial _ _ _ => exact hr.record place serial .valid
  | certified place serial a _ _ _ ha _ => exact (hr.record place serial .valid).add ha
  | revoked place serial reason _ _ _ _ => exact hr.record place serial _

theorem record_stays (place : Nat) (serial : SerialNumber) (standing : Standing) {other : Nat}
    {a : Authority} (ha : r.get? other = some a) :
    ∃ a', (r.record place serial standing).get? other = some a' ∧ a'.certificate = a.certificate
      ∧ (place ≠ other → a'.issued = a.issued) := by
  rw [Registry.get?_record, ha]
  refine ⟨_, rfl, ?_, ?_⟩
  · split <;> rfl
  · intro hne
    simp [hne]

/-- **An authority stays where it is** with its certificate, and its ledger stays as it is unless the
event writes there. -/
theorem get?_of_get? (h : Effect r e r' deeds) {other : Nat} {a : Authority}
    (ha : r.get? other = some a) :
    ∃ a', r'.get? other = some a' ∧ a'.certificate = a.certificate
      ∧ (¬ e.writesAt other → a'.issued = a.issued) := by
  have hlt := Registry.lt_size_of_get? ha
  cases h with
  | nothing => exact ⟨a, ha, rfl, fun _ => rfl⟩
  | added b _ _ =>
      refine ⟨a, ?_, rfl, fun _ => rfl⟩
      rw [Registry.get?_add, if_neg (Nat.ne_of_lt hlt)]
      exact ha
  | issued place serial _ _ hwrites =>
      obtain ⟨a', ha', hcertificate, hissued⟩ := record_stays place serial .valid ha
      refine ⟨a', ha', hcertificate, fun hne => hissued ?_⟩
      rintro rfl
      exact hne hwrites
  | certified place serial b _ _ hwrites _ _ =>
      obtain ⟨a', ha', hcertificate, hissued⟩ := record_stays place serial .valid ha
      refine ⟨a', ?_, hcertificate, fun hne => hissued ?_⟩
      · rw [Registry.get?_add, Registry.size_record, if_neg (Nat.ne_of_lt hlt)]
        exact ha'
      · rintro rfl
        exact hne hwrites
  | revoked place serial reason _ _ _ hwrites =>
      obtain ⟨a', ha', hcertificate, hissued⟩ := record_stays place serial _ ha
      refine ⟨a', ha', hcertificate, fun hne => hissued ?_⟩
      rintro rfl
      exact hne hwrites

end Effect

/-! ### Histories -/

namespace History

/-- **Every authority of a history is sound.** -/
theorem isSound_run (es : List Event) : (run es).lab.authorities.IsSound := by
  -- every event starts from sound authorities, which is what its effect needs
  induction es using List.reverseRecOn with
  | nil => exact Registry.IsSound.empty
  | append_singleton es e ih =>
      rw [run_append_singleton]
      exact (effect_perform ih e).isSound ih

end History

end Lab

end RevocationLab
