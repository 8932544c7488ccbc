/-
**From an authority up to its root.**

An authority descends from a root when it was made by certifying one authority after another from
there on, with anything else going on in between.  Its chain is then its own certificate and those of
its ancestors; each certificate but the last is signed with the key of the next one and known to the
authority of that, and the last one is signed with its own.  What the authority itself signs, now or
later, is signed with the key in the first.

Main definitions:

* `Lab.Descends` — an authority and its ancestors, by the answers of the operations;
* `Lab.Certified` — an authority next to the one that certified it;
* `Lab.Lineage` — **a chain with the authorities behind it**.

Main results:

* `Lab.keeps_perform` — every event keeps the authorities and their links;
* `Lab.History.related_run` — what each event keeps is kept from any moment on;
* `Lab.Descends.parent` — the parent of an authority is the nearest ancestor;
* `Lab.exists_descends` — every authority descends from a root;
* `Lab.lineage_of_descends` — **every authority that descends from a root has a lineage**.
-/

import RevocationLab.Proofs.Authority.Link
import RevocationLab.Proofs.Responder.Ocsp

set_option autoImplicit false

namespace RevocationLab

open Authority X509

namespace Lab

/-! ### What every event keeps -/

theorem answer_createRoot (l : Lab) (base : Url) (plan : Plan) (draws : Draws) (now : Instant) :
    (l.createRoot base plan draws now).2 = (l.authorities.createRoot base plan draws now).2 := by
  unfold createRoot
  rcases l.authorities.createRoot base plan draws now with ⟨r, e | place⟩ <;> rfl

/-- What an event makes of the authorities. -/
def Event.change (e : Event) (r : Registry) : Registry :=
  match e.action with
  | .createRoot base plan serial name =>
      (r.createRoot base plan ⟨serial.octets, name.octets⟩ e.now).1
  | .createIntermediate parent plan serial name =>
      (r.createIntermediate parent plan ⟨serial.octets, name.octets⟩ e.now).1
  | .issue place commonName key serial => (r.issue place commonName key serial.octets e.now).1
  | .revoke place serial reason => (r.revoke place serial reason e.now).1
  | .register _ | .release _ | .dispatch _ _ | .ask _ _ => r

theorem authorities_perform (l : Lab) (e : Event) :
    (l.perform e).1.authorities = e.change l.authorities := by
  rcases e with ⟨action, now⟩
  cases action with
  | createRoot base plan serial name => exact l.createRoot_eq base plan _ now
  | createIntermediate parent plan serial name =>
      obtain ⟨l', hdone, hlab⟩ :=
        l.exists_createIntermediate parent plan ⟨serial.octets, name.octets⟩ now
      simp only [perform, hdone, Event.change, ← hlab]
      split <;> simp_all
  | issue place commonName key serial =>
      obtain ⟨l', hdone, hlab⟩ := l.exists_issue place commonName key serial.octets now
      simp only [perform, hdone, Event.change, ← hlab]
      split <;> simp_all
  | revoke place serial reason =>
      obtain ⟨l', hdone, hlab⟩ := l.exists_revoke place serial reason now
      simp only [perform, hdone, Event.change, ← hlab]
      split <;> simp_all
  | register r => exact l.register_eq r
  | release r => exact l.release_eq r
  | dispatch d request => rfl
  | ask r request => rfl

/-- **Every event keeps the authorities and their links.** -/
theorem keeps_perform (l : Lab) (e : Event) :
    l.authorities.Keeps (l.perform e).1.authorities e.now := by
  rw [authorities_perform]
  rcases e with ⟨action, now⟩
  cases action with
  | createRoot base plan serial name => exact l.authorities.keeps_createRoot base plan _ now
  | createIntermediate parent plan serial name =>
      exact l.authorities.keeps_createIntermediate parent plan _ now
  | issue place commonName key serial =>
      exact l.authorities.keeps_issue place commonName key serial.octets now
  | revoke place serial reason => exact l.authorities.keeps_revoke place serial reason now
  | register _ | release _ | dispatch _ _ | ask _ _ => exact Registry.Keeps.refl _ now

namespace History

theorem lab_append_singleton (es : List Event) (e : Event) :
    (run (es ++ [e])).lab = ((run es).lab.perform e).1 := by
  rw [run_append_singleton]
  rfl

/-- Every authority of a history is bound to its key and its issuer. -/
theorem isLinked_run (es : List Event) : (run es).lab.authorities.IsLinked := by
  induction es using List.reverseRecOn with
  | nil => exact Registry.IsLinked.empty
  | append_singleton es e ih =>
      rw [lab_append_singleton]
      exact (keeps_perform (run es).lab e).links ih

/-- Every revocation of a history has a time, if the clock stays in the calendar. -/
theorem isDated_run {es : List Event} (hclock : InCalendar es) :
    (run es).lab.authorities.IsDated := by
  induction es using List.reverseRecOn with
  | nil => exact Registry.IsDated.empty
  | append_singleton es e ih =>
      rw [lab_append_singleton]
      refine (keeps_perform (run es).lab e).dates ?_ ?_
      · exact hclock e (List.mem_append_right _ List.mem_cons_self)
      · exact ih fun e he => hclock e (List.mem_append_left _ he)

section

variable {R : Registry → Registry → Prop} (hrefl : ∀ r, R r r)
  (htrans : ∀ {r r' r''}, R r r' → R r' r'' → R r r'')
  (hstep : ∀ (l : Lab) (e : Event), R l.authorities (l.perform e).1.authorities)

include hrefl htrans hstep

/-- What each event keeps of the authorities is kept from any moment on. -/
theorem related_run (es later : List Event) :
    R (run es).lab.authorities (run (es ++ later)).lab.authorities := by
  induction later using List.reverseRecOn with
  | nil =>
      rw [List.append_nil]
      exact hrefl _
  | append_singleton later e ih =>
      rw [← List.append_assoc, lab_append_singleton]
      exact htrans ih (hstep (run (es ++ later)).lab e)

/-- It is kept from the moment after an event on. -/
theorem related_change {es before after : List Event} {e : Event} (hes : es = before ++ e :: after) :
    R (e.change (run before).lab.authorities) (run es).lab.authorities := by
  have hrelated := related_run hrefl htrans hstep (before ++ [e]) after
  rwa [lab_append_singleton, authorities_perform, List.append_assoc, List.singleton_append, ← hes]
    at hrelated

end

/-- Whoever is there stays. -/
theorem extends_run (es later : List Event) :
    (run es).lab.authorities.Extends (run (es ++ later)).lab.authorities :=
  related_run Registry.Extends.refl (fun h h' => h.trans h') (fun l e => (keeps_perform l e).everybody)
    es later

end History

/-! ### Ancestors -/

/-- The authority at a place descends from a root through the authorities at some places, the nearest
one first: a root was made by itself, and anybody else by the nearest ancestor. -/
inductive Descends (es : List Event) : Nat → List Nat → Prop
  | root (before after : List Event) (base : Url) (plan : Plan) (serial name : Draw)
      (now : Instant) (place : Nat)
      (hes : es = before ++ ⟨.createRoot base plan serial name, now⟩ :: after)
      (hmade : ((History.run before).lab.createRoot base plan ⟨serial.octets, name.octets⟩ now).2
        = .ok place) :
      Descends es place []
  | child (before after : List Event) (parent : Nat) (plan : Plan) (serial name : Draw)
      (now : Instant) (place : Nat) (ancestors : List Nat)
      (hes : es = before ++ ⟨.createIntermediate parent plan serial name, now⟩ :: after)
      (hmade : ((History.run before).lab.createIntermediate parent plan
        ⟨serial.octets, name.octets⟩ now).2 = .ok place)
      (hparent : Descends es parent ancestors) :
      Descends es place (parent :: ancestors)

/-- Whoever is there after an event is there at the end. -/
theorem History.exists_of_change {es before after : List Event} {e : Event}
    (hes : es = before ++ e :: after) {place : Nat} {a : Authority}
    (ha : (e.change (run before).lab.authorities).get? place = some a) :
    ∃ b, (run es).lab.authorities.get? place = some b ∧ a.Stays b :=
  related_change Registry.Extends.refl (fun h h' => h.trans h')
    (fun l e => (keeps_perform l e).everybody) hes place a ha

/-- **The parent of an authority is the nearest ancestor.** -/
theorem Descends.parent {es : List Event} {place : Nat} {ancestors : List Nat}
    (h : Descends es place ancestors) :
    ∃ a, (History.run es).lab.authorities.get? place = some a ∧ a.parent = ancestors.head? := by
  cases h with
  | root before after base plan serial name now place hes hmade =>
      rw [answer_createRoot] at hmade
      obtain ⟨a, ha, hparent⟩ := Registry.parent_createRoot hmade
      obtain ⟨b, hb, hstays⟩ := History.exists_of_change hes ha
      exact ⟨b, hb, hstays.parent.trans hparent⟩
  | child before after parent plan serial name now place ancestors hes hmade hdescends =>
      obtain ⟨l', hdone, -⟩ := (History.run before).lab.exists_createIntermediate parent plan
        ⟨serial.octets, name.octets⟩ now
      rw [hdone] at hmade
      obtain ⟨a, issuer, ha, hparent, -, -⟩ := Registry.parent_createIntermediate hmade
      obtain ⟨b, hb, hstays⟩ := History.exists_of_change hes ha
      exact ⟨b, hb, hstays.parent.trans hparent⟩

/-- Whoever descends from a root does so later on. -/
theorem Descends.append {es : List Event} {place : Nat} {ancestors : List Nat}
    (h : Descends es place ancestors) (later : List Event) :
    Descends (es ++ later) place ancestors := by
  induction h with
  | root before after base plan serial name now place hes hmade =>
      exact .root before (after ++ later) base plan serial name now place (by simp [hes]) hmade
  | child before after parent plan serial name now place ancestors hes hmade _ ih =>
      exact .child before (after ++ later) parent plan serial name now place ancestors
        (by simp [hes]) hmade ih

/-- An event after which there is another authority says so in its answer. -/
theorem made_of_size {l : Lab} (hl : l.authorities.IsSound) {e : Event} {place : Nat}
    (hold : l.authorities.size ≤ place) (h : place < (e.change l.authorities).size) :
    (∃ base plan serial name, e.action = .createRoot base plan serial name
        ∧ (l.createRoot base plan ⟨serial.octets, name.octets⟩ e.now).2 = .ok place)
      ∨ ∃ parent plan serial name, e.action = .createIntermediate parent plan serial name
        ∧ parent < l.authorities.size
        ∧ (l.createIntermediate parent plan ⟨serial.octets, name.octets⟩ e.now).2 = .ok place := by
  rcases e with ⟨action, now⟩
  cases action with
  | createRoot base plan serial name =>
      have hdraws : (⟨serial.octets, name.octets⟩ : Draws).serial.length = 16 := serial.length_eq
      have hanswer := l.answer_createRoot base plan ⟨serial.octets, name.octets⟩ now
      simp only [Event.change] at h
      rcases l.authorities.createRoot_cases base plan hdraws now with
        ⟨error, hmade⟩ | ⟨a, hmade, -, -⟩
      · rw [hmade] at h
        exact absurd h (Nat.not_lt.2 hold)
      · rw [hmade, Registry.size_add] at h
        rw [hmade] at hanswer
        obtain rfl : place = l.authorities.size := by omega
        exact .inl ⟨base, plan, serial, name, rfl, hanswer⟩
  | createIntermediate parent plan serial name =>
      have hdraws : (⟨serial.octets, name.octets⟩ : Draws).serial.length = 16 := serial.length_eq
      obtain ⟨l', hdone, -⟩ :=
        l.exists_createIntermediate parent plan ⟨serial.octets, name.octets⟩ now
      simp only [Event.change] at h
      rcases Registry.createIntermediate_cases hl parent plan hdraws now with
        ⟨error, hmade⟩ | ⟨a, hmade, hparent, -, -⟩
      · rw [hmade] at h
        exact absurd h (Nat.not_lt.2 hold)
      · rw [hmade, Registry.size_add, Registry.size_record] at h
        rw [hmade] at hdone
        obtain rfl : place = l.authorities.size := by omega
        exact .inr ⟨parent, plan, serial, name, rfl, hparent, by rw [hdone]⟩
  | issue other commonName key serial =>
      simp only [Event.change] at h
      rcases l.authorities.issue_cases other commonName key serial.octets now with
        ⟨error, hmade⟩ | ⟨c, hmade, -, -⟩
      · rw [hmade] at h
        exact absurd h (Nat.not_lt.2 hold)
      · rw [hmade, Registry.size_record] at h
        exact absurd h (Nat.not_lt.2 hold)
  | revoke other serial reason =>
      simp only [Event.change] at h
      rcases l.authorities.revoke_cases other serial reason now with
        ⟨error, -, hmade⟩ | ⟨a, standing, -, -, hmade⟩
      · rw [hmade] at h
        exact absurd h (Nat.not_lt.2 hold)
      · rw [hmade, Registry.size_record] at h
        exact absurd h (Nat.not_lt.2 hold)
  | register _ | release _ | dispatch _ _ | ask _ _ => exact absurd h (Nat.not_lt.2 hold)

/-- **Every authority descends from a root.** -/
theorem exists_descends (es : List Event) (place : Nat)
    (h : place < (History.run es).lab.authorities.size) : ∃ ancestors, Descends es place ancestors := by
  induction es using List.reverseRecOn generalizing place with
  | nil => exact absurd h (Nat.not_lt_zero place)
  | append_singleton es e ih =>
      by_cases hold : place < (History.run es).lab.authorities.size
      · obtain ⟨ancestors, hdescends⟩ := ih place hold
        exact ⟨ancestors, hdescends.append [e]⟩
      · rw [History.lab_append_singleton, authorities_perform] at h
        obtain ⟨action, now⟩ := e
        rcases made_of_size (History.isSound_run es) (Nat.not_lt.1 hold) h with
          ⟨base, plan, serial, name, rfl, hmade⟩ | ⟨parent, plan, serial, name, rfl, hparent, hmade⟩
        · exact ⟨[], .root es [] base plan serial name now place rfl hmade⟩
        · obtain ⟨ancestors, hdescends⟩ := ih parent hparent
          exact ⟨parent :: ancestors, .child es [] parent plan serial name now place ancestors rfl
            hmade (hdescends.append _)⟩

/-! ### Chains -/

/-- An authority next to the one that certified it: the names fit, the certificate is signed with the
key in the certificate of the other one, and the other one knows it under either algorithm. -/
structure Certified (a issuer : Authority) : Prop where
  name : a.certificate.body.issuer = issuer.certificate.body.subject
  key : issuer.certificate.body.key = issuer.key.publicKey.info
  signed : a.certificate.IsSignedBy issuer.key
  known : ∀ hash, issuer.status (Ocsp.CertId.of issuer.certificate a.certificate hash) = .good
    ∨ ∃ time reason,
      issuer.status (Ocsp.CertId.of issuer.certificate a.certificate hash) = .revoked time reason

/-- **A chain with the authorities behind it**: `a` at the place, and `up` at the places of its
ancestors. -/
structure Lineage (es : List Event) (place : Nat) (ancestors : List Nat) (a : Authority)
    (up : List Authority) : Prop where
  /-- The authority is the one at the place, -/
  own : (History.run es).lab.authorities.get? place = some a
  /-- and the others are its ancestors, the nearest one first. -/
  others : ancestors.map (History.run es).lab.authorities.get? = up.map some
  /-- The chain has the certificates of all of them in this order, -/
  chain : (History.run es).lab.authorities.chain place
    = a.certificate :: up.map Authority.certificate
  /-- one more than there are ancestors. -/
  length : ((History.run es).lab.authorities.chain place).length = ancestors.length + 1
  /-- Each of them was certified by the next one. -/
  certified : (a :: up).IsChain Certified
  /-- The last one has certified itself. -/
  root : ∀ top ∈ (a :: up).getLast?, top.certificate.body.issuer = top.certificate.body.subject
    ∧ top.certificate.body.key = top.key.publicKey.info ∧ top.certificate.IsSignedBy top.key

/-- **The authority at a place signs with the key in a certificate** whatever it signs after some
events. -/
structure Signs (es : List Event) (place : Nat) (c : Certificate) (key : Rsa.KeyPair) : Prop where
  /-- The certificate has the key. -/
  own : c.body.key = key.publicKey.info
  /-- It signs every certificate that is issued, -/
  issues : ∀ later commonName subjectKey draw now issued,
    ((History.run (es ++ later)).lab.issue place commonName subjectKey draw now).2 = .ok issued →
      issued.IsSignedBy key
  /-- that of every authority that is certified, -/
  certifies : ∀ later plan draws now lab child,
    (History.run (es ++ later)).lab.createIntermediate place plan draws now = (lab, .ok child) →
      ∃ b, lab.authorities.get? child = some b ∧ b.certificate.IsSignedBy key
  /-- and every answer to a status query. -/
  answers : ∀ later (r : Responder) message now response, r.role = .ocsp place →
    ((History.run (es ++ later)).lab.ask r message now).2 = .response response →
      response.status = 200 →
      ∃ (basic : Ocsp.BasicResponse) (signature : Octets),
        response.body = basic.envelope.encode ∧ key.sign? basic.data.encode = some signature
          ∧ basic.signature = Der.BitString.ofOctets signature

/-- An authority whose parent is at a place was certified by whoever is there. -/
theorem certified_of_parent {es : List Event} (hclock : InCalendar es) {place parent : Nat}
    {a issuer : Authority} (ha : (History.run es).lab.authorities.get? place = some a)
    (hparent : a.parent = some parent)
    (hissuer : (History.run es).lab.authorities.get? parent = some issuer) :
    Certified a issuer := by
  obtain ⟨-, b, hb, hname, hsigned, hissued⟩ :=
    (History.isLinked_run es place a ha).child parent hparent
  obtain rfl : issuer = b := Option.some.inj (hissuer.symm.trans hb)
  refine ⟨hname, (History.isLinked_run es parent issuer hissuer).key, hsigned, fun hash => ?_⟩
  obtain ⟨standing, hstanding⟩ := Option.isSome_iff_exists.1 hissued
  rw [Authority.status_eq_of_isNamedBy (issuer.isNamedBy_of a.certificate hash)]
  have hserial : (Ocsp.CertId.of issuer.certificate a.certificate hash).serial
      = a.certificate.body.serial := rfl
  rw [hserial, hstanding]
  cases standing with
  | valid => exact .inl rfl
  | revoked moment reason =>
      obtain ⟨time, htime⟩ := History.isDated_run hclock parent issuer hissuer _ _ _ hstanding
      refine .inr ⟨time, reason, ?_⟩
      simp [Authority.Standing.status, htime]

namespace Descends

variable {es : List Event} {place : Nat} {ancestors : List Nat}

/-- The ancestors of the nearest one. -/
theorem tail {parent : Nat} (h : Descends es place (parent :: ancestors)) :
    Descends es parent ancestors := by
  cases h with
  | child before after parent plan serial name now place ancestors hes hmade hparent =>
      exact hparent

/-- A lineage, by way of one ancestor after another. -/
theorem exists_lineage (hclock : InCalendar es) (h : Descends es place ancestors) :
    ∃ a up, Lineage es place ancestors a up := by
  have hlinked := History.isLinked_run es
  induction ancestors generalizing place with
  | nil =>
      obtain ⟨a, ha, hparent⟩ := h.parent
      have hchain : (History.run es).lab.authorities.chain place = [a.certificate] := by
        rw [Registry.chain_of_get? hlinked ha, hparent]
        rfl
      obtain ⟨hkey, hroot, -⟩ := hlinked place a ha
      refine ⟨a, [], ha, rfl, hchain, by rw [hchain]; rfl, List.IsChain.singleton a, ?_⟩
      rintro top ⟨⟩
      exact ⟨(hroot hparent).1, hkey, (hroot hparent).2⟩
  | cons parent ancestors ih =>
      obtain ⟨a, ha, hparent⟩ := h.parent
      obtain ⟨b, up, hup⟩ := ih h.tail
      have hchain : (History.run es).lab.authorities.chain place
          = a.certificate :: (History.run es).lab.authorities.chain parent := by
        rw [Registry.chain_of_get? hlinked ha, hparent]
        rfl
      refine ⟨a, b :: up, ha, ?_, ?_, ?_, ?_, ?_⟩
      · rw [List.map_cons, List.map_cons, hup.own, hup.others]
      · rw [hchain, hup.chain, List.map_cons]
      · rw [hchain, List.length_cons, hup.length, List.length_cons]
      · exact List.isChain_cons_cons.2
          ⟨certified_of_parent hclock ha hparent hup.own, hup.certified⟩
      · rw [List.getLast?_cons_cons]
        exact hup.root

end Descends

/-! ### Signing -/

/-- What answers a query with status 200 is signed with the key of the authority. -/
theorem signed_respond {a : Authority} {chain : List Certificate} {now : Instant}
    {message : Http.Request} {response : Http.Response}
    (h : (Responder.Ocsp.respond a chain now message).outcome = .response response)
    (hstatus : response.status = 200) :
    ∃ (basic : Ocsp.BasicResponse) (signature : Octets),
      response.body = basic.envelope.encode ∧ a.key.sign? basic.data.encode = some signature
        ∧ basic.signature = Der.BitString.ofOctets signature := by
  rcases Responder.Ocsp.response_cases h with rfl | ⟨request, basic, hbasic, -, rfl⟩
  · exact absurd hstatus (by decide)
  · obtain ⟨data, signature, -, -, hsign, rfl⟩ := Ocsp.ResponseParts.basic_eq_ok_iff.1 hbasic
    exact ⟨_, signature, rfl, hsign, rfl⟩

/-- Whoever is at a place signs with the key of whoever was there before. -/
theorem signs_of_get? {es : List Event} {place : Nat} {a : Authority}
    (ha : (History.run es).lab.authorities.get? place = some a) :
    Signs es place a.certificate a.key where
  own := (History.isLinked_run es place a ha).key
  issues := by
    intro later commonName subjectKey draw now issued h
    obtain ⟨b, hb, hstays⟩ := History.extends_run es later place a ha
    obtain ⟨l', hdone, -⟩ :=
      (History.run (es ++ later)).lab.exists_issue place commonName subjectKey draw now
    rw [hdone] at h
    obtain ⟨issuer, hissuer, hsigned⟩ := Registry.signed_issue h
    obtain rfl : b = issuer := Option.some.inj (hb.symm.trans hissuer)
    exact hstays.key ▸ hsigned
  certifies := by
    intro later plan draws now lab child h
    obtain ⟨b, hb, hstays⟩ := History.extends_run es later place a ha
    obtain ⟨l', hdone, hlab⟩ :=
      (History.run (es ++ later)).lab.exists_createIntermediate place plan draws now
    rw [hdone, Prod.mk.injEq] at h
    obtain ⟨rfl, hmade⟩ := h
    obtain ⟨c, issuer, hc, -, hissuer, hsigned⟩ := Registry.parent_createIntermediate hmade
    obtain rfl : b = issuer := Option.some.inj (hb.symm.trans hissuer)
    exact ⟨c, by rw [hlab, hc], hstays.key ▸ hsigned⟩
  answers := by
    intro later r message now response hrole h hstatus
    obtain ⟨b, hb, hstays⟩ := History.extends_run es later place a ha
    have hrespond : (Responder.Ocsp.respond b
        ((History.run (es ++ later)).lab.authorities.chain place) now message).outcome
          = .response response := by
      simpa [ask, Responder.respond, hrole, hb] using h
    rw [← hstays.key]
    exact signed_respond hrespond hstatus

/-- **Every authority that descends from a root has a lineage**, and signs with the key in the first
certificate of its chain. -/
theorem lineage_of_descends {es : List Event} (hclock : InCalendar es) {place : Nat}
    {ancestors : List Nat} (h : Descends es place ancestors) :
    ∃ a up, Lineage es place ancestors a up ∧ Signs es place a.certificate a.key := by
  obtain ⟨a, up, hup⟩ := h.exists_lineage hclock
  exact ⟨a, up, hup, signs_of_get? hup.own⟩

/-! ### A chain of two -/

/-- The intermediate authority of the sample was certified by its root. -/
theorem descends_sampleEvents : Descends sampleEvents 1 [0] := by
  refine .child (sampleEvents.take 2) (sampleEvents.drop 3) 0 ⟨"Sub", .day, Rsa.sampleKey⟩
    (sampleDraw 5) (sampleDraw 6) (Instant.ofSeconds 2) 1 [] rfl (by decide +kernel) ?_
  exact .root [] (sampleEvents.drop 1)
    ⟨"http", some { host := "localhost" }, .segments [""], none, none⟩
    ⟨"Lab", .day, Rsa.sampleKey⟩ (sampleDraw 1) (sampleDraw 2) (Instant.ofSeconds 0) 0 rfl
    (by decide +kernel)

/-- The chain of the intermediate authority of the sample. -/
theorem lineage_sampleEvents : Descends sampleEvents 1 [0] ∧ InCalendar sampleEvents ∧
    ∃ a up, Lineage sampleEvents 1 [0] a up ∧ Signs sampleEvents 1 a.certificate a.key :=
  ⟨descends_sampleEvents, inCalendar_sampleEvents,
    lineage_of_descends inCalendar_sampleEvents descends_sampleEvents⟩

end Lab

end RevocationLab
