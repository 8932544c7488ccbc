/-
**Authorities that are served together.**

The base of a root is inherited by whoever descends from it.  Over a base whose path is a slash every
authority has two paths, which its identifier tells apart from those of all others; so the responders of
any number of authorities there, however they certified each other, are registered with one server
without getting into each other's way, and each answers below its own paths.

Main definitions:

* `Lab.LiesOver` — the authorities over a base, by the answers of the operations;
* `Lab.Family` — some authorities over a base with different identifiers;
* `Lab.responders` — the responders of some authorities;
* `Lab.Finds` — the responders are looked up behind their paths;
* `Lab.Served` — **how the authorities of a family are reached**.

Main results:

* `Lab.History.faces_run` — nothing but ledgers changes;
* `Lab.liesOver_iff` — an authority lies over its base, and over no other;
* `Lab.served_of_family` — **a family over a slash is served by one server**.
-/

import RevocationLab.Proofs.Authority.Address
import RevocationLab.Proofs.Lab.Chain
import RevocationLab.Proofs.Lab.Registering

set_option autoImplicit false

namespace RevocationLab

open Authority Routing

namespace Lab

/-! ### What does not change -/

/-- **No event changes anything but ledgers** of the authorities that are there. -/
theorem faces_perform (l : Lab) (e : Event) :
    l.authorities.faces <+: (l.perform e).1.authorities.faces := by
  rw [authorities_perform]
  rcases e with ⟨action, now⟩
  cases action with
  | createRoot base plan serial name => exact l.authorities.faces_createRoot base plan _ now
  | createIntermediate parent plan serial name =>
      exact l.authorities.faces_createIntermediate parent plan _ now
  | issue place commonName key serial =>
      exact l.authorities.faces_issue place commonName key serial.octets now
  | revoke place serial reason => exact l.authorities.faces_revoke place serial reason now
  | register _ | release _ | dispatch _ _ | ask _ _ => exact List.prefix_rfl

/-- Nothing but ledgers changes from any moment on. -/
theorem History.faces_run (es later : List Event) :
    (run es).lab.authorities.faces <+: (run (es ++ later)).lab.authorities.faces :=
  related_run (R := fun r r' => r.faces <+: r'.faces) (fun _ => List.prefix_rfl) List.IsPrefix.trans
    faces_perform es later

/-! ### Authorities over a base -/

/-- The authority at a place lies over a base: it is a root that was made over it, or was certified by
an authority that lies over it. -/
inductive LiesOver (es : List Event) (base : Url) : Nat → Prop
  | root (before after : List Event) (plan : Plan) (serial name : Draw) (now : Instant)
      (place : Nat) (hes : es = before ++ ⟨.createRoot base plan serial name, now⟩ :: after)
      (hmade : ((History.run before).lab.createRoot base plan ⟨serial.octets, name.octets⟩ now).2
        = .ok place) :
      LiesOver es base place
  | child (before after : List Event) (parent : Nat) (plan : Plan) (serial name : Draw)
      (now : Instant) (place : Nat)
      (hes : es = before ++ ⟨.createIntermediate parent plan serial name, now⟩ :: after)
      (hmade : ((History.run before).lab.createIntermediate parent plan
        ⟨serial.octets, name.octets⟩ now).2 = .ok place)
      (hparent : LiesOver es base parent) :
      LiesOver es base place

/-- Whoever is there before an event has the same face at the end. -/
theorem History.exists_of_before {es before after : List Event} {e : Event}
    (hes : es = before ++ e :: after) {place : Nat} {a : Authority}
    (ha : (run before).lab.authorities.get? place = some a) :
    ∃ b, (run es).lab.authorities.get? place = some b ∧ a.face = b.face :=
  Registry.exists_of_faces (hes ▸ faces_run before (e :: after)) ha

/-- Whoever is there after an event has the same face at the end. -/
theorem History.exists_of_after {es before after : List Event} {e : Event}
    (hes : es = before ++ e :: after) {place : Nat} {a : Authority}
    (ha : (e.change (run before).lab.authorities).get? place = some a) :
    ∃ b, (run es).lab.authorities.get? place = some b ∧ a.face = b.face :=
  Registry.exists_of_faces (related_change (R := fun r r' => r.faces <+: r'.faces)
    (fun _ => List.prefix_rfl) List.IsPrefix.trans faces_perform hes) ha

/-- **The base of a root is inherited**, and the addresses of everybody are those of the identifier. -/
theorem LiesOver.exists_get? {es : List Event} {base : Url} {place : Nat}
    (h : LiesOver es base place) :
    ∃ a, (History.run es).lab.authorities.get? place = some a ∧ a.base = base ∧ a.IsAddressed := by
  induction h with
  | root before after plan serial name now place hes hmade =>
      rw [answer_createRoot] at hmade
      obtain ⟨a, ha, rfl, haddressed⟩ := Registry.addressed_createRoot name.length_eq hmade
      obtain ⟨b, hb, hface⟩ := History.exists_of_after hes ha
      exact ⟨b, hb, (base_eq_of_face hface).symm, haddressed.of_face hface⟩
  | child before after parent plan serial name now place hes hmade hparent ih =>
      obtain ⟨l', hdone, -⟩ := (History.run before).lab.exists_createIntermediate parent plan
        ⟨serial.octets, name.octets⟩ now
      rw [hdone] at hmade
      obtain ⟨a, issuer, ha, hissuer, hbase, haddressed⟩ :=
        Registry.addressed_createIntermediate name.length_eq hmade
      obtain ⟨b, hb, hface⟩ := History.exists_of_after hes ha
      -- the issuer had the base already that it has at the end
      obtain ⟨p, hp, hsame⟩ := History.exists_of_before hes hissuer
      obtain ⟨p', hp', rfl, -⟩ := ih
      obtain rfl : p = p' := Option.some.inj (hp.symm.trans hp')
      have hinherited : b.base = p.base := calc
        b.base = a.base := (base_eq_of_face hface).symm
        _ = issuer.base := hbase
        _ = p.base := base_eq_of_face hsame
      exact ⟨b, hb, hinherited, haddressed.of_face hface⟩

/-- Whoever descends from a root lies over some base. -/
theorem Descends.exists_liesOver {es : List Event} {place : Nat} {ancestors : List Nat}
    (h : Descends es place ancestors) : ∃ base, LiesOver es base place := by
  induction h with
  | root before after base plan serial name now place hes hmade =>
      exact ⟨base, .root before after plan serial name now place hes hmade⟩
  | child before after parent plan serial name now place ancestors hes hmade _ ih =>
      obtain ⟨base, hbase⟩ := ih
      exact ⟨base, .child before after parent plan serial name now place hes hmade hbase⟩

/-- **An authority lies over its base**, and over no other. -/
theorem liesOver_iff {es : List Event} {base : Url} {place : Nat} :
    LiesOver es base place ↔
      ∃ a, (History.run es).lab.authorities.get? place = some a ∧ a.base = base := by
  constructor
  · intro h
    obtain ⟨a, ha, hbase, -⟩ := h.exists_get?
    exact ⟨a, ha, hbase⟩
  · rintro ⟨a, ha, rfl⟩
    obtain ⟨ancestors, hdescends⟩ := exists_descends es place (Registry.lt_size_of_get? ha)
    obtain ⟨base, hbase⟩ := hdescends.exists_liesOver
    obtain ⟨b, hb, rfl, -⟩ := hbase.exists_get?
    obtain rfl : a = b := Option.some.inj (ha.symm.trans hb)
    exact hbase

/-! ### Families -/

/-- Some authorities over a base, each at its place, with identifiers that are all different. -/
structure Family (es : List Event) (base : Url) (members : List (Nat × Authority)) : Prop where
  lies : ∀ m ∈ members, LiesOver es base m.1
  own : ∀ m ∈ members, (History.run es).lab.authorities.get? m.1 = some m.2
  apart : members.Pairwise fun m n => m.2.id ≠ n.2.id

/-- The responders of some authorities at their places: one that hands out the certificate, and one that
answers status queries. -/
def responders (members : List (Nat × Authority)) : List Responder :=
  members.flatMap fun m => [.certificateOf m.2, .ocspOf m.1 m.2]

namespace Family

variable {es : List Event} {base : Url} {members : List (Nat × Authority)}

theorem isAddressed (h : Family es base members) {m : Nat × Authority} (hm : m ∈ members) :
    m.2.base = base ∧ m.2.IsAddressed := by
  obtain ⟨a, ha, hbase, haddressed⟩ := (h.lies m hm).exists_get?
  obtain rfl : m.2 = a := Option.some.inj ((h.own m hm).symm.trans ha)
  exact ⟨hbase, haddressed⟩

/-- The paths of a member are those of its identifier. -/
theorem paths (h : Family es base members) (hbase : base.path = "/") {m : Nat × Authority}
    (hm : m ∈ members) : m.2.certificateUrl.path = pathOf "" m.2.id
      ∧ m.2.ocspUrl.path = pathOf "ocsp-" m.2.id := by
  obtain ⟨rfl, haddressed⟩ := h.isAddressed hm
  exact ⟨haddressed.certificatePath hbase, haddressed.ocspPath hbase⟩

theorem exists_pathOf (h : Family es base members) (hbase : base.path = "/") {m : Nat × Authority}
    (hm : m ∈ members) {path : String} (hpath : path ∈ [m.2.certificateUrl.path, m.2.ocspUrl.path]) :
    ∃ label, IsLabel label ∧ path = pathOf label m.2.id := by
  obtain ⟨hcertificate, hocsp⟩ := h.paths hbase hm
  rcases List.mem_pair.1 hpath with rfl | rfl
  · exact ⟨"", .inl rfl, hcertificate⟩
  · exact ⟨"ocsp-", .inr rfl, hocsp⟩

/-- **No two paths of a family are the same.** -/
theorem nodup_paths (h : Family es base members) (hbase : base.path = "/") :
    (members.flatMap fun m => [m.2.certificateUrl.path, m.2.ocspUrl.path]).Nodup := by
  rw [List.nodup_flatMap]
  constructor
  · -- the label tells the two paths of one authority apart
    intro m hm
    obtain ⟨hcertificate, hocsp⟩ := h.paths hbase hm
    have hid := (h.isAddressed hm).2.id
    rw [hcertificate, hocsp, List.nodup_cons, List.mem_singleton]
    refine ⟨fun heq => ?_, List.nodup_singleton _⟩
    exact absurd (pathOf_inj hid hid (.inl rfl) (.inr rfl) heq).1 (by decide)
  · -- the identifier tells the paths of two authorities apart
    refine h.apart.imp_of_mem fun {m n} hm hn hne path hpath hpath' => ?_
    obtain ⟨label, hlabel, rfl⟩ := h.exists_pathOf hbase hm hpath
    obtain ⟨label', hlabel', heq⟩ := h.exists_pathOf hbase hn hpath'
    exact hne (pathOf_inj (h.isAddressed hm).2.id (h.isAddressed hn).2.id hlabel hlabel' heq).2

end Family

/-! ### Serving a family -/

theorem map_path_responders (members : List (Nat × Authority)) :
    (responders members).map (fun r => r.url.path)
      = members.flatMap fun m => [m.2.certificateUrl.path, m.2.ocspUrl.path] := List.map_flatMap

/-- A path that is written on behind one of the paths of an authority is looked up to the responder of
that authority and kind. -/
structure Finds (l : Lab) (members : List (Nat × Authority)) : Prop where
  certificate : ∀ m ∈ members, ∀ rest, l.routes.lookup? (m.2.certificateUrl.path ++ rest)
    = some (m.2.certificateUrl.path, .certificateOf m.2)
  ocsp : ∀ m ∈ members, ∀ rest, l.routes.lookup? (m.2.ocspUrl.path ++ rest)
    = some (m.2.ocspUrl.path, .ocspOf m.1 m.2)

/-- **How the authorities of a family are reached**, each under its two paths. -/
structure Served (members : List (Nat × Authority)) : Prop where
  /-- The paths are made from the identifier, -/
  certificatePath : ∀ m ∈ members, m.2.certificateUrl.path = "/" ++ m.2.id.toText ++ "/"
  ocspPath : ∀ m ∈ members, m.2.ocspUrl.path = "/ocsp-" ++ m.2.id.toText ++ "/"
  /-- they are keys, -/
  keys : ∀ m ∈ members, isKey m.2.certificateUrl.path = true ∧ isKey m.2.ocspUrl.path = true
  /-- and no two of them are the same. -/
  apart : (members.flatMap fun m => [m.2.certificateUrl.path, m.2.ocspUrl.path]).Nodup
  /-- Where nothing is under them, all responders are registered, in any order, and then found. -/
  registered : ∀ (l : Lab) (rs : List Responder), l.routesGone = false →
    (∀ r ∈ responders members, l.routes.get? r.url.path = none) →
    rs.Perm (responders members) → Registered l rs ∧ Finds (l.registerAll rs).1 members

/-- The responders of a family have free keys wherever nothing is under their paths. -/
theorem Family.areFree {es : List Event} {base : Url} {members : List (Nat × Authority)}
    (h : Family es base members) (hbase : base.path = "/") {l : Lab}
    (hfree : ∀ r ∈ responders members, l.routes.get? r.url.path = none) :
    AreFree l (responders members) where
  keys := by
    intro r hr
    have hpath := List.mem_map_of_mem (f := fun r => r.url.path) hr
    rw [map_path_responders] at hpath
    obtain ⟨m, hm, hpath⟩ := List.mem_flatMap.1 hpath
    obtain ⟨label, hlabel, heq⟩ := h.exists_pathOf hbase hm hpath
    exact heq ▸ isKey_pathOf hlabel m.2.id
  apart := by
    rw [map_path_responders]
    exact h.nodup_paths hbase
  free := hfree

theorem mem_responders {members : List (Nat × Authority)} {m : Nat × Authority}
    (hm : m ∈ members) :
    Responder.certificateOf m.2 ∈ responders members ∧ .ocspOf m.1 m.2 ∈ responders members :=
  ⟨List.mem_flatMap.2 ⟨m, hm, List.mem_cons_self⟩,
    List.mem_flatMap.2 ⟨m, hm, List.mem_cons_of_mem _ List.mem_cons_self⟩⟩

/-- What was registered is found. -/
theorem Registered.finds {l : Lab} {rs : List Responder} {members : List (Nat × Authority)}
    (h : Registered l rs) (hperm : rs.Perm (responders members)) :
    Finds (l.registerAll rs).1 members where
  certificate := fun _ hm rest => h.lookup _ (hperm.mem_iff.2 (mem_responders hm).1) rest
  ocsp := fun _ hm rest => h.lookup _ (hperm.mem_iff.2 (mem_responders hm).2) rest

/-- **A family over a slash is served by one server.** -/
theorem served_of_family {es : List Event} {base : Url} {members : List (Nat × Authority)}
    (hbase : base.path = "/") (h : Family es base members) : Served members where
  certificatePath := fun m hm => (h.paths hbase hm).1.trans (pathOf_certificate m.2.id)
  ocspPath := fun m hm => (h.paths hbase hm).2.trans (pathOf_ocsp m.2.id)
  keys := by
    intro m hm
    obtain ⟨hcertificate, hocsp⟩ := h.paths hbase hm
    rw [hcertificate, hocsp]
    exact ⟨isKey_pathOf (.inl rfl) m.2.id, isKey_pathOf (.inr rfl) m.2.id⟩
  apart := h.nodup_paths hbase
  registered := by
    intro l rs hl hfree hperm
    have hregistered := registered_of_areFree hl ((h.areFree hbase hfree).perm hperm)
    exact ⟨hregistered, hregistered.finds hperm⟩

/-! ### A family of two -/

/-- The base of the sample. -/
def sampleBase : Url := ⟨"http", some { host := "localhost" }, .segments [""], none, none⟩

/-- The root and the intermediate authority of the sample are a family. -/
theorem exists_family_sampleEvents :
    ∃ a b, Family sampleEvents sampleBase [(0, a), (1, b)] := by
  have hroot : LiesOver sampleEvents sampleBase 0 :=
    .root [] (sampleEvents.drop 1) ⟨"Lab", .day, Rsa.sampleKey⟩ (sampleDraw 1) (sampleDraw 2)
      (Instant.ofSeconds 0) 0 rfl (by decide +kernel)
  have hsub : LiesOver sampleEvents sampleBase 1 :=
    .child (sampleEvents.take 2) (sampleEvents.drop 3) 0 ⟨"Sub", .day, Rsa.sampleKey⟩
      (sampleDraw 5) (sampleDraw 6) (Instant.ofSeconds 2) 1 rfl (by decide +kernel) hroot
  obtain ⟨a, ha, -⟩ := hroot.exists_get?
  obtain ⟨b, hb, -⟩ := hsub.exists_get?
  have hapart : ((History.run sampleEvents).lab.authorities.get? 0).map Authority.id
      ≠ ((History.run sampleEvents).lab.authorities.get? 1).map Authority.id := by
    decide +kernel
  have hne : a.id ≠ b.id := by simpa [ha, hb] using hapart
  exact ⟨a, b, by simp [hroot, hsub], by simp [ha, hb], by simp [hne]⟩

/-- The two authorities of the sample are served by an empty server. -/
theorem served_sampleEvents : sampleBase.path = "/" ∧ ∃ a b,
    Family sampleEvents sampleBase [(0, a), (1, b)] ∧ Served [(0, a), (1, b)]
      ∧ Registered {} (responders [(0, a), (1, b)]) := by
  have hbase : sampleBase.path = "/" := by decide
  obtain ⟨a, b, hfamily⟩ := exists_family_sampleEvents
  have hserved := served_of_family hbase hfamily
  exact ⟨hbase, a, b, hfamily, hserved,
    (hserved.registered {} _ rfl (fun _ _ => rfl) (.refl _)).1⟩

end Lab

end RevocationLab
