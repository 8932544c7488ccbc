/-
**How authorities are bound to their keys and issuers.**

A certificate is signed by whoever made it.  The certificate of an authority carries the authority's
own key; it is signed by the authority itself if that is a root, and otherwise by its issuer, which
stands before it and has the certificate in its ledger.  No operation loosens this: authorities stay
as they are but for their ledgers, and a ledger forgets no serial number.

Main definitions:

* `X509.Certificate.IsSignedBy` — a certificate with the signature of a key;
* `Authority.IsFresh` — an authority as it is made;
* `Authority.Registry.Extends` — everybody is still there;
* `Authority.IsLinked`, `Authority.Registry.IsLinked` — **how an authority is bound**;
* `Authority.Registry.IsDated` — every revocation has a time in the calendar;
* `Authority.Registry.Keeps` — what an operation keeps.

Main results:

* `Authority.Registry.createRoot_fresh`, `Authority.Registry.createIntermediate_fresh` — what the
  operations that make authorities add;
* `Authority.Registry.keeps_createRoot`, `Authority.Registry.keeps_createIntermediate`,
  `Authority.Registry.keeps_issue`, `Authority.Registry.keeps_revoke` — **every operation keeps**
  everybody, the links and the dates.
-/

import RevocationLab.Proofs.Authority.Registry

set_option autoImplicit false

namespace RevocationLab

open X509

/-- The signature of a certificate is the one that a key makes over its body. -/
def X509.Certificate.IsSignedBy (c : Certificate) (key : Rsa.KeyPair) : Prop :=
  ∃ signature, key.sign? c.body.encode = some signature
    ∧ c.signature = Der.BitString.ofOctets signature

namespace Authority

/-! ### Certificates and authorities that are made -/

/-- What a certificate that is made has of its maker. -/
structure IsMade (signer : Rsa.KeyPair) (role : Role) (key : PublicKeyInfo) (c : Certificate) :
    Prop where
  key : c.body.key = key
  issuer : c.body.issuer = role.issuer c.body.subject
  signed : c.IsSignedBy signer

theorem isMade_of_certify {signer : Rsa.KeyPair} {role : Role} {lifetime : Duration}
    {commonName : String} {key : PublicKeyInfo} {draw : Octets} {now : Instant} {c : Certificate}
    (h : certify signer role lifetime commonName key draw now = .ok c) :
    IsMade signer role key c := by
  obtain ⟨subject, validity, -, -, hsign⟩ := certify_eq_ok_iff.1 h
  simp only [Draft.sign?, Option.bind_eq_bind, Option.bind_eq_some_iff, Option.pure_def,
    Option.some.injEq] at hsign
  obtain ⟨octets, hsealed, signature, hsignature, rfl⟩ := hsign
  have hoctets : octets = (Draft.body ⟨role, SerialNumber.ofDraw draw, validity, subject, key⟩
      signer).encode := by
    unfold Der.sealed? at hsealed
    split at hsealed
    · exact (Option.some.inj hsealed).symm
    · cases hsealed
  subst hoctets
  exact ⟨rfl, rfl, signature, hsignature, rfl⟩

/-- An authority that is established has what it is made from. -/
theorem establish_eq_ok {base : Url} {certificate : Certificate} {plan : Plan}
    {parent : Option Nat} {draw : Octets} {a : Authority}
    (h : establish base certificate plan parent draw = .ok a) :
    a.certificate = certificate ∧ a.key = plan.key ∧ a.parent = parent ∧ a.issued = [] := by
  simp only [establish] at h
  split at h
  · split at h
    · cases h
      exact ⟨rfl, rfl, rfl, rfl⟩
    · cases h
    · cases h
  · cases h

/-- An authority as it is made: with nothing issued, with its own key in the certificate, and with the
signature of whoever certified it. -/
structure IsFresh (a : Authority) (signer : Rsa.KeyPair) (role : Role) (parent : Option Nat) :
    Prop where
  certificate : IsMade signer role a.key.publicKey.info a.certificate
  parent : a.parent = parent
  issued : a.issued = []

theorem isFresh_of_establish {signer : Rsa.KeyPair} {role : Role} {lifetime : Duration}
    {plan : Plan} {draws : Draws} {now : Instant} {certificate : Certificate} {base : Url}
    {parent : Option Nat} {a : Authority}
    (hcertify : certify signer role lifetime plan.commonName plan.key.publicKey.info draws.serial now
      = .ok certificate)
    (h : establish base certificate plan parent draws.id = .ok a) :
    a.certificate = certificate ∧ a.key = plan.key ∧ a.IsFresh signer role parent := by
  obtain ⟨hcertificate, hkey, hparent, hissued⟩ := establish_eq_ok h
  refine ⟨hcertificate, hkey, ?_, hparent, hissued⟩
  rw [hcertificate, hkey]
  exact isMade_of_certify hcertify

/-! ### Authorities that stay -/

/-- An authority later on: the same but for its ledger, which has forgotten no serial number. -/
structure Stays (a b : Authority) : Prop where
  certificate : b.certificate = a.certificate
  key : b.key = a.key
  parent : b.parent = a.parent
  issued : ∀ serial, (Keyed.get? a.issued serial).isSome = true →
    (Keyed.get? b.issued serial).isSome = true

namespace Stays

variable {a b c : Authority}

theorem refl (a : Authority) : a.Stays a := ⟨rfl, rfl, rfl, fun _ h => h⟩

theorem trans (hab : a.Stays b) (hbc : b.Stays c) : a.Stays c where
  certificate := hbc.certificate.trans hab.certificate
  key := hbc.key.trans hab.key
  parent := hbc.parent.trans hab.parent
  issued := fun serial h => hbc.issued serial (hab.issued serial h)

theorem record (a : Authority) (serial : SerialNumber) (standing : Standing) :
    a.Stays (a.record serial standing) where
  certificate := rfl
  key := rfl
  parent := rfl
  issued := by
    intro other h
    simp only [Authority.record, Keyed.get?_put]
    split
    · rfl
    · exact h

end Stays

namespace Registry

/-- Everybody is still there. -/
def Extends (r r' : Registry) : Prop :=
  ∀ place a, r.get? place = some a → ∃ b, r'.get? place = some b ∧ a.Stays b

namespace Extends

variable {r r' r'' : Registry}

theorem refl (r : Registry) : r.Extends r := fun _ a h => ⟨a, h, .refl a⟩

theorem trans (h : r.Extends r') (h' : r'.Extends r'') : r.Extends r'' := by
  intro place a ha
  obtain ⟨b, hb, hab⟩ := h place a ha
  obtain ⟨c, hc, hbc⟩ := h' place b hb
  exact ⟨c, hc, hab.trans hbc⟩

theorem add (r : Registry) (new : Authority) : r.Extends (r.add new) := by
  intro place a ha
  refine ⟨a, ?_, .refl a⟩
  rw [get?_add, if_neg (Nat.ne_of_lt (lt_size_of_get? ha))]
  exact ha

theorem record (r : Registry) (place : Nat) (serial : SerialNumber) (standing : Standing) :
    r.Extends (r.record place serial standing) := by
  intro other a ha
  refine ⟨_, by rw [get?_record, ha]; rfl, ?_⟩
  split
  · exact .record a serial standing
  · exact .refl a

end Extends

end Registry

/-! ### Links -/

/-- **How the authority at a place is bound** to its key and to whoever certified it. -/
structure IsLinked (r : Registry) (place : Nat) (a : Authority) : Prop where
  /-- The key in its certificate is its own. -/
  key : a.certificate.body.key = a.key.publicKey.info
  /-- A root has certified itself. -/
  root : a.parent = none → a.certificate.body.issuer = a.certificate.body.subject
    ∧ a.certificate.IsSignedBy a.key
  /-- Any other authority comes after its issuer, which has signed the certificate and remembers
  it. -/
  child : ∀ parent, a.parent = some parent → parent < place ∧ ∃ b, r.get? parent = some b
    ∧ a.certificate.body.issuer = b.certificate.body.subject ∧ a.certificate.IsSignedBy b.key
    ∧ (Keyed.get? b.issued a.certificate.body.serial).isSome = true

theorem Stays.isLinked {a b : Authority} {r r' : Registry} {place : Nat} (hab : a.Stays b)
    (hr : r.Extends r') (h : a.IsLinked r place) : b.IsLinked r' place := by
  obtain ⟨hkey, hroot, hchild⟩ := h
  constructor
  · rw [hab.certificate, hab.key, hkey]
  · rw [hab.parent, hab.certificate, hab.key]
    exact hroot
  · intro parent hparent
    rw [hab.parent] at hparent
    obtain ⟨hlt, issuer, hissuer, hname, hsigned, hissued⟩ := hchild parent hparent
    obtain ⟨later, hlater, hstays⟩ := hr parent issuer hissuer
    rw [hab.certificate]
    refine ⟨hlt, later, hlater, ?_, ?_, hstays.issued _ hissued⟩
    · rw [hstays.certificate, hname]
    · rw [hstays.key]
      exact hsigned

namespace Registry

/-- Every authority is bound to its key and its issuer. -/
def IsLinked (r : Registry) : Prop := ∀ place a, r.get? place = some a → a.IsLinked r place

/-- Every revocation that is written down has a time in the calendar. -/
def IsDated (r : Registry) : Prop :=
  ∀ place a, r.get? place = some a → ∀ serial moment reason,
    Keyed.get? a.issued serial = some (.revoked moment reason) →
      ∃ time, Der.Time.ofInstant? moment = some time

namespace IsLinked

variable {r : Registry}

theorem empty : IsLinked {} := by
  intro place a h
  cases h

/-- An authority that is bound may be added. -/
theorem add (hr : r.IsLinked) {new : Authority} (hnew : new.IsLinked (r.add new) r.size) :
    (r.add new).IsLinked := by
  intro place a ha
  rw [get?_add] at ha
  split at ha
  · next hplace =>
      cases ha
      exact hplace ▸ hnew
  · exact (Stays.refl a).isLinked (Extends.add r new) (hr place a ha)

theorem record (hr : r.IsLinked) (place : Nat) (serial : SerialNumber) (standing : Standing) :
    (r.record place serial standing).IsLinked := by
  intro other b hb
  rw [get?_record, Option.map_eq_some_iff] at hb
  obtain ⟨a, ha, rfl⟩ := hb
  have hstays : a.Stays (if place = other then a.record serial standing else a) := by
    split
    · exact .record a serial standing
    · exact .refl a
  exact hstays.isLinked (Extends.record r place serial standing) (hr other a ha)

end IsLinked

namespace IsDated

variable {r : Registry}

theorem empty : IsDated {} := by
  intro place a h
  cases h

theorem add (hr : r.IsDated) {new : Authority} (hnew : new.issued = []) : (r.add new).IsDated := by
  intro place a ha serial moment reason h
  rw [get?_add] at ha
  split at ha
  · cases ha
    rw [hnew] at h
    cases h
  · exact hr place a ha serial moment reason h

theorem record (hr : r.IsDated) (place : Nat) (serial : SerialNumber) {standing : Standing}
    (hstanding : ∀ moment reason, standing = .revoked moment reason →
      ∃ time, Der.Time.ofInstant? moment = some time) :
    (r.record place serial standing).IsDated := by
  intro other b hb s moment reason h
  rw [get?_record, Option.map_eq_some_iff] at hb
  obtain ⟨a, ha, rfl⟩ := hb
  split at h
  · simp only [Authority.record, Keyed.get?_put] at h
    split at h
    · exact hstanding moment reason (Option.some.inj h)
    · exact hr other a ha s moment reason h
  · exact hr other a ha s moment reason h

end IsDated

/-! ### Authorities that are added -/

variable (r : Registry)

/-- **Making a root** is refused, or adds an authority that certifies itself. -/
theorem createRoot_fresh (base : Url) (plan : Plan) (draws : Draws) (now : Instant) :
    (∃ e, r.createRoot base plan draws now = (r, .error e))
      ∨ ∃ a, r.createRoot base plan draws now = (r.add a, .ok r.size) ∧ a.IsFresh a.key .root none := by
  rcases r.createRoot_made base plan draws now with hrefused | ⟨certificate, a, hcertify, ha, hmade⟩
  · exact .inl hrefused
  · obtain ⟨-, hkey, hfresh⟩ := isFresh_of_establish hcertify ha
    exact .inr ⟨a, hmade, hkey ▸ hfresh⟩

/-- **Making an intermediate authority** is refused, perhaps after its certificate was written down,
or adds an authority that its issuer certifies and remembers. -/
theorem createIntermediate_fresh (parent : Nat) (plan : Plan) (draws : Draws) (now : Instant) :
    (∃ e, r.createIntermediate parent plan draws now = (r, .error e))
      ∨ (∃ e serial, r.createIntermediate parent plan draws now
          = (r.record parent serial .valid, .error e))
      ∨ ∃ a issuer, r.get? parent = some issuer
        ∧ r.createIntermediate parent plan draws now
          = ((r.record parent a.certificate.body.serial .valid).add a, .ok r.size)
        ∧ a.IsFresh issuer.key (.subordinate issuer.subject) (some parent) := by
  rcases r.createIntermediate_made parent plan draws now with
    hrefused | ⟨issuer, certificate, hissuer, hcertify, ⟨e, -, hmade⟩ | ⟨a, ha, hmade⟩⟩
  · exact .inl hrefused
  · exact .inr (.inl ⟨e, _, hmade⟩)
  · obtain ⟨rfl, -, hfresh⟩ := isFresh_of_establish hcertify ha
    exact .inr (.inr ⟨a, issuer, hissuer, hmade, hfresh⟩)

/-! ### What each operation keeps -/

/-- What an operation keeps: everybody, how they are bound, and, if the clock is in the calendar, that
revocations have a time there. -/
structure Keeps (r r' : Registry) (now : Instant) : Prop where
  everybody : r.Extends r'
  links : r.IsLinked → r'.IsLinked
  dates : (∃ time, Der.Time.ofInstant? now = some time) → r.IsDated → r'.IsDated

namespace Keeps

variable (r : Registry)

theorem refl (now : Instant) : r.Keeps r now :=
  ⟨Extends.refl r, fun h => h, fun _ h => h⟩

theorem trans {r r' r'' : Registry} {now : Instant} (h : r.Keeps r' now) (h' : r'.Keeps r'' now) :
    r.Keeps r'' now :=
  ⟨h.everybody.trans h'.everybody, fun hr => h'.links (h.links hr),
    fun hnow hr => h'.dates hnow (h.dates hnow hr)⟩

theorem valid (place : Nat) (serial : SerialNumber) (now : Instant) :
    r.Keeps (r.record place serial .valid) now where
  everybody := Extends.record r place serial .valid
  links := fun h => h.record place serial .valid
  dates := fun _ h => h.record place serial (by simp)

/-- A new authority that is bound leaves the others as they are. -/
theorem add {new : Authority} (hnew : new.IsLinked (r.add new) r.size) (hissued : new.issued = [])
    (now : Instant) : r.Keeps (r.add new) now :=
  ⟨Extends.add r new, fun h => h.add hnew, fun _ h => h.add hissued⟩

end Keeps

theorem keeps_createRoot (base : Url) (plan : Plan) (draws : Draws) (now : Instant) :
    r.Keeps (r.createRoot base plan draws now).1 now := by
  rcases r.createRoot_fresh base plan draws now with ⟨e, h⟩ | ⟨a, h, hfresh⟩
  · rw [h]
    exact Keeps.refl r now
  · obtain ⟨⟨hkey, hissuer, hsigned⟩, hparent, hissued⟩ := hfresh
    rw [h]
    exact Keeps.add r ⟨hkey, fun _ => ⟨hissuer, hsigned⟩, by simp [hparent]⟩ hissued now

theorem keeps_createIntermediate (parent : Nat) (plan : Plan) (draws : Draws) (now : Instant) :
    r.Keeps (r.createIntermediate parent plan draws now).1 now := by
  rcases r.createIntermediate_fresh parent plan draws now with
    ⟨e, h⟩ | ⟨e, serial, h⟩ | ⟨a, issuer, hissuer, h, hfresh⟩
  · rw [h]
    exact Keeps.refl r now
  · rw [h]
    exact Keeps.valid r parent serial now
  · obtain ⟨⟨hkey, hname, hsigned⟩, hparent, hissued⟩ := hfresh
    rw [h]
    refine (Keeps.valid r parent a.certificate.body.serial now).trans
      (Keeps.add _ ⟨hkey, by simp [hparent], ?_⟩ hissued now)
    -- the issuer stands before the new authority, and has just written down its certificate
    rintro p hp
    obtain rfl : parent = p := by simpa [hparent] using hp
    have hlt := lt_size_of_get? hissuer
    rw [size_record]
    refine ⟨hlt, issuer.record a.certificate.body.serial .valid, ?_, hname, hsigned, ?_⟩
    · rw [get?_add, size_record, if_neg (Nat.ne_of_lt hlt), get?_record, hissuer]
      simp
    · simp [Authority.record, Keyed.get?_put]

theorem keeps_issue (place : Nat) (commonName : String) (key : PublicKeyInfo) (draw : Octets)
    (now : Instant) : r.Keeps (r.issue place commonName key draw now).1 now := by
  rcases r.issue_cases place commonName key draw now with ⟨e, h⟩ | ⟨c, h, -, -⟩
  · rw [h]
    exact Keeps.refl r now
  · rw [h]
    exact Keeps.valid r place c.body.serial now

theorem keeps_revoke (place : Nat) (serial : SerialNumber) (reason : Option Ocsp.Reason)
    (now : Instant) : r.Keeps (r.revoke place serial reason now).1 now := by
  rcases r.revoke_cases place serial reason now with ⟨e, -, h⟩ | ⟨a, standing, -, -, h⟩
  · rw [h]
    exact Keeps.refl r now
  · rw [h]
    refine ⟨Extends.record r place serial _, fun hr => hr.record place serial _, fun hnow hr => ?_⟩
    refine hr.record place serial ?_
    rintro moment reason' ⟨⟩
    exact hnow

/-! ### Who is made by whom -/

variable {r}

/-- A root that is made is established under its base, at the end. -/
theorem made_of_createRoot {base : Url} {plan : Plan} {draws : Draws} {now : Instant}
    {place : Nat} (h : (r.createRoot base plan draws now).2 = .ok place) :
    ∃ certificate a,
      certify plan.key .root plan.validity plan.commonName plan.key.publicKey.info draws.serial now
        = .ok certificate
      ∧ establish base certificate plan none draws.id = .ok a ∧ place = r.size
      ∧ (r.createRoot base plan draws now).1 = r.add a := by
  rcases r.createRoot_made base plan draws now with ⟨e, hmade⟩ | ⟨certificate, a, hcertify, ha, hmade⟩
  · rw [hmade] at h
    cases h
  · rw [hmade] at h ⊢
    cases h
    exact ⟨certificate, a, hcertify, ha, rfl, rfl⟩

/-- An intermediate authority that is made is established under the base of its issuer, at the end. -/
theorem made_of_createIntermediate {parent : Nat} {plan : Plan} {draws : Draws} {now : Instant}
    {place : Nat} (h : (r.createIntermediate parent plan draws now).2 = .ok place) :
    ∃ issuer certificate a, r.get? parent = some issuer
      ∧ certify issuer.key (.subordinate issuer.subject) issuer.validity plan.commonName
          plan.key.publicKey.info draws.serial now = .ok certificate
      ∧ establish issuer.base certificate plan (some parent) draws.id = .ok a ∧ place = r.size
      ∧ (r.createIntermediate parent plan draws now).1
        = (r.record parent certificate.body.serial .valid).add a := by
  rcases r.createIntermediate_made parent plan draws now with
    ⟨e, hmade⟩ | ⟨issuer, certificate, hissuer, hcertify, ⟨e, -, hmade⟩ | ⟨a, ha, hmade⟩⟩
  · rw [hmade] at h
    cases h
  · rw [hmade] at h
    cases h
  · rw [hmade] at h ⊢
    cases h
    exact ⟨issuer, certificate, a, hissuer, hcertify, ha, rfl, rfl⟩

/-- A root that is made has no parent. -/
theorem parent_createRoot {base : Url} {plan : Plan} {draws : Draws} {now : Instant}
    {place : Nat} (h : (r.createRoot base plan draws now).2 = .ok place) :
    ∃ a, (r.createRoot base plan draws now).1.get? place = some a ∧ a.parent = none := by
  obtain ⟨certificate, a, -, hestablish, rfl, hadd⟩ := made_of_createRoot h
  exact ⟨a, by rw [hadd, get?_add, if_pos rfl], (establish_eq_ok hestablish).2.2.1⟩

/-- An intermediate authority that is made has its issuer as the parent, whose key has signed its
certificate. -/
theorem parent_createIntermediate {parent : Nat} {plan : Plan} {draws : Draws} {now : Instant}
    {place : Nat} (h : (r.createIntermediate parent plan draws now).2 = .ok place) :
    ∃ a issuer, (r.createIntermediate parent plan draws now).1.get? place = some a
      ∧ a.parent = some parent ∧ r.get? parent = some issuer
      ∧ a.certificate.IsSignedBy issuer.key := by
  obtain ⟨issuer, certificate, a, hissuer, hcertify, hestablish, rfl, hadd⟩ :=
    made_of_createIntermediate h
  obtain ⟨hcertificate, -, hparent, -⟩ := establish_eq_ok hestablish
  refine ⟨a, issuer, by rw [hadd, get?_add, size_record, if_pos rfl], hparent, hissuer, ?_⟩
  rw [hcertificate]
  exact (isMade_of_certify hcertify).signed

/-- The certificate of a root that is made is certified by its own key. -/
theorem certify_of_createRoot {base : Url} {plan : Plan} {draws : Draws} {now : Instant}
    {place : Nat} {a : Authority} (h : (r.createRoot base plan draws now).2 = .ok place)
    (ha : (r.createRoot base plan draws now).1.get? place = some a) :
    certify plan.key .root plan.validity plan.commonName plan.key.publicKey.info draws.serial now
      = .ok a.certificate := by
  obtain ⟨certificate, b, hcertify, hestablish, rfl, hadd⟩ := made_of_createRoot h
  rw [hadd, get?_add, if_pos rfl] at ha
  cases ha
  rw [(establish_eq_ok hestablish).1]
  exact hcertify

/-- The certificate of an intermediate authority that is made is certified by its issuer. -/
theorem certify_of_createIntermediate {parent : Nat} {plan : Plan} {draws : Draws} {now : Instant}
    {place : Nat} {a : Authority} (h : (r.createIntermediate parent plan draws now).2 = .ok place)
    (ha : (r.createIntermediate parent plan draws now).1.get? place = some a) :
    ∃ issuer, r.get? parent = some issuer
      ∧ certify issuer.key (.subordinate issuer.subject) issuer.validity plan.commonName
          plan.key.publicKey.info draws.serial now = .ok a.certificate := by
  obtain ⟨issuer, certificate, b, hissuer, hcertify, hestablish, rfl, hadd⟩ :=
    made_of_createIntermediate h
  rw [hadd, get?_add, size_record, if_pos rfl] at ha
  cases ha
  rw [(establish_eq_ok hestablish).1]
  exact ⟨issuer, hissuer, hcertify⟩

/-- A certificate that is issued is certified by its issuer. -/
theorem certify_of_issue {place : Nat} {commonName : String} {key : PublicKeyInfo} {draw : Octets}
    {now : Instant} {c : Certificate} (h : (r.issue place commonName key draw now).2 = .ok c) :
    ∃ issuer, r.get? place = some issuer
      ∧ certify issuer.key (.leaf issuer.subject) issuer.validity commonName key draw now
        = .ok c := by
  unfold issue at h
  split at h
  · cases h
  · next issuer hissuer =>
      split at h
      · cases h
      · next certificate hcertify =>
          cases h
          exact ⟨issuer, hissuer, hcertify⟩

/-- A certificate that is issued is signed by its issuer. -/
theorem signed_issue {r : Registry} {place : Nat} {commonName : String} {key : PublicKeyInfo}
    {draw : Octets} {now : Instant} {c : Certificate}
    (h : (r.issue place commonName key draw now).2 = .ok c) :
    ∃ issuer, r.get? place = some issuer ∧ c.IsSignedBy issuer.key := by
  obtain ⟨issuer, hissuer, hcertify⟩ := certify_of_issue h
  exact ⟨issuer, hissuer, (isMade_of_certify hcertify).signed⟩

/-! ### Chains -/

/-- The chain of an authority is its certificate and the chain of its issuer. -/
theorem chain_of_get? {r : Registry} (hr : r.IsLinked) {place : Nat} {a : Authority}
    (ha : r.get? place = some a) :
    r.chain place = a.certificate :: (a.parent.map r.chain).getD [] := by
  rw [chain]
  simp only [ha]
  cases hparent : a.parent with
  | none => simp
  | some parent => simp [((hr place a ha).child parent hparent).1]

end Registry

end Authority

end RevocationLab
