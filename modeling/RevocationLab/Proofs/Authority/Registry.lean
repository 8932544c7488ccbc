/-
**What each operation does to the authorities.**

An operation is refused and leaves the authorities as they were, or it adds one authority, writes one
standing, or does both.  An intermediate authority is never refused after its certificate was written
down: the name in the certificate was written, so that it has digests, and the addresses lie under a
base to which those of the issuer were joined before.

Main definitions:

* `Authority.IsSound`, `Authority.Registry.IsSound` — what holds of every authority that is made.

Main results:

* `Authority.certify_eq_clockOverflow_iff` — when making a certificate breaks off;
* `Authority.Registry.createRoot_made`, `Authority.Registry.createIntermediate_made` — the steps of
  making an authority;
* `Authority.Registry.createRoot_cases`, `Authority.Registry.createIntermediate_cases`,
  `Authority.Registry.issue_cases`, `Authority.Registry.revoke_cases` — **what each operation does**;
* `Authority.Registry.exists_of_mem_chain` — every certificate of a chain is that of an authority.
-/

import RevocationLab.Authority.Registry
import RevocationLab.Proofs.Url.Join
import RevocationLab.Proofs.X509.Certificate

set_option autoImplicit false

namespace RevocationLab

open X509

namespace Authority

/-! ### Certificates -/

theorem serial_of_sign? {d : Draft} {signer : Rsa.KeyPair} {c : Certificate}
    (h : d.sign? signer = some c) : c.body.serial = d.serial ∧ c.body.subject = d.subject := by
  simp only [Draft.sign?, Option.bind_eq_bind, Option.bind_eq_some_iff, Option.pure_def,
    Option.some.injEq] at h
  obtain ⟨octets, -, signature, -, rfl⟩ := h
  exact ⟨rfl, rfl⟩

/-- The name in a certificate that was written can be written. -/
theorem length_subject_of_sign? {d : Draft} {signer : Rsa.KeyPair} {c : Certificate}
    (h : d.sign? signer = some c) : c.body.subject.encode.length ≤ Der.maxLength := by
  simp only [Draft.sign?, Option.bind_eq_bind, Option.bind_eq_some_iff, Option.pure_def,
    Option.some.injEq] at h
  obtain ⟨octets, hsealed, signature, -, rfl⟩ := h
  have hbody : (d.body signer).encode.length ≤ Der.maxLength := by
    unfold Der.sealed? at hsealed
    split at hsealed
    · assumption
    · cases hsealed
  have hparts := Der.content_length_le hbody
  simp only [List.length_append] at hparts ⊢
  omega

section

variable {signer : Rsa.KeyPair} {role : Role} {lifetime : Duration} {commonName : String}
  {key : PublicKeyInfo} {draw : Octets} {now : Instant} {c : Certificate}

theorem certify_eq_ok_iff :
    certify signer role lifetime commonName key draw now = .ok c ↔
      ∃ subject validity, Name.ofCommonName? commonName = some subject
        ∧ Validity.lasting now lifetime = .ok validity
        ∧ Draft.sign? ⟨role, SerialNumber.ofDraw draw, validity, subject, key⟩ signer = some c := by
  unfold certify
  constructor
  · intro h
    split at h
    · next subject validity hsubject hvalidity =>
        split at h
        · next certificate hsign =>
            cases h
            exact ⟨subject, validity, hsubject, hvalidity, hsign⟩
        · cases h
    · cases h
    · cases h
    · cases h
  · rintro ⟨subject, validity, hsubject, hvalidity, hsign⟩
    rw [hsubject, hvalidity]
    simp only [hsign]

/-- **Making a certificate breaks off** exactly if the clock cannot say its end, except that the name of
an authority is refused before the clock is read. -/
theorem certify_eq_clockOverflow_iff :
    certify signer role lifetime commonName key draw now = .error .clockOverflow ↔
      Instant.last.nanoseconds < now.nanoseconds + lifetime.nanoseconds
        ∧ (role.isAuthority = true → ∃ subject, Name.ofCommonName? commonName = some subject) := by
  rw [← Validity.lasting_eq_clockOverflow_iff]
  unfold certify
  cases Validity.lasting now lifetime with
  | ok validity =>
      cases Name.ofCommonName? commonName with
      | none => simp
      | some subject =>
          simp only
          split <;> simp
  | error e =>
      cases e <;> cases Name.ofCommonName? commonName <;> cases role.isAuthority <;> simp

/-- The serial number of a certificate that is made is the one that was drawn for it. -/
theorem serial_of_certify
    (h : certify signer role lifetime commonName key draw now = .ok c) :
    c.body.serial = SerialNumber.ofDraw draw := by
  obtain ⟨subject, validity, -, -, hsign⟩ := certify_eq_ok_iff.1 h
  exact (serial_of_sign? hsign).1

/-- **The certificate of an authority is regular**, whoever certifies it. -/
theorem isRegular_of_certify {key : Rsa.PublicKey}
    (h : certify signer role lifetime commonName key.info draw now = .ok c)
    (hdraw : draw.length = 16) (hissuer : ∀ n : Name, n.IsOrdered → (role.issuer n).IsOrdered) :
    c.IsRegular := by
  obtain ⟨subject, validity, hsubject, hvalidity, hsign⟩ := certify_eq_ok_iff.1 h
  have hordered := Name.isOrdered_ofCommonName? hsubject
  exact Draft.isRegular_of_sign? hsign (SerialNumber.isReadable_ofDraw hdraw)
    (hissuer subject hordered) (Validity.inForm_lasting hvalidity) hordered
    AlgorithmIdentifier.isReadable_rsaEncryption ⟨_, rfl⟩

/-- The name in a certificate that is made can be written, so that it has digests. -/
theorem length_subject_of_certify
    (h : certify signer role lifetime commonName key draw now = .ok c) :
    c.body.subject.encode.length ≤ Der.maxLength := by
  obtain ⟨subject, validity, -, -, hsign⟩ := certify_eq_ok_iff.1 h
  exact length_subject_of_sign? hsign

end

/-! ### Addresses -/

section

variable {base : Url} {certificate : Certificate}

/-- An authority whose base is opaque has no addresses. -/
theorem establish_of_isOpaque (h : base.isOpaque = true)
    (hsubject : certificate.body.subject.encode.length ≤ Der.maxLength) (plan : Plan)
    (parent : Option Nat) (draw : Octets) :
    establish base certificate plan parent draw = .error (.url .relativeToOpaque) := by
  have hcertificate := (Uuid.ofDraw draw).isSegment_toText (s := "") (by simp)
  have hurl := Url.join_of_isOpaque hcertificate h
  rw [String.empty_append] at hurl
  simp only [establish, Ocsp.IssuerHashes.of?_eq_some hsubject, hurl]

/-- **An authority is established under every other base**, for a certificate whose name can be
written. -/
theorem exists_establish (h : base.isOpaque = false)
    (hsubject : certificate.body.subject.encode.length ≤ Der.maxLength) (plan : Plan)
    (parent : Option Nat) (draw : Octets) :
    ∃ a, establish base certificate plan parent draw = .ok a ∧ a.certificate = certificate
      ∧ a.key = plan.key ∧ a.parent = parent ∧ a.base = base ∧ a.issued = [] := by
  have hcertificate := (Uuid.ofDraw draw).isSegment_toText (s := "") (by simp)
  have hocsp := (Uuid.ofDraw draw).isSegment_toText (s := "ocsp-") (List.all_eq_true.1 (by decide))
  obtain ⟨certificateUrl, hcertificateUrl⟩ := Url.exists_join hcertificate h
  obtain ⟨ocspUrl, hocspUrl⟩ := Url.exists_join hocsp h
  rw [String.empty_append] at hcertificateUrl
  simp only [establish, Ocsp.IssuerHashes.of?_eq_some hsubject, hcertificateUrl, hocspUrl]
  exact ⟨_, rfl, rfl, rfl, rfl, rfl, rfl⟩

end

/-! ### Soundness -/

/-- What holds of every authority that is made: its addresses lie under a base, and its certificate is
regular. -/
structure IsSound (a : Authority) : Prop where
  base : a.base.isOpaque = false
  certificate : a.certificate.IsRegular

namespace Registry

/-! ### Looking -/

theorem size_add (r : Registry) (a : Authority) : (r.add a).size = r.size + 1 := by
  simp [add, size]

theorem size_record (r : Registry) (place : Nat) (serial : SerialNumber) (standing : Standing) :
    (r.record place serial standing).size = r.size := by
  simp [record, size]

theorem lt_size_of_get? {r : Registry} {place : Nat} {a : Authority} (h : r.get? place = some a) :
    place < r.size := (List.getElem?_eq_some_iff.1 h).1

/-- The new authority stands at the end. -/
theorem get?_add (r : Registry) (a : Authority) (place : Nat) :
    (r.add a).get? place = if place = r.size then some a else r.get? place := by
  unfold get? add size
  rw [List.getElem?_append]
  split_ifs with hlt heq heq
  · omega
  · rfl
  · subst heq
    simp
  · rw [List.getElem?_eq_none (by simp; omega), List.getElem?_eq_none (by omega)]

/-- **A standing is written at one place only.** -/
theorem get?_record (r : Registry) (place other : Nat) (serial : SerialNumber) (standing : Standing) :
    (r.record place serial standing).get? other
      = (r.get? other).map fun a => if place = other then a.record serial standing else a := by
  unfold get? record
  rw [List.getElem?_modify]
  cases r.list[other]? with
  | none => rfl
  | some a =>
      simp only [Option.map_some]
      split_ifs <;> rfl

/-! ### Soundness is kept -/

/-- Every authority is sound. -/
def IsSound (r : Registry) : Prop := ∀ place a, r.get? place = some a → a.IsSound

namespace IsSound

variable {r : Registry}

theorem empty : IsSound {} := by
  intro place a h
  cases h

theorem add (hr : r.IsSound) {a : Authority} (ha : a.IsSound) : (r.add a).IsSound := by
  intro place b hb
  rw [get?_add] at hb
  split at hb
  · cases hb
    exact ha
  · exact hr place b hb

/-- Writing a standing keeps soundness. -/
theorem record (hr : r.IsSound) (place : Nat) (serial : SerialNumber) (standing : Standing) :
    (r.record place serial standing).IsSound := by
  intro other b hb
  rw [get?_record, Option.map_eq_some_iff] at hb
  obtain ⟨a, ha, rfl⟩ := hb
  obtain ⟨hbase, hcertificate⟩ := hr other a ha
  split
  · exact ⟨hbase, hcertificate⟩
  · exact ⟨hbase, hcertificate⟩

end IsSound

/-! ### What each operation does -/

/-- Making a root is refused, or adds the authority that is established. -/
theorem createRoot_made (r : Registry) (base : Url) (plan : Plan) (draws : Draws) (now : Instant) :
    (∃ e, r.createRoot base plan draws now = (r, .error e))
      ∨ ∃ certificate a,
        certify plan.key .root plan.validity plan.commonName plan.key.publicKey.info draws.serial now
          = .ok certificate
        ∧ establish base certificate plan none draws.id = .ok a
        ∧ r.createRoot base plan draws now = (r.add a, .ok r.size) := by
  unfold createRoot
  cases hcertify : certify plan.key .root plan.validity plan.commonName plan.key.publicKey.info
      draws.serial now with
  | error e => exact .inl ⟨e, rfl⟩
  | ok certificate =>
      cases hestablish : establish base certificate plan none draws.id with
      | error e => exact .inl ⟨e, by simp only [hestablish]⟩
      | ok a => exact .inr ⟨certificate, a, rfl, hestablish, by simp only [hestablish]⟩

/-- Making an intermediate authority is refused, perhaps after its certificate was written down, or adds
the authority that is established under the base of its issuer. -/
theorem createIntermediate_made (r : Registry) (parent : Nat) (plan : Plan) (draws : Draws)
    (now : Instant) :
    (∃ e, r.createIntermediate parent plan draws now = (r, .error e))
      ∨ ∃ issuer certificate, r.get? parent = some issuer
        ∧ certify issuer.key (.subordinate issuer.subject) issuer.validity plan.commonName
            plan.key.publicKey.info draws.serial now = .ok certificate
        ∧ ((∃ e, establish issuer.base certificate plan (some parent) draws.id = .error e
            ∧ r.createIntermediate parent plan draws now
              = (r.record parent certificate.body.serial .valid, .error e))
          ∨ ∃ a, establish issuer.base certificate plan (some parent) draws.id = .ok a
            ∧ r.createIntermediate parent plan draws now
              = ((r.record parent certificate.body.serial .valid).add a, .ok r.size)) := by
  unfold createIntermediate
  cases hissuer : r.get? parent with
  | none => exact .inl ⟨_, rfl⟩
  | some issuer =>
      simp only
      cases hcertify : certify issuer.key (.subordinate issuer.subject) issuer.validity
          plan.commonName plan.key.publicKey.info draws.serial now with
      | error e => exact .inl ⟨e, rfl⟩
      | ok certificate =>
          refine .inr ⟨issuer, certificate, rfl, hcertify, ?_⟩
          cases hestablish : establish issuer.base certificate plan (some parent) draws.id with
          | error e => exact .inl ⟨e, rfl, by simp only [hestablish]⟩
          | ok a => exact .inr ⟨a, rfl, by simp only [hestablish, size_record]⟩

/-- **Making a root** is refused, or adds one authority with nothing issued. -/
theorem createRoot_cases (r : Registry) (base : Url) (plan : Plan) {draws : Draws}
    (hdraws : draws.serial.length = 16) (now : Instant) :
    (∃ e, r.createRoot base plan draws now = (r, .error e))
      ∨ ∃ a, r.createRoot base plan draws now = (r.add a, .ok r.size) ∧ a.IsSound
        ∧ a.issued = [] := by
  rcases r.createRoot_made base plan draws now with hrefused | ⟨certificate, a, hcertify, ha, hmade⟩
  · exact .inl hrefused
  · have hsubject := length_subject_of_certify hcertify
    -- the base decides alone: nothing is joined to an opaque one, and everything to any other
    cases hbase : base.isOpaque with
    | true =>
        rw [establish_of_isOpaque hbase hsubject] at ha
        cases ha
    | false =>
        obtain ⟨b, hb, rfl, -, -, rfl, hissued⟩ :=
          exists_establish hbase hsubject plan none draws.id
        obtain rfl : b = a := Except.ok.inj (hb.symm.trans ha)
        exact .inr ⟨b, hmade, ⟨hbase, isRegular_of_certify hcertify hdraws fun _ hn => hn⟩, hissued⟩

/-- **Making an intermediate authority** is refused, or adds one authority with nothing issued and
writes down that its issuer issued the certificate. -/
theorem createIntermediate_cases {r : Registry} (hr : r.IsSound) (parent : Nat) (plan : Plan)
    {draws : Draws} (hdraws : draws.serial.length = 16) (now : Instant) :
    (∃ e, r.createIntermediate parent plan draws now = (r, .error e))
      ∨ ∃ a, r.createIntermediate parent plan draws now
          = ((r.record parent a.certificate.body.serial .valid).add a, .ok r.size)
        ∧ parent < r.size ∧ a.IsSound ∧ a.issued = [] := by
  rcases r.createIntermediate_made parent plan draws now with
    hrefused | ⟨issuer, certificate, hissuer, hcertify, hend⟩
  · exact .inl hrefused
  · -- the certificate is written down first, but then nothing is refused any more
    have hsound := hr parent issuer hissuer
    obtain ⟨a, ha, rfl, -, -, hbase, hissued⟩ :=
      exists_establish hsound.base (length_subject_of_certify hcertify) plan (some parent) draws.id
    rcases hend with ⟨e, he, -⟩ | ⟨b, hb, hmade⟩
    · rw [ha] at he
      cases he
    · obtain rfl : a = b := Except.ok.inj (ha.symm.trans hb)
      refine .inr ⟨a, hmade, lt_size_of_get? hissuer, ⟨?_, ?_⟩, hissued⟩
      · rw [hbase]
        exact hsound.base
      · exact isRegular_of_certify hcertify hdraws fun _ _ => hsound.certificate.body.subject

/-- **Issuing a certificate** is refused, or writes it down. -/
theorem issue_cases (r : Registry) (place : Nat) (commonName : String) (key : PublicKeyInfo)
    (draw : Octets) (now : Instant) :
    (∃ e, r.issue place commonName key draw now = (r, .error e))
      ∨ ∃ c, r.issue place commonName key draw now
          = (r.record place c.body.serial .valid, .ok c)
        ∧ c.body.serial = SerialNumber.ofDraw draw ∧ place < r.size := by
  unfold issue
  cases hissuer : r.get? place with
  | none => exact .inl ⟨_, rfl⟩
  | some issuer =>
      simp only
      cases hcertify : certify issuer.key (.leaf issuer.subject) issuer.validity commonName key draw
          now with
      | error e => exact .inl ⟨e, rfl⟩
      | ok c => exact .inr ⟨c, rfl, serial_of_certify hcertify, lt_size_of_get? hissuer⟩

/-- **Revoking a certificate** is refused of one that was not issued, and is written down of one that
was. -/
theorem revoke_cases (r : Registry) (place : Nat) (serial : SerialNumber)
    (reason : Option Ocsp.Reason) (now : Instant) :
    (∃ e, (∀ a, r.get? place = some a → Keyed.get? a.issued serial = none)
        ∧ r.revoke place serial reason now = (r, .error e))
      ∨ ∃ a standing, r.get? place = some a ∧ Keyed.get? a.issued serial = some standing
        ∧ r.revoke place serial reason now
          = (r.record place serial (.revoked now reason), .ok ()) := by
  unfold revoke
  cases ha : r.get? place with
  | none => exact .inl ⟨_, by simp, rfl⟩
  | some a =>
      simp only
      cases hissued : Keyed.get? a.issued serial with
      | none => exact .inl ⟨_, by rintro b ⟨⟩; exact hissued, rfl⟩
      | some standing => exact .inr ⟨a, standing, rfl, hissued, rfl⟩

/-! ### Chains -/

/-- A chain starts with the certificate of its authority. -/
theorem certificate_mem_chain {r : Registry} {place : Nat} {a : Authority}
    (h : r.get? place = some a) : a.certificate ∈ r.chain place := by
  rw [chain, h]
  simp only
  split
  · exact List.mem_singleton_self _
  · split <;> exact List.mem_cons_self

/-- **Every certificate of a chain is that of an authority.** -/
theorem exists_of_mem_chain {r : Registry} {place : Nat} {c : Certificate}
    (h : c ∈ r.chain place) : ∃ other a, r.get? other = some a ∧ c = a.certificate := by
  -- on the place, since a chain goes on at the issuer only if that stands before
  induction place using Nat.strongRecOn with
  | ind place ih =>
      rw [chain] at h
      split at h
      · cases h
      · next a ha =>
          split at h
          · exact ⟨place, a, ha, List.mem_singleton.1 h⟩
          · next parent hparent =>
              split at h
              · next hlt =>
                  rcases List.mem_cons.1 h with rfl | h
                  · exact ⟨place, a, ha, rfl⟩
                  · exact ih parent hlt h
              · exact ⟨place, a, ha, List.mem_singleton.1 h⟩

end Registry

end Authority

end RevocationLab
