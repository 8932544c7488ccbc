/-
**Which certificates are read back.**

A certificate that is made here has the third version, a serial number in its only form, times in the
form that belongs to their year, a key of whole octets, and no identifiers of issuer and subject.  All
of it is read back; what may fail is a name with an attribute of a kind that no decoder accepts.

Main definitions:

* `X509.Time.InForm` — a time in a form that can say its year;
* `X509.Body.IsRegular`, `X509.Certificate.IsRegular` — what is read back of a certificate;
* `X509.Certificate.hasReadableNames`.

Main results:

* `X509.Validity.lasting_eq_clockOverflow_iff`, `X509.Validity.exists_times_of_lasting` — which lifetimes
  there are, and the times of a certificate;
* `X509.Body.readsBack`, `X509.Certificate.readsBack` — **a regular certificate reads back exactly if
  its names are readable**;
* `X509.Draft.isRegular_of_sign?` — **a certificate that is signed here is regular**.
-/

import RevocationLab.Proofs.Der.Time
import RevocationLab.Proofs.X509.Name
import RevocationLab.X509.Issuing

set_option autoImplicit false

namespace RevocationLab

open Der

namespace X509

/-! ### Times -/

namespace Time

/-- The form of the time can say its year. -/
def InForm : Time → Prop
  | utc t => t.seconds ≤ Der.Time.lastShortSecond
  | generalized _ => True

theorem inForm_ofTime (t : Der.Time) : (ofTime t).InForm := by
  unfold ofTime
  split
  · next h => exact h
  · trivial

/-- **A time in its form reads back.** -/
theorem readsBack {t : Time} (h : t.InForm) : Decoder.ReadsBack decoder t.encode t true := by
  intro rest
  cases t with
  | utc t =>
      have ht : Tag.isKnown Tag.utcTime = true := by decide
      have htag : Decoder.nextTag.run (t.utc ++ rest) = some (some Tag.utcTime, t.utc ++ rest) :=
        Decoder.run_nextTag_cons ht
      rw [decoder, Decoder.run_bind, encode, htag]
      exact (Decoder.ReadsBack.utcTime h).map utc rest
  | generalized t =>
      have ht : Tag.isKnown Tag.generalizedTime = true := by decide
      have htag : Decoder.nextTag.run (t.generalized ++ rest)
          = some (some Tag.generalizedTime, t.generalized ++ rest) := Decoder.run_nextTag_cons ht
      rw [decoder, Decoder.run_bind, encode, htag]
      exact (Decoder.ReadsBack.generalizedTime t).map generalized rest

theorem length_encode_le (t : Time) : t.encode.length ≤ 17 := by
  cases t with
  | utc t => exact Nat.le_of_ble_eq_true rfl
  | generalized t => exact Nat.le_of_ble_eq_true rfl

end Time

namespace Validity

/-- Both ends are in their forms. -/
def InForm (v : Validity) : Prop := v.notBefore.InForm ∧ v.notAfter.InForm

/-- **A validity reads back** if its ends are in their forms. -/
theorem readsBack {v : Validity} (h : v.InForm) : Decoder.ReadsBack decoder v.encode v true := by
  obtain ⟨hfirst, hlast⟩ := h
  have hlen : (v.notBefore.encode ++ v.notAfter.encode).length ≤ maxLength := by
    have hbefore := v.notBefore.length_encode_le
    have hafter := v.notAfter.length_encode_le
    rw [List.length_append]
    unfold maxLength
    omega
  refine Decoder.ReadsBack.inside (by decide) hlen ?_
  rw [Decoder.whole_bind (Time.readsBack hfirst), Decoder.whole_bind_last (Time.readsBack hlast)]
  rfl

/-- A lifetime that the clock cannot say is told apart from one that ends after the calendar. -/
theorem lasting_eq_clockOverflow_iff {now : Instant} {lifetime : Duration} :
    lasting now lifetime = .error .clockOverflow
      ↔ Instant.last.nanoseconds < now.nanoseconds + lifetime.nanoseconds := by
  rw [← Instant.later?_eq_none_iff, ← Instant.after?]
  unfold lasting
  cases now.after? lifetime with
  | none => simp
  | some later =>
      simp only [reduceCtorEq, iff_false]
      cases Der.Time.ofInstant? now <;> cases Der.Time.ofInstant? later <;> simp

/-- A validity has the second of the clock and the second in which the lifetime ends. -/
theorem exists_times_of_lasting {now : Instant} {lifetime : Duration} {v : Validity}
    (h : lasting now lifetime = .ok v) :
    ∃ later notBefore notAfter, now.after? lifetime = some later
      ∧ Der.Time.ofInstant? now = some notBefore ∧ Der.Time.ofInstant? later = some notAfter
      ∧ v = ⟨Time.ofTime notBefore, Time.ofTime notAfter⟩ := by
  unfold lasting at h
  split at h
  · cases h
  · next later hlater =>
      split at h
      · next notBefore notAfter hfirst hlast =>
          cases h
          exact ⟨later, notBefore, notAfter, hlater, hfirst, hlast, rfl⟩
      · cases h

theorem inForm_lasting {now : Instant} {lifetime : Duration} {v : Validity}
    (h : lasting now lifetime = .ok v) : v.InForm := by
  obtain ⟨later, notBefore, notAfter, -, -, -, rfl⟩ := exists_times_of_lasting h
  exact ⟨Time.inForm_ofTime _, Time.inForm_ofTime _⟩

end Validity

/-! ### The part that is signed -/

/-- The version is read back in front of the serial number, whether it is written or not. -/
theorem Version.whole_bind {β : Type} (v : Version) {r : Octets} (hr : Decoder.Absent 0 r)
    (f : Version → Decoder β) :
    Decoder.whole (decoder >>= f) (v.encode ++ r) = Decoder.whole (f v) r := by
  have hassoc : (decoder >>= f) = Decoder.explicit 0 (Decoder.small Tag.integer ofNumber?)
      >>= fun o => f (o.getD v1) := by
    rw [decoder, bind_assoc]
    simp only [pure_bind]
  -- the first version is the default and is not written
  by_cases hv : v = v1
  · subst hv
    rw [hassoc, encode, if_pos rfl, List.nil_append, Decoder.whole_explicit_absent hr]
    rfl
  · have hnumber : v.number < 256 := by cases v <;> decide
    have hread : ofNumber? v.number = some v := by cases v <;> rfl
    have hlen : (element Tag.integer (smallContent v.number)).length ≤ maxLength := by
      cases v <;> decide
    have ht : Tag.isKnown Tag.integer = true := by decide
    rw [hassoc, encode, if_neg hv, Decoder.whole_bind (Decoder.ReadsBack.explicit (by decide) hlen
      (Decoder.ReadsBack.small ht hnumber hread).whole)]
    rfl

namespace Body

/-- What is read back, as far as the names are. -/
structure IsRegular (b : Body) : Prop where
  serial : b.serial.isReadable = true
  algorithm : b.algorithm.isReadable = true
  issuer : b.issuer.IsOrdered
  validity : b.validity.InForm
  subject : b.subject.IsOrdered
  keyAlgorithm : b.key.algorithm.isReadable = true
  key : ∃ octets, b.key.key = BitString.ofOctets octets
  issuerId : b.issuerId = none
  subjectId : b.subjectId = none
  extensions : Extension.areReadable b.extensions = true

/-- Whether both names are readable. -/
def hasReadableNames (b : Body) : Bool := b.issuer.isReadable && b.subject.isReadable

/-- **The signed part of a regular certificate reads back** exactly if its names are readable. -/
theorem readsBack {b : Body} (hb : b.IsRegular) (h : b.encode.length ≤ maxLength) :
    Decoder.ReadsBack decoder b.encode b b.hasReadableNames := by
  have hlen := content_length_le h
  have hparts := hlen
  simp only [List.length_append] at hparts
  have hfield : ∀ n < 3, Decoder.Absent n (Extension.encodeField 3 b.extensions) := by
    intro n hn
    rw [Extension.encodeField_eq]
    exact Decoder.Absent.writeField (by decide) hn _ _
  have hserial : ∀ r, Decoder.Absent 0 (b.serial.encode ++ r) :=
    fun r => Decoder.Absent.element (by decide) (by decide) 0 _ r
  refine Decoder.ReadsBack.inside (by decide) hlen ?_
  simp only [List.append_assoc]
  rw [Version.whole_bind b.version (hserial _),
    Decoder.whole_bind (b.serial.readsBack (by omega)), if_pos hb.serial,
    Decoder.whole_bind (b.algorithm.readsBack (by omega)), if_pos hb.algorithm,
    Decoder.whole_bind (Name.readsBack hb.issuer (by omega)),
    Decoder.whole_bind (Validity.readsBack hb.validity), if_pos rfl,
    Decoder.whole_bind (Name.readsBack hb.subject (by omega)),
    Decoder.whole_bind (PublicKeyInfo.readsBack hb.key (by omega)), if_pos hb.keyAlgorithm,
    hb.issuerId, hb.subjectId]
  simp only [encodeId, List.nil_append]
  rw [Decoder.whole_implicit_absent (hfield 1 (by decide)),
    Decoder.whole_implicit_absent (hfield 2 (by decide)),
    Extension.whole_field (by decide) _ (by omega), if_pos hb.extensions]
  -- the two identifiers that are absent are those of the value itself
  have hsame : ∀ i s, b.issuerId = i → b.subjectId = s → (⟨b.version, b.serial, b.algorithm,
      b.issuer, b.validity, b.subject, b.key, i, s, b.extensions⟩ : Body) = b := by
    rintro i s rfl rfl
    rfl
  rw [Decoder.whole_pure, hsame none none hb.issuerId hb.subjectId]
  unfold hasReadableNames
  cases b.issuer.isReadable <;> rfl

end Body

/-! ### Certificates -/

namespace Certificate

/-- What is read back, as far as the names are. -/
structure IsRegular (c : Certificate) : Prop where
  body : c.body.IsRegular
  algorithm : c.algorithm.isReadable = true
  signature : ∃ octets, c.signature = BitString.ofOctets octets

/-- **A regular certificate reads back** exactly if its names are readable. -/
theorem readsBack {c : Certificate} (hc : c.IsRegular) (h : c.encode.length ≤ maxLength) :
    Decoder.ReadsBack decoder c.encode c c.body.hasReadableNames := by
  have hlen := content_length_le h
  have hparts := hlen
  simp only [List.length_append] at hparts
  refine Decoder.ReadsBack.inside (by decide) hlen ?_
  rw [List.append_assoc, Decoder.whole_bind (Body.readsBack hc.body (by omega)),
    Decoder.whole_bind (c.algorithm.readsBack (by omega)), if_pos hc.algorithm,
    Decoder.whole_bind_last (BitString.readsBack hc.signature (by omega))]
  cases c.body.hasReadableNames <;> rfl

end Certificate

/-! ### Certificates that are made here -/

theorem Role.areReadable_extensions (role : Role) (key signer : PublicKeyInfo) :
    Extension.areReadable (some (role.extensions key signer)) = true := by
  have hshape : Extension.areReadable (some (role.extensions key signer))
      = (role.extensions key signer).all Extension.isReadable := rfl
  rw [hshape, List.all_eq_true]
  intro e he
  cases role with
  | root =>
      simp only [Role.extensions, if_true, List.append_nil, List.mem_append, List.mem_cons,
        List.not_mem_nil, or_false] at he
      rcases he with rfl | rfl | rfl <;> rfl
  | subordinate issuer =>
      simp only [Role.extensions, reduceCtorEq, if_false, List.mem_append, List.mem_cons,
        List.not_mem_nil, or_false] at he
      rcases he with (rfl | rfl) | rfl | rfl <;> rfl
  | leaf issuer =>
      simp only [Role.extensions, reduceCtorEq, if_false, List.mem_append, List.mem_cons,
        List.not_mem_nil, or_false] at he
      rcases he with (rfl | rfl) | rfl | rfl <;> rfl

/-- **A certificate that is signed here is regular**, if what goes into it is. -/
theorem Draft.isRegular_of_sign? {d : Draft} {signer : Rsa.KeyPair} {c : Certificate}
    (h : d.sign? signer = some c) (hserial : d.serial.isReadable = true)
    (hissuer : (d.role.issuer d.subject).IsOrdered) (hvalidity : d.validity.InForm)
    (hsubject : d.subject.IsOrdered) (hkey : d.key.algorithm.isReadable = true)
    (hbits : ∃ octets, d.key.key = BitString.ofOctets octets) : c.IsRegular := by
  simp only [sign?, Option.bind_eq_bind, Option.bind_eq_some_iff, Option.pure_def,
    Option.some.injEq] at h
  obtain ⟨octets, -, signature, -, rfl⟩ := h
  exact
    { body :=
        { serial := hserial
          algorithm := AlgorithmIdentifier.isReadable_sha256WithRsa
          issuer := hissuer
          validity := hvalidity
          subject := hsubject
          keyAlgorithm := hkey
          key := hbits
          issuerId := rfl
          subjectId := rfl
          extensions := Role.areReadable_extensions _ _ _ }
      algorithm := AlgorithmIdentifier.isReadable_sha256WithRsa
      signature := ⟨signature, rfl⟩ }

end X509

end RevocationLab
