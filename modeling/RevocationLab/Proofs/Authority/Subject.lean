/-
**The subjects of certificates.**

Roots, intermediate authorities and leaves get their subjects in the same way, from the text of a common
name that is not escaped.  A plain text becomes the single common name of the subject, and then no other
plain text gives the same subject, nor the same octets to take the issuer's digests of.  Any other text
becomes something else, or no certificate is made for it.

Main definitions:

* `Authority.MadeFor` — the certificates that are made for a common name.

Main results:

* `Authority.MadeFor.subject` — the subject is what the text of the common name writes;
* `Authority.MadeFor.subject_apart` — **the subject is the common name exactly if that is plain**, and
  plain names stand apart.
-/

import RevocationLab.Proofs.Authority.Link
import RevocationLab.Proofs.Rsa
import RevocationLab.Proofs.X509.CommonName

set_option autoImplicit false

namespace RevocationLab

namespace Authority

open X509

/-! ### Certificates for a name -/

/-- **The certificates that are made for a common name**: those of roots, those of intermediate
authorities, and those that are issued. -/
inductive MadeFor (commonName : String) : Certificate → Prop where
  /-- A root is made with the name in its plan. -/
  | root (r : Registry) (base : Url) (plan : Plan) (draws : Draws) (now : Instant) (place : Nat)
      (a : Authority) : plan.commonName = commonName →
      (r.createRoot base plan draws now).2 = .ok place →
      (r.createRoot base plan draws now).1.get? place = some a → MadeFor commonName a.certificate
  /-- An intermediate authority is made with the name in its plan. -/
  | intermediate (r : Registry) (parent : Nat) (plan : Plan) (draws : Draws) (now : Instant)
      (place : Nat) (a : Authority) : plan.commonName = commonName →
      (r.createIntermediate parent plan draws now).2 = .ok place →
      (r.createIntermediate parent plan draws now).1.get? place = some a →
      MadeFor commonName a.certificate
  /-- A leaf is issued to the name. -/
  | leaf (r : Registry) (place : Nat) (key : PublicKeyInfo) (draw : Octets) (now : Instant)
      (c : Certificate) : (r.issue place commonName key draw now).2 = .ok c → MadeFor commonName c

namespace MadeFor

variable {s t : String} {c d : Certificate}

/-- Every certificate for a name is certified for it. -/
theorem certify (h : MadeFor s c) : ∃ signer role lifetime key draw now,
    Authority.certify signer role lifetime s key draw now = .ok c := by
  cases h with
  | root r base plan draws now place a hname hplace ha =>
      subst hname
      exact ⟨_, _, _, _, _, _, Registry.certify_of_createRoot hplace ha⟩
  | intermediate r parent plan draws now place a hname hplace ha =>
      subst hname
      obtain ⟨issuer, -, hcertify⟩ := Registry.certify_of_createIntermediate hplace ha
      exact ⟨_, _, _, _, _, _, hcertify⟩
  | leaf r place key draw now c h =>
      obtain ⟨issuer, -, hcertify⟩ := Registry.certify_of_issue h
      exact ⟨_, _, _, _, _, _, hcertify⟩

/-- **The subject is what the text of the common name writes.** -/
theorem subject (h : MadeFor s c) : Name.ofCommonName? s = some c.body.subject := by
  obtain ⟨signer, role, lifetime, key, draw, now, hcertify⟩ := h.certify
  obtain ⟨subject, validity, hsubject, -, hsign⟩ := certify_eq_ok_iff.1 hcertify
  rw [hsubject, (serial_of_sign? hsign).2]

/-- The subject can be written. -/
theorem length_subject (h : MadeFor s c) : c.body.subject.encode.length ≤ Der.maxLength := by
  obtain ⟨signer, role, lifetime, key, draw, now, hcertify⟩ := h.certify
  exact length_subject_of_certify hcertify

/-- The subject is the common name exactly if that is plain. -/
theorem subject_eq_single_iff (h : MadeFor s c) {tag : Der.Tag} :
    c.body.subject = Name.single tag s ↔ tag = Der.Tag.utf8String ∧ IsPlain s := by
  rw [← Name.ofCommonName?_eq_single_iff, h.subject, Option.some_inj]

/-- Plain names that write the same octets are the same. -/
theorem eq_of_encode (hc : MadeFor s c) (hs : IsPlain s) (hd : MadeFor t d) (ht : IsPlain t)
    (h : c.body.subject.encode = d.body.subject.encode) : s = t := by
  have hlength := hc.length_subject
  rw [hc.subject_eq_single_iff.2 ⟨rfl, hs⟩] at h hlength
  rw [hd.subject_eq_single_iff.2 ⟨rfl, ht⟩] at h
  have hname := Name.eq_of_encode (Name.isOrdered_single _ s) (Name.isOrdered_single _ t)
    (Name.isReadable_single s) (Name.isReadable_single t) hlength h
  exact (Name.single_inj.1 hname).2

/-- **The subject of a certificate is its common name, character for character, exactly if nothing in
the name is special.**  Two such names never give the same subject, nor the same octets to take the
digests of an issuer of. -/
theorem subject_apart (hc : MadeFor s c) (hd : MadeFor t d) :
    ((∃ tag, c.body.subject = Name.single tag s) ↔ IsPlain s)
      ∧ (IsPlain s → c.body.subject = Name.single Der.Tag.utf8String s)
      ∧ (IsPlain s → IsPlain t →
        (c.body.subject = d.body.subject ↔ s = t)
          ∧ (c.body.subject.encode = d.body.subject.encode ↔ s = t)) := by
  refine ⟨?_, fun hs => hc.subject_eq_single_iff.2 ⟨rfl, hs⟩, fun hs ht => ⟨⟨?_, ?_⟩, ?_, ?_⟩⟩
  · constructor
    · rintro ⟨tag, htag⟩
      exact (hc.subject_eq_single_iff.1 htag).2
    · intro hs
      exact ⟨_, hc.subject_eq_single_iff.2 ⟨rfl, hs⟩⟩
  · intro h
    exact hc.eq_of_encode hs hd ht (congrArg Name.encode h)
  · rintro rfl
    exact Option.some.inj (hc.subject.symm.trans hd.subject)
  · exact hc.eq_of_encode hs hd ht
  · rintro rfl
    rw [Option.some.inj (hc.subject.symm.trans hd.subject)]

/-! ### Roots with plain and other names -/

/-- The first root of a registry, with this name. -/
def sampleRoot (name : String) : Registry × Except Error Nat :=
  ({} : Registry).createRoot ⟨"http", some { host := "localhost" }, .segments [""], none, none⟩
    ⟨name, .day, Rsa.sampleKey⟩ ⟨List.replicate 16 1, List.replicate 16 2⟩ (Instant.ofSeconds 0)

/-- What the certificate of the root makes of the name, if there is one. -/
def sampleSubject? (name : String) : Option Name :=
  match sampleRoot name with
  | (r, .ok place) => (r.get? place).map fun a => a.certificate.body.subject
  | (_, .error _) => none

theorem exists_of_sampleSubject? {name : String} {n : Name} (h : sampleSubject? name = some n) :
    ∃ c, MadeFor name c ∧ c.body.subject = n := by
  unfold sampleSubject? at h
  split at h
  · next r place hroot =>
      obtain ⟨a, ha, rfl⟩ := Option.map_eq_some_iff.1 h
      exact ⟨a.certificate, .root _ _ _ _ _ place a rfl (congrArg Prod.snd hroot)
        (by rw [← ha]; exact congrArg (fun p => p.1.get? place) hroot), rfl⟩
  · cases h

/-- Two plain names, one of them full of characters that other places give a meaning to. -/
theorem subject_apart_sampleRoots : ∃ c d, MadeFor "a=\"#;<> é" c ∧ MadeFor "a" d
    ∧ c.body.subject = Name.single Der.Tag.utf8String "a=\"#;<> é"
    ∧ c.body.subject.encode ≠ d.body.subject.encode := by
  have hmade : ∀ name ∈ ["a=\"#;<> é", "a"], (sampleSubject? name).isSome = true := by
    decide +kernel
  obtain ⟨m, hm⟩ := Option.isSome_iff_exists.1 (hmade "a=\"#;<> é" (by decide))
  obtain ⟨n, hn⟩ := Option.isSome_iff_exists.1 (hmade "a" (by decide))
  obtain ⟨c, hc, -⟩ := exists_of_sampleSubject? hm
  obtain ⟨d, hd, -⟩ := exists_of_sampleSubject? hn
  have hs : IsPlain "a=\"#;<> é" := by decide
  obtain ⟨-, hsubject, happart⟩ := subject_apart hc hd
  refine ⟨c, d, hc, hd, hsubject hs, fun h => ?_⟩
  exact absurd ((happart hs (by decide)).2.1 h) (by decide)

/-- A comma in a name makes a second attribute, and an escaped letter is that letter. -/
theorem subject_of_specialRoots :
    (∃ c, MadeFor "a,O=b" c ∧ c.body.subject.length = 2
        ∧ ∀ tag, c.body.subject ≠ Name.single tag "a,O=b")
      ∧ ∃ c d, MadeFor "a" c ∧ MadeFor "\\61" d ∧ c.body.subject = d.body.subject := by
  have htwo : (sampleSubject? "a,O=b").map List.length = some 2 := by decide +kernel
  have hsame : sampleSubject? "\\61" = sampleSubject? "a" ∧ (sampleSubject? "a").isSome = true := by
    decide +kernel
  constructor
  · obtain ⟨n, hn, hlength⟩ := Option.map_eq_some_iff.1 htwo
    obtain ⟨c, hc, rfl⟩ := exists_of_sampleSubject? hn
    refine ⟨c, hc, hlength, fun tag h => ?_⟩
    rw [h] at hlength
    cases hlength
  · obtain ⟨n, hn⟩ := Option.isSome_iff_exists.1 hsame.2
    obtain ⟨c, hc, rfl⟩ := exists_of_sampleSubject? hn
    obtain ⟨d, hd, heq⟩ := exists_of_sampleSubject? (hsame.1.trans hn)
    exact ⟨c, d, hc, hd, heq.symm⟩

end MadeFor

end Authority

end RevocationLab
