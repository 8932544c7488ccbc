/-
**The addresses of authorities.**

An authority answers under a segment that is made from its identifier, and under the same one behind a
label for status queries.  Identifiers that differ have different texts, and no such text starts with
the label, so that no two addresses at the root are the same, whether they are of one authority or of
two.  An authority keeps its addresses and its base: whatever is done changes ledgers only.

Main definitions:

* `Authority.pathOf` — the path of an identifier behind a label;
* `Authority.IsAddressed` — the addresses are those of the identifier under the base;
* `Authority.face`, `Authority.Registry.faces` — authorities without their ledgers.

Main results:

* `Uuid.toText_inj` — the text of an identifier tells it;
* `Authority.pathOf_inj` — **a path tells the label and the identifier**;
* `Authority.IsAddressed.certificatePath`, `Authority.IsAddressed.ocspPath` — the paths at the root;
* `Authority.Registry.faces_createRoot` and its like — **nothing but ledgers changes**;
* `Authority.Registry.addressed_createRoot`, `Authority.Registry.addressed_createIntermediate` — an
  authority is addressed under the base that it was given, or under that of its issuer.
-/

import RevocationLab.Proofs.Authority.Link
import RevocationLab.Proofs.Url.Root
import RevocationLab.Routing.Key

set_option autoImplicit false

namespace RevocationLab

/-! ### Hexadecimal text -/

namespace Octets

theorem hexPair_injective : Function.Injective hexPair := by
  have hdigit : ∀ m < 16, ∀ n < 16, hexDigit m = hexDigit n → m = n := by decide
  intro a b h
  have ha := a.toNat_lt
  have hb := b.toNat_lt
  simp only [hexPair, List.cons.injEq, and_true] at h
  have hhigh := hdigit _ (by omega) _ (by omega) h.1
  have hlow := hdigit _ (by omega) _ (by omega) h.2
  exact UInt8.toNat_inj.1 (by omega)

/-- The digits of octets tell them: there are two for each. -/
theorem toHex_injective : Function.Injective toHex := by
  intro a b h
  replace h : a.flatMap hexPair = b.flatMap hexPair := String.ofList_injective h
  induction a generalizing b with
  | nil =>
      cases b with
      | nil => rfl
      | cons y b => cases h
  | cons x a ih =>
      cases b with
      | nil => cases h
      | cons y b =>
          obtain ⟨hpair, hrest⟩ := List.append_inj h rfl
          rw [hexPair_injective hpair, ih hrest]

theorem toHex_append (a b : Octets) : toHex (a ++ b) = toHex a ++ toHex b := by
  simp [toHex]

end Octets

/-! ### Identifiers -/

namespace Uuid

theorem length_ofDraw (draw : Octets) : (ofDraw draw).octets.length = draw.length :=
  List.length_mapIdx

/-- The octets of an identifier by their groups. -/
theorem octets_eq {u : Uuid} (h : u.octets.length = 16) :
    u.octets = u.group 0 4 ++ u.group 4 2 ++ u.group 6 2 ++ u.group 8 2 ++ u.group 10 6 := by
  simp only [group, List.drop_zero, ← List.take_add]
  rw [List.take_of_length_le (by omega)]

/-- Without its dashes the text of an identifier is that of its octets. -/
theorem filter_toText {u : Uuid} (h : u.octets.length = 16) :
    u.toText.toList.filter (· != '-') = (Octets.toHex u.octets).toList := by
  have hdigit : ∀ n < 16, (Octets.hexDigit n != '-') = true := by decide
  have hkept : ∀ b : Octets, b.toHex.toList.filter (· != '-') = b.toHex.toList := by
    intro b
    rw [List.filter_eq_self]
    intro c hc
    obtain ⟨n, hn, rfl⟩ := exists_of_mem_toHex hc
    exact hdigit n hn
  have hdash : "-".toList.filter (· != '-') = [] := by decide
  rw [octets_eq h]
  simp only [toText_eq, Octets.toHex_append, String.toList_append, List.filter_append, hkept, hdash,
    List.append_nil]

/-- **The text of an identifier tells it.** -/
theorem toText_inj {u v : Uuid} (hu : u.octets.length = 16) (hv : v.octets.length = 16)
    (h : u.toText = v.toText) : u = v := by
  have hhex : Octets.toHex u.octets = Octets.toHex v.octets := by
    apply String.toList_inj.1
    rw [← filter_toText hu, ← filter_toText hv, h]
  exact congrArg Uuid.mk (Octets.toHex_injective hhex)

/-- The text of an identifier starts with a digit. -/
theorem head?_toText {u : Uuid} (h : u.octets.length = 16) :
    ∃ n < 16, u.toText.toList.head? = some (Octets.hexDigit n) := by
  have hne : (u.group 0 4).toHex.toList ≠ [] := by
    obtain ⟨octets⟩ := u
    match octets, h with
    | x :: rest, h => simp [group, Octets.toHex, Octets.hexPair]
  obtain ⟨c, s, hs⟩ := List.exists_cons_of_ne_nil hne
  obtain ⟨n, hn, rfl⟩ := exists_of_mem_toHex (hs ▸ List.mem_cons_self)
  exact ⟨n, hn, by simp [toText_eq, hs]⟩

end Uuid

namespace Authority

/-! ### Paths -/

/-- The path of an identifier behind a label. -/
def pathOf (label : String) (id : Uuid) : String := "/" ++ (label ++ id.toText ++ "/")

theorem pathOf_certificate (id : Uuid) : pathOf "" id = "/" ++ id.toText ++ "/" := by
  rw [pathOf, String.empty_append, String.append_assoc]

theorem pathOf_ocsp (id : Uuid) : pathOf "ocsp-" id = "/ocsp-" ++ id.toText ++ "/" := by
  rw [pathOf, String.append_assoc, ← String.append_assoc, ← String.append_assoc]
  rfl

/-- The labels of addresses: none for certificates, and one for status queries. -/
def IsLabel (label : String) : Prop := label = "" ∨ label = "ocsp-"

section

variable {label : String} {id : Uuid}

theorem isSegment_pathOf (hlabel : IsLabel label) (id : Uuid) :
    Url.IsSegment (label ++ id.toText ++ "/") := by
  refine id.isSegment_toText (List.all_eq_true.1 ?_)
  rcases hlabel with rfl | rfl <;> decide

/-- What stands behind the slash starts with a digit, or with the label. -/
theorem head?_pathOf (hid : id.octets.length = 16) (hlabel : IsLabel label) :
    label = "" ∧ (∃ n < 16, (label ++ id.toText).toList.head? = some (Octets.hexDigit n))
      ∨ label = "ocsp-" ∧ (label ++ id.toText).toList.head? = some 'o' := by
  rcases hlabel with rfl | rfl
  · exact .inl ⟨rfl, by simpa using Uuid.head?_toText hid⟩
  · exact .inr ⟨rfl, by simp⟩

/-- A path of an identifier is a key with a segment in it. -/
theorem isKey_pathOf (hlabel : IsLabel label) (id : Uuid) :
    Routing.isKey (pathOf label id) = true := by
  obtain ⟨s, htext, hne, hs⟩ := isSegment_pathOf hlabel id
  refine Routing.isKey_iff.2 ⟨s, ?_, hne, fun hslash => absurd (hs _ hslash) (by decide)⟩
  rw [pathOf, String.toList_append, htext]
  rfl

/-- What is joined to the root is the path of the identifier. -/
theorem path_join_pathOf (hid : id.octets.length = 16) (hlabel : IsLabel label) {base u : Url}
    (hbase : base.path = "/") (hjoin : base.join (label ++ id.toText ++ "/") = .ok u) :
    u.path = pathOf label id := by
  have hdigit : ∀ n < 16, Octets.hexDigit n ≠ '.' := by decide
  refine Url.path_join (isSegment_pathOf hlabel id) ?_ hbase hjoin
  rcases head?_pathOf hid hlabel with ⟨-, n, hn, hhead⟩ | ⟨-, hhead⟩ <;>
    rw [String.toList_append, List.head?_append, hhead, Option.some_or]
  · exact fun heq => hdigit n hn (Option.some.inj heq)
  · decide

end

/-- **A path tells the label and the identifier.** -/
theorem pathOf_inj {label label' : String} {u v : Uuid} (hu : u.octets.length = 16)
    (hv : v.octets.length = 16) (hlabel : IsLabel label) (hlabel' : IsLabel label')
    (h : pathOf label u = pathOf label' v) : label = label' ∧ u = v := by
  have hdigit : ∀ n < 16, Octets.hexDigit n ≠ 'o' := by decide
  have htext : label ++ u.toText = label' ++ v.toText := by
    simpa only [pathOf, String.append_right_inj, String.append_left_inj] using h
  have hsame : label = label' → u = v := by
    rintro rfl
    exact Uuid.toText_inj hu hv (by simpa only [String.append_right_inj] using htext)
  -- a digit is in front without the label, and a letter that is none behind it
  rcases head?_pathOf hu hlabel with ⟨rfl, n, hn, hhead⟩ | ⟨rfl, hhead⟩ <;>
    rcases head?_pathOf hv hlabel' with ⟨rfl, m, hm, hhead'⟩ | ⟨rfl, hhead'⟩
  · exact ⟨rfl, hsame rfl⟩
  · rw [htext, hhead'] at hhead
    exact absurd (Option.some.inj hhead).symm (hdigit n hn)
  · rw [← htext, hhead] at hhead'
    exact absurd (Option.some.inj hhead').symm (hdigit m hm)
  · exact ⟨rfl, hsame rfl⟩

/-! ### Addresses -/

/-- The addresses of an authority are those of its identifier under its base. -/
structure IsAddressed (a : Authority) : Prop where
  id : a.id.octets.length = 16
  certificate : a.base.join (a.id.toText ++ "/") = .ok a.certificateUrl
  ocsp : a.base.join ("ocsp-" ++ a.id.toText ++ "/") = .ok a.ocspUrl

/-- An authority that is established is addressed under its base. -/
theorem isAddressed_of_establish {base : Url} {certificate : X509.Certificate} {plan : Plan}
    {parent : Option Nat} {draw : Octets} (hdraw : draw.length = 16) {a : Authority}
    (h : establish base certificate plan parent draw = .ok a) :
    a.base = base ∧ a.IsAddressed := by
  have hid : (Uuid.ofDraw draw).octets.length = 16 := (Uuid.length_ofDraw draw).trans hdraw
  simp only [establish] at h
  split at h
  · split at h
    · next certificateUrl ocspUrl hcertificate hocsp =>
        cases h
        exact ⟨rfl, hid, hcertificate, hocsp⟩
    · cases h
    · cases h
  · cases h

namespace IsAddressed

variable {a : Authority}

theorem certificatePath (h : a.IsAddressed) (hbase : a.base.path = "/") :
    a.certificateUrl.path = pathOf "" a.id :=
  path_join_pathOf h.id (.inl rfl) hbase (by rw [String.empty_append]; exact h.certificate)

theorem ocspPath (h : a.IsAddressed) (hbase : a.base.path = "/") :
    a.ocspUrl.path = pathOf "ocsp-" a.id :=
  path_join_pathOf h.id (.inr rfl) hbase h.ocsp

end IsAddressed

/-! ### What does not change -/

/-- An authority without its ledger. -/
def face (a : Authority) : Authority := { a with issued := [] }

@[simp] theorem face_record (a : Authority) (serial : X509.SerialNumber) (standing : Standing) :
    (a.record serial standing).face = a.face := rfl

theorem base_eq_of_face {a b : Authority} (h : a.face = b.face) : a.base = b.base := by
  change a.face.base = b.face.base
  rw [h]

/-- The addresses of an authority do not depend on its ledger. -/
theorem IsAddressed.of_face {a b : Authority} (h : a.IsAddressed) (hface : a.face = b.face) :
    b.IsAddressed := by
  obtain ⟨hid, hcertificate, hocsp⟩ := h
  simp only [face, Authority.mk.injEq] at hface
  obtain ⟨rid, -, -, -, -, rbase, rcertificate, rocsp, -⟩ := hface
  rw [rid] at hid
  rw [rid, rbase, rcertificate] at hcertificate
  rw [rid, rbase, rocsp] at hocsp
  exact ⟨hid, hcertificate, hocsp⟩

namespace Registry

/-- The authorities of a registry without their ledgers. -/
def faces (r : Registry) : List Authority := r.list.map face

variable {r r' : Registry}

@[simp] theorem getElem?_faces (r : Registry) (place : Nat) :
    r.faces[place]? = (r.get? place).map face := List.getElem?_map

@[simp] theorem faces_add (r : Registry) (a : Authority) : (r.add a).faces = r.faces ++ [a.face] :=
  List.map_append

@[simp] theorem faces_record (r : Registry) (place : Nat) (serial : X509.SerialNumber)
    (standing : Standing) : (r.record place serial standing).faces = r.faces := by
  refine List.ext_getElem? fun other => ?_
  rw [getElem?_faces, getElem?_faces, get?_record, Option.map_map]
  congr 1
  funext a
  simp only [Function.comp_apply]
  split <;> rfl

/-- Whoever is there has the same face later on. -/
theorem exists_of_faces (h : r.faces <+: r'.faces) {place : Nat} {a : Authority}
    (ha : r.get? place = some a) : ∃ b, r'.get? place = some b ∧ a.face = b.face := by
  have hface : r.faces[place]? = some a.face := by rw [getElem?_faces, ha, Option.map_some]
  have hlater : r'.faces[place]? = some a.face := by
    obtain ⟨new, hnew⟩ := h
    rw [← hnew, List.getElem?_append_left (List.getElem?_eq_some_iff.1 hface).1, hface]
  rw [getElem?_faces, Option.map_eq_some_iff] at hlater
  obtain ⟨b, hb, heq⟩ := hlater
  exact ⟨b, hb, heq.symm⟩

variable (r)

theorem faces_createRoot (base : Url) (plan : Plan) (draws : Draws) (now : Instant) :
    r.faces <+: (r.createRoot base plan draws now).1.faces := by
  rcases r.createRoot_made base plan draws now with ⟨e, hmade⟩ | ⟨certificate, a, -, -, hmade⟩ <;>
    simp [hmade]

theorem faces_createIntermediate (parent : Nat) (plan : Plan) (draws : Draws) (now : Instant) :
    r.faces <+: (r.createIntermediate parent plan draws now).1.faces := by
  rcases r.createIntermediate_made parent plan draws now with
    ⟨e, hmade⟩ | ⟨issuer, certificate, -, -, ⟨e, -, hmade⟩ | ⟨a, -, hmade⟩⟩ <;> simp [hmade]

theorem faces_issue (place : Nat) (commonName : String) (key : X509.PublicKeyInfo) (draw : Octets)
    (now : Instant) : r.faces <+: (r.issue place commonName key draw now).1.faces := by
  rcases r.issue_cases place commonName key draw now with ⟨e, hmade⟩ | ⟨c, hmade, -, -⟩ <;>
    simp [hmade]

theorem faces_revoke (place : Nat) (serial : X509.SerialNumber) (reason : Option Ocsp.Reason)
    (now : Instant) : r.faces <+: (r.revoke place serial reason now).1.faces := by
  rcases r.revoke_cases place serial reason now with ⟨e, -, hmade⟩ | ⟨a, standing, -, -, hmade⟩ <;>
    simp [hmade]

/-! ### Who is made over which base -/

variable {r}

/-- A root that is made is addressed under the base that it was given. -/
theorem addressed_createRoot {base : Url} {plan : Plan} {draws : Draws} {now : Instant}
    {place : Nat} (hid : draws.id.length = 16)
    (h : (r.createRoot base plan draws now).2 = .ok place) :
    ∃ a, (r.createRoot base plan draws now).1.get? place = some a ∧ a.base = base
      ∧ a.IsAddressed := by
  obtain ⟨certificate, a, -, hestablish, rfl, hadd⟩ := made_of_createRoot h
  exact ⟨a, by rw [hadd, get?_add, if_pos rfl], isAddressed_of_establish hid hestablish⟩

/-- An intermediate authority that is made is addressed under the base of its issuer. -/
theorem addressed_createIntermediate {parent : Nat} {plan : Plan} {draws : Draws} {now : Instant}
    {place : Nat} (hid : draws.id.length = 16)
    (h : (r.createIntermediate parent plan draws now).2 = .ok place) :
    ∃ a issuer, (r.createIntermediate parent plan draws now).1.get? place = some a
      ∧ r.get? parent = some issuer ∧ a.base = issuer.base ∧ a.IsAddressed := by
  obtain ⟨issuer, certificate, a, hissuer, -, hestablish, rfl, hadd⟩ := made_of_createIntermediate h
  exact ⟨a, issuer, by rw [hadd, get?_add, size_record, if_pos rfl], hissuer,
    isAddressed_of_establish hid hestablish⟩

end Registry

end Authority

end RevocationLab
