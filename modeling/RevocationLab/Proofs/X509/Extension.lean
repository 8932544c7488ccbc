/-
**Which identifiers, algorithms, serial numbers and extensions are read back.**

Some values are written that no decoder accepts: an object identifier of two octets, parameters with a
tag that may not occur, a serial number in more octets than it needs.  Every other value is read back
from the front of any string that starts with its encoding.

Main definitions:

* `X509.AlgorithmIdentifier.isReadable`, `X509.SerialNumber.isReadable`, `X509.Extension.isReadable`.

Main results:

* `X509.AlgorithmIdentifier.readsBack`, `X509.PublicKeyInfo.readsBack`, `X509.SerialNumber.readsBack`,
  `X509.Extension.readsBack` — **the records read back** as their identifiers say;
* `X509.Extension.whole_field` — the numbered field of a list of extensions;
* `X509.SerialNumber.isReadable_ofDraw` — serial numbers that are drawn are readable.
-/

import RevocationLab.Proofs.Der.Decoder
import RevocationLab.X509.Extension
import RevocationLab.X509.SerialNumber

set_option autoImplicit false

namespace RevocationLab

open Der

namespace Der

/-! ### Primitive values -/

theorem ObjectId.readsBack (o : ObjectId) (h : o.encode.length ≤ maxLength) :
    Decoder.ReadsBack Decoder.objectId o.encode o (isReadable o.octets) :=
  Decoder.ReadsBack.reading (by decide) (content_length_le h) rfl

/-- Bits that are whole octets read back. -/
theorem BitString.readsBack {s : BitString} (hs : ∃ b, s = ofOctets b)
    (h : s.encode.length ≤ maxLength) : Decoder.ReadsBack Decoder.bitString s.encode s true := by
  obtain ⟨b, rfl⟩ := hs
  exact Decoder.ReadsBack.reading (by decide) (content_length_le h) rfl

theorem Decoder.ReadsBack.octetString (b : Octets) (h : (Der.octetString b).length ≤ maxLength) :
    ReadsBack Decoder.octetString (Der.octetString b) b true :=
  ReadsBack.content (by decide) (content_length_le h)

theorem Decoder.ReadsBack.bool (b : Bool) : ReadsBack Decoder.bool (Der.bool b) b true :=
  ReadsBack.reading (by decide) (by cases b <;> decide) (by cases b <;> rfl)

/-- A number below 256 is read back as a function of it says. -/
theorem Decoder.ReadsBack.small {α : Type} {tag : Tag} (ht : Tag.isKnown tag = true) {n : Nat}
    (hn : n < 256) {read : Nat → Option α} {x : α} (h : read n = some x) :
    ReadsBack (small tag read) (element tag (smallContent n)) x true := by
  -- there are few enough of them to try each one
  have hvalue : ∀ m < 256, smallValue? (smallContent m) = some m := by decide +kernel
  have hlength : (smallContent n).length ≤ 2 := by
    unfold smallContent
    split_ifs <;> simp
  refine ReadsBack.reading ht (Nat.le_trans hlength (by decide)) ?_
  rw [hvalue n hn]
  exact h

/-- Any element at the end of a sequence, or nothing. -/
theorem Decoder.whole_optional_any {β : Type} (o : Option Element)
    (h : ∀ e ∈ o, e.encode.length ≤ maxLength) (f : Option Element → Decoder β) :
    whole (optional (fun _ => true) any >>= f) ((o.map Element.encode).getD []) =
      if o.all fun e => Tag.isKnown e.tag then whole (f o) [] else none := by
  cases o with
  | none => rfl
  | some e =>
      have hlen : e.content.length ≤ maxLength := content_length_le (h e rfl)
      by_cases ht : Tag.isKnown e.tag = true
      · have hback : ReadsBack (optional (fun _ => true) any) e.encode (some e) true := by
          intro rest
          have hany : ReadsBack (some <$> any) e.encode (some e) (Tag.isKnown e.tag) :=
            (ReadsBack.any hlen).map some
          rw [ht] at hany
          rw [← hany rest]
          exact run_optional_cons ht any
        have hwhole := whole_bind_last hback f
        simpa [ht] using hwhole
      · have hrun : (optional (fun _ => true) any).run e.encode = none :=
          run_optional_unknown _ (Bool.eq_false_iff.2 ht) any
        simp only [Option.map_some, Option.getD_some, Option.all_some, ht]
        unfold whole
        rw [run_bind, hrun]
        rfl

end Der

namespace X509

/-! ### Algorithms and keys -/

namespace AlgorithmIdentifier

/-- Whether a decoder accepts what is written: a readable identifier, and parameters with a tag that
may occur. -/
def isReadable (a : AlgorithmIdentifier) : Bool :=
  ObjectId.isReadable a.algorithm.octets && a.parameters.all fun e => Tag.isKnown e.tag

/-- **An algorithm reads back** if it is readable. -/
theorem readsBack (a : AlgorithmIdentifier) (h : a.encode.length ≤ maxLength) :
    Decoder.ReadsBack decoder a.encode a a.isReadable := by
  have hlen := content_length_le h
  have hid : a.algorithm.encode.length ≤ maxLength := by
    rw [List.length_append] at hlen
    omega
  have hparameters : ∀ e ∈ a.parameters, e.encode.length ≤ maxLength := by
    intro e he
    rw [List.length_append, he] at hlen
    exact Nat.le_trans (Nat.le_add_left _ _) hlen
  refine Decoder.ReadsBack.inside (by decide) hlen ?_
  rw [Decoder.whole_bind (ObjectId.readsBack _ hid), Decoder.whole_optional_any _ hparameters]
  unfold isReadable
  cases ObjectId.isReadable a.algorithm.octets <;> rfl

theorem isReadable_sha256WithRsa : sha256WithRsa.isReadable = true := by decide

theorem isReadable_rsaEncryption : rsaEncryption.isReadable = true := by decide

end AlgorithmIdentifier

/-- A key of whole octets reads back if its algorithm is readable. -/
theorem PublicKeyInfo.readsBack {k : PublicKeyInfo} (hk : ∃ b, k.key = BitString.ofOctets b)
    (h : k.encode.length ≤ maxLength) :
    Decoder.ReadsBack decoder k.encode k k.algorithm.isReadable := by
  have hlen := content_length_le h
  have hparts := hlen
  rw [List.length_append] at hparts
  refine Decoder.ReadsBack.inside (by decide) hlen ?_
  rw [Decoder.whole_bind (k.algorithm.readsBack (by omega)),
    Decoder.whole_bind_last (BitString.readsBack hk (by omega))]
  rfl

/-! ### Serial numbers -/

namespace SerialNumber

/-- Whether a decoder accepts what is written: the only form of an INTEGER, in at most twenty-one
octets. -/
def isReadable (s : SerialNumber) : Bool := isMinimalInteger s.content && s.content.length ≤ 21

theorem content_ne_nil {s : SerialNumber} (h : s.isReadable = true) : s.content ≠ [] := by
  intro hempty
  rw [isReadable, hempty] at h
  cases h

/-- **A serial number reads back** if it is readable. -/
theorem readsBack (s : SerialNumber) (h : s.encode.length ≤ maxLength) :
    Decoder.ReadsBack decoder s.encode s s.isReadable := by
  refine Decoder.ReadsBack.reading (by decide) (content_length_le h) ?_
  simp [isReadable]

/-- The first octet of a draw is made odd and below 128, so that it stands for itself. -/
theorem oddHead_octet (b : UInt8) :
    ((b &&& 0x7f) ||| 0x01) ≠ 0 ∧ ((b &&& 0x7f) ||| 0x01) < 0x80 := by
  have hall : ∀ n < 256, ((UInt8.ofNat n &&& 0x7f) ||| 0x01) ≠ 0
      ∧ ((UInt8.ofNat n &&& 0x7f) ||| 0x01) < 0x80 := by decide +kernel
  have hb := hall b.toNat b.toNat_lt
  rwa [UInt8.ofNat_toNat] at hb

theorem isMinimalInteger_oddHead {draw : Octets} (h : draw ≠ []) :
    isMinimalInteger (oddHead draw) = true := by
  obtain ⟨b, r, rfl⟩ := List.exists_cons_of_ne_nil h
  obtain ⟨hzero, hhigh⟩ := oddHead_octet b
  cases r with
  | nil => rfl
  | cons c r =>
      -- a longer INTEGER is minimal unless its head is all zeros or all ones
      have hones : ((b &&& 0x7f) ||| 0x01) ≠ 0xff := by
        intro heq
        rw [heq] at hhigh
        exact absurd hhigh (by decide)
      simp [oddHead, isMinimalInteger, hzero, hones]

theorem length_oddHead (draw : Octets) : (oddHead draw).length = draw.length := by
  cases draw <;> rfl

/-- **A serial number that is drawn is readable.** -/
theorem isReadable_ofDraw {draw : Octets} (h : draw.length = 16) :
    (ofDraw draw).isReadable = true := by
  have hne : draw ≠ [] := by
    rintro rfl
    cases h
  unfold isReadable ofDraw
  rw [isMinimalInteger_oddHead hne, length_oddHead, h]
  rfl

end SerialNumber

/-! ### Extensions -/

namespace Extension

/-- Whether a decoder accepts what is written. -/
def isReadable (e : Extension) : Bool := ObjectId.isReadable e.kind.octets

/-- Criticality is read back in front of the value, whether it is written or not. -/
theorem whole_critical {β : Type} (critical : Bool) (value : Octets)
    (f : Option Bool → Decoder β) :
    Decoder.whole (Decoder.optional (· == Tag.boolean) Decoder.bool >>= f)
        ((if critical then bool true else []) ++ octetString value) =
      Decoder.whole (f (if critical then some true else none)) (octetString value) := by
  cases critical with
  | false =>
      have ht : Tag.isKnown Tag.octetString = true := by decide
      have hrun : (Decoder.optional (· == Tag.boolean) Decoder.bool).run (octetString value)
          = some (none, octetString value) := Decoder.run_optional_cons ht Decoder.bool
      unfold Decoder.whole
      rw [Decoder.run_bind]
      simp only [Bool.false_eq_true, if_false, List.nil_append]
      rw [hrun]
      rfl
  | true =>
      have hback : Decoder.ReadsBack (Decoder.optional (· == Tag.boolean) Decoder.bool) (bool true)
          (some true) true := by
        intro rest
        have ht : Tag.isKnown Tag.boolean = true := by decide
        rw [← (Decoder.ReadsBack.bool true).map some rest]
        exact Decoder.run_optional_cons ht Decoder.bool
      exact Decoder.whole_bind hback f _

/-- **An extension reads back** if its kind is readable. -/
theorem readsBack (e : Extension) (h : e.encode.length ≤ maxLength) :
    Decoder.ReadsBack decoder e.encode e e.isReadable := by
  have hlen := content_length_le h
  have hparts := hlen
  simp only [List.length_append] at hparts
  refine Decoder.ReadsBack.inside (by decide) hlen ?_
  have hvalue : (octetString e.value).length ≤ maxLength := by omega
  rw [List.append_assoc, Decoder.whole_bind (e.kind.readsBack (by omega)), whole_critical,
    Decoder.whole_bind_last (Decoder.ReadsBack.octetString _ hvalue)]
  rcases e with ⟨kind, critical, value⟩
  unfold isReadable
  cases ObjectId.isReadable kind.octets <;> cases critical <;> rfl

theorem encode_ne_nil (e : Extension) : e.encode ≠ [] := element_ne_nil _ _

/-- A list of extensions reads back if all of them do. -/
theorem readsBack_list (es : List Extension) (h : (encodeList es).length ≤ maxLength) :
    Decoder.ReadsBack listDecoder (encodeList es) es (es.all isReadable) := by
  have hlen := content_length_le h
  refine Decoder.ReadsBack.listOf (fun e he => e.readsBack ?_) (fun e _ => e.encode_ne_nil) hlen
  exact Nat.le_trans (Octets.length_le_of_mem_flatMap encode he) hlen

theorem encodeField_eq (n : Nat) (es : Option (List Extension)) :
    encodeField n es = Decoder.writeField n encodeList es := by
  cases es <;> rfl

/-- Whether a decoder accepts the field of a list of extensions. -/
def areReadable (es : Option (List Extension)) : Bool := es.all fun es => es.all isReadable

/-- **The field of a list of extensions reads back** at the end of a sequence. -/
theorem whole_field {β : Type} {n : Nat} (hn : n < 31) (es : Option (List Extension))
    (h : (encodeField n es).length ≤ maxLength) (f : Option (List Extension) → Decoder β) :
    Decoder.whole (Decoder.explicit n listDecoder >>= f) (encodeField n es) =
      if areReadable es then Decoder.whole (f es) [] else none := by
  have hlen : ∀ l ∈ es, (encodeList l).length ≤ maxLength := by
    rintro l rfl
    exact content_length_le h
  rw [encodeField_eq]
  exact Decoder.whole_explicit_last hn (fun l hl => (readsBack_list l (hlen l hl)).whole) hlen f

end Extension

end X509

end RevocationLab
