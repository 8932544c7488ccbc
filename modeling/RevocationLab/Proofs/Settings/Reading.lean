/-
**What a document says about settings.**

A document says something about the fields that it has and nothing about the others, so that it stands
for its defaults overwritten field by field; what it says besides changes nothing.  A field of the wrong
type spoils all of it before any check is made.  If there is none, the checks decide, and every one that
is not passed is reported in its place.

Main definitions:

* `Settings.Field`, `Settings.Field.known` — the fields, each with what it may hold;
* `Toml.Entries.field?` — what a document says about a field;
* `Settings.Fills` — **settings that are the defaults with the fields of a document**;
* `Settings.Reads` — **what a text gives by the table that it denotes**.

Main results:

* `Settings.ofEntries?_of_fills`, `Settings.exists_fills` — reading a document fills its fields in;
* `Settings.not_refuses_of_ofEntries?` — no field of a document that is read has a wrong type;
* `Settings.reads_of_parse?` — **every text is read by the table that it denotes**.
-/

import RevocationLab.Proofs.Settings.Problem
import RevocationLab.Settings.Writing

set_option autoImplicit false

namespace RevocationLab

/-- What a document has under a name in a section. -/
def Toml.Entries.field? (es : Toml.Entries) (sect name : String) : Option Toml.Value :=
  match es.get? sect with
  | some (.table _ fields) => Toml.Entries.get? fields name
  | _ => none

namespace Settings

open Toml

/-! ### Fields -/

/-- What a field may hold. -/
inductive FieldKind where
  | text
  | natural
  | truth
  | policy
  deriving DecidableEq

/-- The values of a kind. -/
def FieldKind.Admits : FieldKind → Value → Prop
  | text, v => ∃ s : String, v = .string s
  | natural, v => ∃ n : Nat, v = .integer n
  | truth, v => ∃ b : Bool, v = .boolean b
  | policy, v => ∃ p : FaultPolicy, v = .string p.name

/-- The values that spoil a document: all others, and for a policy all other strings. -/
def FieldKind.Refuses (k : FieldKind) (v : Value) : Prop :=
  ¬ k.Admits v ∧ (k = policy → ∃ s : String, v = .string s)

/-- A field by its section and its name. -/
structure Field where
  sect : String
  name : String
  kind : FieldKind
  deriving DecidableEq

namespace Field

/-- The fields that are known. -/
def known : List Field := [
  ⟨"listener", "bind_address", .text⟩,
  ⟨"listener", "max_connections", .natural⟩,
  ⟨"dispatch", "fault_policy", .policy⟩,
  ⟨"dispatch", "max_body_bytes", .natural⟩,
  ⟨"authority", "common_name", .text⟩,
  ⟨"authority", "key_bits", .natural⟩,
  ⟨"authority", "validity_days", .natural⟩,
  ⟨"observability", "log_level", .text⟩,
  ⟨"observability", "metrics_enabled", .truth⟩,
  ⟨"observability", "metrics_address", .text⟩]

/-- What a document says about a field. -/
def value? (f : Field) (es : Entries) : Option Value := es.field? f.sect f.name

end Field

/-- Whether a value is a table. -/
def isTable : Value → Bool
  | .table _ _ => true
  | _ => false

/-- Every known section that a document has is a table. -/
def HasTables (es : Entries) : Prop :=
  ∀ f ∈ Field.known, ∀ v ∈ es.get? f.sect, isTable v = true

instance (es : Entries) : Decidable (HasTables es) :=
  inferInstanceAs (Decidable (∀ f ∈ Field.known, ∀ v ∈ es.get? f.sect, isTable v = true))

/-- **Settings that are the defaults with the fields of a document**: written down, each field is what
the document says about it, and the default where it says nothing. -/
def Fills (s : Settings) (es : Entries) : Prop :=
  ∀ f ∈ Field.known, f.value? s.toEntries = (f.value? es).or (f.value? ({} : Settings).toEntries)

/-! ### Sections -/

/-- A section that is absent or a table has the fields that the document says. -/
theorem sectionOf?_eq {es : Entries} {sect : String} (h : ∀ v ∈ es.get? sect, isTable v = true) :
    sectionOf? es sect = some fun name _ => es.field? sect name := by
  unfold sectionOf? Entries.field?
  cases hsect : es.get? sect with
  | none => rfl
  | some v =>
      have htable := h v hsect
      cases v with
      | table origin fields => rfl
      | string | integer | decimal | boolean | moment | array => cases htable

/-- A section that can be read has what the document says about a field. -/
theorem section_of_field? {es : Entries} {sect name : String} {fields : Section} {v : Value}
    (hsect : sectionOf? es sect = some fields) (hv : es.field? sect name = some v)
    (position : Nat) : fields name position = some v := by
  unfold Entries.field? at hv
  split at hv
  · next heq =>
      rw [sectionOf?, heq] at hsect
      cases hsect
      exact hv
  · cases hv

section

variable {α : Type} {es : Entries} {sect name : String} {position : Nat} {read : Value → Option α}
  {write : α → Value} {default a : α}

/-- What is read back from its written form is read from a field, or is its default. -/
theorem get?_of_or (hread : ∀ a, read (write a) = some a)
    (h : (es.field? sect name).or (some (write default)) = some (write a)) :
    Section.get? (fun name _ => es.field? sect name) name position read default = some a := by
  simp only [Section.get?]
  cases hfield : es.field? sect name with
  | none =>
      rw [hfield, Option.none_or] at h
      have hwritten := congrArg read (Option.some.inj h)
      simpa only [hread] using hwritten
  | some v =>
      rw [hfield, Option.some_or] at h
      obtain rfl := Option.some.inj h
      exact hread a

/-- A field that is there and read has a value that can be read. -/
theorem read_of_get? {fields : Section} {v : Value} (h : fields.get? name position read default = some a)
    (hv : fields name position = some v) : read v = some a := by
  rwa [Section.get?, hv] at h

/-- A field with what it may hold holds what some value is written as, or its default. -/
theorem exists_or_eq {field : Option Value} (h : ∀ v, field = some v → ∃ a : α, v = write a)
    (default : α) : ∃ a, field.or (some (write default)) = some (write a) := by
  cases field with
  | none => exact ⟨default, rfl⟩
  | some v =>
      obtain ⟨a, rfl⟩ := h v rfl
      exact ⟨a, rfl⟩

end

/-! ### Types -/

section

variable {v : Value}

theorem not_refuses_text {s : String} (h : string? v = some s) : ¬ FieldKind.text.Refuses v := by
  unfold string? at h
  split at h
  · exact fun hrefuses => hrefuses.1 ⟨_, rfl⟩
  · cases h

theorem not_refuses_natural {n : Nat} (h : natural? v = some n) :
    ¬ FieldKind.natural.Refuses v := by
  unfold natural? at h
  split at h
  · next i =>
      split at h
      · cases h
      · next hsign =>
          rintro ⟨hadmits, -⟩
          exact hadmits ⟨i.toNat, by rw [Int.toNat_of_nonneg (Int.not_lt.1 hsign)]⟩
  · cases h

theorem not_refuses_truth {b : Bool} (h : boolean? v = some b) : ¬ FieldKind.truth.Refuses v := by
  unfold boolean? at h
  split at h
  · exact fun hrefuses => hrefuses.1 ⟨_, rfl⟩
  · cases h

/-- A string that gives a policy is its name. -/
theorem not_refuses_policy {p : FaultPolicy} (h : policy? v = some p) :
    ¬ FieldKind.policy.Refuses v := by
  rintro ⟨hadmits, hstring⟩
  obtain ⟨s, rfl⟩ := hstring rfl
  have hname := List.find?_some (p := fun p : FaultPolicy => p.name == s) h
  exact hadmits ⟨p, by rw [beq_iff_eq.1 hname]⟩

end

/-! ### Documents -/

variable {es : Entries} {s : Settings}

/-- The fields one by one. -/
theorem fills_iff : s.Fills es ↔
    ((es.field? "listener" "bind_address").or (some (.string ({} : Listener).bindAddress))
        = some (.string s.listener.bindAddress)
      ∧ (es.field? "listener" "max_connections").or (some (.integer ({} : Listener).maxConnections))
        = some (.integer s.listener.maxConnections))
    ∧ ((es.field? "dispatch" "fault_policy").or (some (.string ({} : Dispatch).faultPolicy.name))
        = some (.string s.dispatch.faultPolicy.name)
      ∧ (es.field? "dispatch" "max_body_bytes").or (some (.integer ({} : Dispatch).maxBodyBytes))
        = some (.integer s.dispatch.maxBodyBytes))
    ∧ ((es.field? "authority" "common_name").or (some (.string ({} : Authority).commonName))
        = some (.string s.authority.commonName)
      ∧ (es.field? "authority" "key_bits").or (some (.integer ({} : Authority).keyBits))
        = some (.integer s.authority.keyBits)
      ∧ (es.field? "authority" "validity_days").or (some (.integer ({} : Authority).validityDays))
        = some (.integer s.authority.validityDays))
    ∧ (es.field? "observability" "log_level").or (some (.string ({} : Observability).logLevel))
        = some (.string s.observability.logLevel)
      ∧ (es.field? "observability" "metrics_enabled").or
          (some (.boolean ({} : Observability).metricsEnabled))
        = some (.boolean s.observability.metricsEnabled)
      ∧ (es.field? "observability" "metrics_address").or
          (some (.string ({} : Observability).metricsAddress))
        = some (.string s.observability.metricsAddress) := by
  simp only [Fills, Field.known, List.forall_mem_cons, List.not_mem_nil, false_imp_iff, implies_true,
    and_true, Field.value?, and_assoc]
  simp only [Entries.field?, toEntries, sectionEntry, Entries.get?]
  simp [eq_comm]

/-- **Reading a document fills its fields in.** -/
theorem ofEntries?_of_fills (htables : HasTables es) (h : s.Fills es) : ofEntries? es = some s := by
  obtain ⟨⟨hbind, hconnections⟩, ⟨hpolicy, hbody⟩, ⟨hname, hbits, hdays⟩, hlevel, henabled, hmetrics⟩ :=
    fills_iff.1 h
  simp only [HasTables, Field.known, List.forall_mem_cons] at htables
  obtain ⟨hlistener, -, hdispatch, -, hauthority, -, -, hobservability, -⟩ := htables
  have htext : ∀ t : String, string? (.string t) = some t := fun _ => rfl
  have htruth : ∀ b : Bool, boolean? (.boolean b) = some b := fun _ => rfl
  simp only [ofEntries?, sectionOf?_eq hlistener, sectionOf?_eq hdispatch,
    sectionOf?_eq hauthority, sectionOf?_eq hobservability, Option.bind_eq_bind, Option.bind_some,
    Listener.ofSection?, get?_of_or htext hbind, get?_of_or natural?_natCast hconnections,
    Dispatch.ofSection?, get?_of_or policy?_name hpolicy, get?_of_or natural?_natCast hbody,
    Authority.ofSection?, get?_of_or htext hname, get?_of_or natural?_natCast hbits,
    get?_of_or natural?_natCast hdays, Observability.ofSection?, get?_of_or htext hlevel,
    get?_of_or htruth henabled, get?_of_or htext hmetrics, Option.pure_def]

/-- A document whose fields have what they may hold fills some settings. -/
theorem exists_fills (h : ∀ f ∈ Field.known, ∀ v, f.value? es = some v → f.kind.Admits v) :
    ∃ s : Settings, s.Fills es := by
  simp only [Field.known, List.forall_mem_cons, Field.value?, FieldKind.Admits] at h
  obtain ⟨hbind, hconnections, hpolicy, hbody, hname, hbits, hdays, hlevel, henabled, hmetrics, -⟩ := h
  obtain ⟨bindAddress, hbind⟩ := exists_or_eq hbind ({} : Listener).bindAddress
  obtain ⟨maxConnections, hconnections⟩ := exists_or_eq hconnections ({} : Listener).maxConnections
  obtain ⟨faultPolicy, hpolicy⟩ := exists_or_eq hpolicy ({} : Dispatch).faultPolicy
  obtain ⟨maxBodyBytes, hbody⟩ := exists_or_eq hbody ({} : Dispatch).maxBodyBytes
  obtain ⟨commonName, hname⟩ := exists_or_eq hname ({} : Authority).commonName
  obtain ⟨keyBits, hbits⟩ := exists_or_eq hbits ({} : Authority).keyBits
  obtain ⟨validityDays, hdays⟩ := exists_or_eq hdays ({} : Authority).validityDays
  obtain ⟨logLevel, hlevel⟩ := exists_or_eq hlevel ({} : Observability).logLevel
  obtain ⟨metricsEnabled, henabled⟩ := exists_or_eq henabled ({} : Observability).metricsEnabled
  obtain ⟨metricsAddress, hmetrics⟩ := exists_or_eq hmetrics ({} : Observability).metricsAddress
  exact ⟨⟨⟨bindAddress, maxConnections⟩, ⟨faultPolicy, maxBodyBytes⟩,
      ⟨commonName, keyBits, validityDays⟩, ⟨logLevel, metricsEnabled, metricsAddress⟩⟩,
    fills_iff.2 ⟨⟨hbind, hconnections⟩, ⟨hpolicy, hbody⟩, ⟨hname, hbits, hdays⟩, hlevel, henabled,
      hmetrics⟩⟩

/-- **No field of a document that is read has a wrong type.** -/
theorem not_refuses_of_ofEntries? (h : ofEntries? es = some s) :
    ∀ f ∈ Field.known, ∀ v, f.value? es = some v → ¬ f.kind.Refuses v := by
  simp only [ofEntries?, Option.bind_eq_bind, Option.bind_eq_some_iff, Option.pure_def,
    Option.some.injEq, Listener.ofSection?, Dispatch.ofSection?, Authority.ofSection?,
    Observability.ofSection?] at h
  obtain ⟨-, ⟨listener, hlistener, _, hbind, _, hconnections, -⟩,
    -, ⟨dispatch, hdispatch, _, hpolicy, _, hbody, -⟩,
    -, ⟨authority, hauthority, _, hname, _, hbits, _, hdays, -⟩,
    -, ⟨observability, hobservability, _, hlevel, _, henabled, _, hmetrics, -⟩, -⟩ := h
  simp only [Field.known, List.forall_mem_cons, List.not_mem_nil, false_imp_iff, implies_true,
    and_true, Field.value?]
  -- what stands in a field is what its section was read from
  exact ⟨fun v hv => not_refuses_text (read_of_get? hbind (section_of_field? hlistener hv _)),
    fun v hv => not_refuses_natural (read_of_get? hconnections (section_of_field? hlistener hv _)),
    fun v hv => not_refuses_policy (read_of_get? hpolicy (section_of_field? hdispatch hv _)),
    fun v hv => not_refuses_natural (read_of_get? hbody (section_of_field? hdispatch hv _)),
    fun v hv => not_refuses_text (read_of_get? hname (section_of_field? hauthority hv _)),
    fun v hv => not_refuses_natural (read_of_get? hbits (section_of_field? hauthority hv _)),
    fun v hv => not_refuses_natural (read_of_get? hdays (section_of_field? hauthority hv _)),
    fun v hv => not_refuses_text (read_of_get? hlevel (section_of_field? hobservability hv _)),
    fun v hv => not_refuses_truth (read_of_get? henabled (section_of_field? hobservability hv _)),
    fun v hv => not_refuses_text (read_of_get? hmetrics (section_of_field? hobservability hv _))⟩

/-- **Nothing but the known fields counts.** -/
theorem ofEntries?_congr {es' : Entries} (htables : HasTables es) (htables' : HasTables es')
    (h : ∀ f ∈ Field.known, f.value? es' = f.value? es) : ofEntries? es' = ofEntries? es := by
  simp only [HasTables, Field.known, List.forall_mem_cons] at htables htables'
  obtain ⟨hlistener, -, hdispatch, -, hauthority, -, -, hobservability, -⟩ := htables
  obtain ⟨hlistener', -, hdispatch', -, hauthority', -, -, hobservability', -⟩ := htables'
  simp only [Field.known, List.forall_mem_cons, Field.value?] at h
  obtain ⟨hbind, hconnections, hpolicy, hbody, hname, hbits, hdays, hlevel, henabled, hmetrics, -⟩ := h
  simp only [ofEntries?, sectionOf?_eq hlistener, sectionOf?_eq hdispatch,
    sectionOf?_eq hauthority, sectionOf?_eq hobservability, sectionOf?_eq hlistener',
    sectionOf?_eq hdispatch', sectionOf?_eq hauthority', sectionOf?_eq hobservability',
    Option.bind_eq_bind, Option.bind_some, Listener.ofSection?, Dispatch.ofSection?,
    Authority.ofSection?, Observability.ofSection?, Section.get?, hbind, hconnections, hpolicy, hbody,
    hname, hbits, hdays, hlevel, henabled, hmetrics]

/-! ### Texts -/

/-- **What a text gives by the table that it denotes.** -/
structure Reads (text : String) (es : Entries) : Prop where
  /-- If every known field that is there holds what it may, the settings are the defaults with these
  fields, -/
  filled : (∀ f ∈ Field.known, ∀ v, f.value? es = some v → f.kind.Admits v) →
    ∃ s : Settings, (∀ t : Settings, t.Fills es ↔ t = s)
      -- which are given exactly if they pass all checks,
      ∧ (parse text = .ok s ↔ s.IsSound)
      -- and otherwise those that they do not pass are reported, each once and in their order.
      ∧ (¬ s.IsSound → ∃ problems, parse text = .error (.invalid problems)
        ∧ (∀ p, p ∈ problems ↔ s.Violates p)
        ∧ problems.Pairwise (fun p q => p.rank < q.rank))
  /-- A known field of another type or range spoils the text, whatever else it says. -/
  spoiled : ∀ f ∈ Field.known, ∀ v, f.value? es = some v → f.kind.Refuses v →
    parse text = .error .parse
  /-- Nothing but the known fields counts. -/
  unknown : ∀ text' es', Toml.parse? text' = some es' → HasTables es' →
    (∀ f ∈ Field.known, f.value? es' = f.value? es) → parse text' = parse text

theorem parse_of_parse? {text : String} (h : Toml.parse? text = some es) :
    parse text = match ofEntries? es with
      | none => .error .parse
      | some s => if s.problems = [] then .ok s else .error (.invalid s.problems) := by
  rw [parse, h]
  rfl

/-- **Every text is read by the table that it denotes**, if the known sections that it has are tables. -/
theorem reads_of_parse? {text : String} (h : Toml.parse? text = some es) (htables : HasTables es) :
    Reads text es where
  filled := by
    intro hadmits
    obtain ⟨s, hs⟩ := exists_fills hadmits
    have hread := ofEntries?_of_fills htables hs
    have hparse := parse_of_parse? h
    simp only [hread] at hparse
    refine ⟨s, fun t => ⟨fun ht => ?_, fun ht => ht ▸ hs⟩, ?_, fun hsound => ?_⟩
    · exact Option.some.inj ((ofEntries?_of_fills htables ht).symm.trans hread)
    · rw [← problems_eq_nil_iff, hparse]
      by_cases hproblems : s.problems = [] <;> simp [hproblems]
    · have hproblems : s.problems ≠ [] := fun heq => hsound (problems_eq_nil_iff.1 heq)
      rw [if_neg hproblems] at hparse
      exact ⟨s.problems, hparse, fun p => mem_problems_iff, pairwise_rank_problems s⟩
  spoiled := by
    intro f hf v hv hrefuses
    have hparse := parse_of_parse? h
    cases hread : ofEntries? es with
    | none => simpa only [hread] using hparse
    | some s => exact absurd hrefuses (not_refuses_of_ofEntries? hread f hf v hv)
  unknown := by
    intro text' es' h' htables' hfields
    rw [parse_of_parse? h, parse_of_parse? h', ofEntries?_congr htables htables' hfields]

/-- A text with an inline section, an empty one, some that are absent, and a name that is not known. -/
def sampleText : String :=
  "listener = \x7bmax_connections = 0, backlog = 1\x7d\n[authority]\n[observability]\n"
    ++ "metrics_enabled = true\nmetrics_address = \"nowhere\"\n"

/-- What the text above gives by its table: two checks are not passed. -/
theorem reads_sampleText : ∃ es, Toml.parse? sampleText = some es ∧ HasTables es
    ∧ Reads sampleText es
    ∧ parse sampleText = .error (.invalid [.maxConnections, .metricsAddress "nowhere"]) := by
  have hread : (Toml.parse? sampleText).isSome = true := by decide +kernel
  have hchecks : ∀ es ∈ Toml.parse? sampleText, HasTables es ∧ (ofEntries? es).map Settings.problems
      = some [.maxConnections, .metricsAddress "nowhere"] := by
    decide +kernel
  obtain ⟨es, hparse⟩ := Option.isSome_iff_exists.1 hread
  obtain ⟨htables, hproblems⟩ := hchecks es hparse
  obtain ⟨s, hs, hproblems⟩ := Option.map_eq_some_iff.1 hproblems
  refine ⟨es, hparse, htables, reads_of_parse? hparse htables, ?_⟩
  simp only [parse_of_parse? hparse, hs, hproblems, reduceCtorEq, if_false]

end Settings

end RevocationLab
