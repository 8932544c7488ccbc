/-
**The problems of settings.**

Settings have no problems exactly if each of the checks is passed, and a text gives settings exactly if it
denotes some that have none.  Otherwise every check that is not passed is a problem, and the problems
stand in the order of the checks.

Main definitions:

* `Settings.IsSound` — **what the checks ask of settings**;
* `Settings.Violates` — the checks that are not passed, each with what is reported of it;
* `Settings.Problem.rank` — the place of a check among the others.

Main results:

* `Settings.problems_eq_nil_iff` — **no problems are found exactly in sound settings**;
* `Settings.mem_problems_iff`, `Settings.pairwise_rank_problems` — **the problems are the checks that are
  not passed, in their order**;
* `Settings.parse_eq_ok_iff` — which texts give settings.
-/

import RevocationLab.Settings.Reading

set_option autoImplicit false

namespace RevocationLab

namespace Settings

/-- **What the checks ask of settings.** -/
structure IsSound (s : Settings) : Prop where
  bindAddress : ∃ a, SocketAddress.ofText? s.listener.bindAddress = some a
  maxConnections : 0 < s.listener.maxConnections
  maxBodyBytes : 0 < s.dispatch.maxBodyBytes
  keyBits : minKeyBits ≤ s.authority.keyBits
  validityDays : 0 < s.authority.validityDays
  /-- The address of the metrics is of no account where they are not enabled. -/
  metricsAddress : s.observability.metricsEnabled = true →
    ∃ a, SocketAddress.ofText? s.observability.metricsAddress = some a

theorem problemIf_eq_nil_iff {wrong : Bool} {p : Problem} :
    problemIf wrong p = [] ↔ wrong = false := by
  cases wrong <;> simp [problemIf]

/-- **No problems are found exactly in sound settings.** -/
theorem problems_eq_nil_iff {s : Settings} : s.problems = [] ↔ s.IsSound := by
  have haddress : ∀ text : String, (SocketAddress.ofText? text).isNone = false ↔
      ∃ a, SocketAddress.ofText? text = some a := by
    intro text
    rw [Option.isNone_eq_false_iff, Option.isSome_iff_exists]
  simp only [problems, List.append_eq_nil_iff, problemIf_eq_nil_iff, Bool.and_eq_false_imp,
    haddress, beq_eq_false_iff_ne, decide_eq_false_iff_not, Nat.not_lt]
  constructor
  · rintro ⟨⟨⟨⟨⟨hbind, hconnections⟩, hbody⟩, hkey⟩, hdays⟩, hmetrics⟩
    exact ⟨hbind, Nat.pos_of_ne_zero hconnections, Nat.pos_of_ne_zero hbody, hkey,
      Nat.pos_of_ne_zero hdays, hmetrics⟩
  · intro h
    exact ⟨⟨⟨⟨⟨h.bindAddress, Nat.ne_of_gt h.maxConnections⟩, Nat.ne_of_gt h.maxBodyBytes⟩,
      h.keyBits⟩, Nat.ne_of_gt h.validityDays⟩, h.metricsAddress⟩

/-! ### Every problem in its place -/

/-- The checks that settings do not pass. -/
inductive Violates (s : Settings) : Problem → Prop
  | bindAddress (h : SocketAddress.ofText? s.listener.bindAddress = none) :
      Violates s (.bindAddress s.listener.bindAddress)
  | maxConnections (h : s.listener.maxConnections = 0) : Violates s .maxConnections
  | maxBodyBytes (h : s.dispatch.maxBodyBytes = 0) : Violates s .maxBodyBytes
  | keyBits (h : s.authority.keyBits < 1024) : Violates s (.keyBits s.authority.keyBits)
  | validityDays (h : s.authority.validityDays = 0) : Violates s .validityDays
  /-- The address of the metrics is checked only where they are enabled. -/
  | metricsAddress (henabled : s.observability.metricsEnabled = true)
      (h : SocketAddress.ofText? s.observability.metricsAddress = none) :
      Violates s (.metricsAddress s.observability.metricsAddress)

/-- The place of a problem in the order of the checks. -/
def Problem.rank : Problem → Nat
  | bindAddress _ => 0
  | maxConnections => 1
  | maxBodyBytes => 2
  | keyBits _ => 3
  | validityDays => 4
  | metricsAddress _ => 5

theorem mem_problemIf_iff {wrong : Bool} {p q : Problem} :
    q ∈ problemIf wrong p ↔ wrong = true ∧ q = p := by
  cases wrong <;> simp [problemIf]

/-- **The problems are the checks that are not passed.** -/
theorem mem_problems_iff {s : Settings} {p : Problem} : p ∈ s.problems ↔ s.Violates p := by
  simp only [problems, List.mem_append, mem_problemIf_iff, Option.isNone_iff_eq_none, beq_iff_eq,
    decide_eq_true_eq, Bool.and_eq_true]
  constructor
  · rintro (((((⟨h, rfl⟩ | ⟨h, rfl⟩) | ⟨h, rfl⟩) | ⟨h, rfl⟩) | ⟨h, rfl⟩) | ⟨⟨henabled, h⟩, rfl⟩)
    · exact .bindAddress h
    · exact .maxConnections h
    · exact .maxBodyBytes h
    · exact .keyBits h
    · exact .validityDays h
    · exact .metricsAddress henabled h
  · intro h
    cases h with
    | bindAddress h => simp [h]
    | maxConnections h => simp [h]
    | maxBodyBytes h => simp [h]
    | keyBits h => simp [minKeyBits, h]
    | validityDays h => simp [h]
    | metricsAddress henabled h => simp [henabled, h]

theorem problemIf_sublist (wrong : Bool) (p : Problem) : (problemIf wrong p).Sublist [p] := by
  cases wrong with
  | false => exact List.nil_sublist [p]
  | true => exact List.Sublist.refl [p]

/-- **The problems stand in the order of the checks**, so that none is there twice. -/
theorem pairwise_rank_problems (s : Settings) :
    s.problems.Pairwise (fun a b => a.rank < b.rank) := by
  -- they are what is left of one problem for each check, all of them in order
  have hall : s.problems.Sublist
      ([.bindAddress s.listener.bindAddress] ++ [.maxConnections] ++ [.maxBodyBytes]
        ++ [.keyBits s.authority.keyBits] ++ [.validityDays]
        ++ [.metricsAddress s.observability.metricsAddress]) := by
    unfold problems
    repeat' apply List.Sublist.append
    all_goals exact problemIf_sublist _ _
  refine List.Pairwise.sublist hall ?_
  simp [Problem.rank]

/-! ### Texts -/

/-- Which texts give settings, and which ones. -/
theorem parse_eq_ok_iff {text : String} {s : Settings} :
    parse text = .ok s ↔ (Toml.parse? text >>= ofEntries?) = some s ∧ s.problems = [] := by
  unfold parse
  cases Toml.parse? text >>= ofEntries? with
  | none => simp
  | some t =>
      simp only [Option.some.injEq]
      by_cases ht : t.problems = []
      · rw [if_pos ht, Except.ok.injEq]
        constructor
        · rintro rfl
          exact ⟨rfl, ht⟩
        · exact fun h => h.1
      · rw [if_neg ht]
        simp only [reduceCtorEq, false_iff, not_and]
        rintro rfl
        exact ht

end Settings

end RevocationLab
