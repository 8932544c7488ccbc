/-
**Starting with settings.**

Settings that a text gives have passed their checks, so that a start finds an address to listen at and,
where metrics are enabled, an address for them.  The checks leave one thing open: they ask for at least
one connection, but not for as few as there can be permits.  Settings with more connections than that
are given, and break the start off before anything listens.

Main definitions:

* `Startup.Fails` — the ways in which a start ends early;
* `Startup.IsReady` — **what settings decide about a start**.

Main results:

* `Settings.Authority.lifetime?_eq_none_iff` — which lifetimes are too long to be counted;
* `Startup.fails_of_begin` — a start ends early in no other way;
* `Startup.isReady_of_parse` — **settings that a text gives start the program**, up to the number of
  permits;
* `Startup.begin_crowdedSettings` — **settings that a text gives and that break the start off**.
-/

import RevocationLab.Proofs.Settings.Problem
import RevocationLab.Startup

set_option autoImplicit false

namespace RevocationLab

/-! ### Listeners and servers -/

namespace Connection.Listener

variable {settings : Settings.Listener} {freePort : Nat} {cause : BindError}

/-- There is no listener without an address, nor with more permits than there can be. -/
theorem bind_eq_error_iff : bind settings freePort = .error cause ↔
    (cause = .address ∧ SocketAddress.ofText? settings.bindAddress = none)
      ∨ (cause = .permits ∧ maxPermits < settings.maxConnections
        ∧ ∃ asked, SocketAddress.ofText? settings.bindAddress = some asked) := by
  unfold bind
  cases SocketAddress.ofText? settings.bindAddress with
  | none => simp [eq_comm]
  | some asked =>
      by_cases hpermits : maxPermits < settings.maxConnections
      · simp [hpermits, eq_comm]
      · simp [hpermits]

/-- A listener has a permit for each connection. -/
theorem available_of_bind {l : Listener} (h : bind settings freePort = .ok l) :
    l.available = settings.maxConnections := by
  unfold bind at h
  split at h
  · cases h
  · split at h
    · cases h
    · cases h
      rfl

/-- At an address there is a listener for as many connections as there can be permits. -/
theorem exists_bind {asked : SocketAddress}
    (h : SocketAddress.ofText? settings.bindAddress = some asked)
    (hpermits : settings.maxConnections ≤ maxPermits) : ∃ l, bind settings freePort = .ok l := by
  cases hbind : bind settings freePort with
  | ok l => exact ⟨l, rfl⟩
  | error cause =>
      rcases bind_eq_error_iff.1 hbind with ⟨-, hnone⟩ | ⟨-, hmany, -⟩
      · rw [h] at hnone
        cases hnone
      · exact absurd hpermits (Nat.not_le.2 hmany)

end Connection.Listener

theorem Server.start_eq_error_iff {settings : Settings} {freePort : Nat} {l : Lab}
    {cause : Connection.BindError} :
    Server.start settings freePort l = .error cause ↔
      Connection.Listener.bind settings.listener freePort = .error cause := by
  unfold Server.start
  cases Connection.Listener.bind settings.listener freePort with
  | error e => simp [bind, Except.bind]
  | ok listener => simp [bind, Except.bind, pure, Except.pure]

/-- A lifetime has too many seconds from 213503982334602 days on. -/
theorem Settings.Authority.lifetime?_eq_none_iff {a : Settings.Authority} :
    a.lifetime? = none ↔ 213503982334602 ≤ a.validityDays := by
  rw [lifetime?, Duration.ofSeconds?, dite_eq_right_iff]
  simp only [reduceCtorEq, imp_false, UInt64.size]
  omega

namespace Startup

open Connection

/-! ### How a start ends early -/

/-- **The ways in which a start ends early.** -/
inductive Fails (s : Settings) (c : Chances) : Failure → Prop
  /-- Metrics are enabled at no address. -/
  | metricsAddress (henabled : s.observability.metricsEnabled = true)
      (h : SocketAddress.ofText? s.observability.metricsAddress = none) :
      Fails s c .metricsAddress
  /-- There is no listener. -/
  | server (cause : BindError) (h : Listener.bind s.listener c.freePort = .error cause) :
      Fails s c (.server cause)
  /-- The lifetime has more seconds than fit. -/
  | lifetime (h : s.authority.lifetime? = none) : Fails s c .lifetime
  /-- No key was found, an authority could not be made, or its responders not be registered. -/
  | key : Fails s c .key
  | authority (cause : Authority.Error) : Fails s c (.authority cause)
  | registration (cause : Routing.RegistrationError) : Fails s c (.registration cause)

variable {s : Settings} {c : Chances} {now : Instant} {cause : Failure}

theorem fails_of_announce {r : Running} {place : Nat} (h : (announce r place).2 = .error cause) :
    Fails s c cause := by
  unfold announce at h
  split at h
  · cases h
    exact .authority _
  · split at h
    · cases h
      exact .registration _
    · split at h
      · cases h
        exact .registration _
      · cases h

theorem fails_of_populate {r : Running} {base : Url} {rootKey intermediateKey : Rsa.KeyPair}
    (h : (populate r s.authority base rootKey intermediateKey c now).2 = .error cause) :
    Fails s c cause := by
  unfold populate at h
  simp only at h
  split at h
  · next hlifetime =>
      cases h
      exact .lifetime hlifetime
  · split at h
    · cases h
      exact .authority _
    · split at h
      · cases h
        exact .authority _
      · split at h
        · next hannounce =>
            cases h
            exact fails_of_announce (congrArg Prod.snd hannounce)
        · exact fails_of_announce h

theorem metricsAddress?_eq_error_iff {o : Settings.Observability} :
    metricsAddress? o = .error cause ↔ cause = .metricsAddress ∧ o.metricsEnabled = true
      ∧ SocketAddress.ofText? o.metricsAddress = none := by
  unfold metricsAddress?
  cases o.metricsEnabled with
  | false => simp
  | true =>
      cases SocketAddress.ofText? o.metricsAddress with
      | none => simp [eq_comm]
      | some address => simp

/-- **A start ends early in no other way.** -/
theorem fails_of_begin (h : (begin s c now).2 = .error cause) : Fails s c cause := by
  unfold begin at h
  simp only at h
  -- the stages of a start in their order: each ends it or leads to the next
  split at h
  · next hmetrics =>
      cases h
      obtain ⟨rfl, henabled, haddress⟩ := metricsAddress?_eq_error_iff.1 hmetrics
      exact .metricsAddress henabled haddress
  · split at h
    · next hstart =>
        cases h
        exact .server _ (Server.start_eq_error_iff.1 hstart)
    · split at h
      · exact fails_of_populate h
      · cases h
        exact .key

/-- Where metrics have their address, a start without a listener ends for that. -/
theorem begin_of_bind {e : BindError} {address? : Option SocketAddress}
    (hmetrics : metricsAddress? s.observability = .ok address?)
    (h : Listener.bind s.listener c.freePort = .error e) :
    (begin s c now).2 = .error (.server e) := by
  unfold begin
  simp only [hmetrics]
  rw [Server.start_eq_error_iff.2 h]

/-! ### What settings decide -/

/-- **What settings decide about a start.** -/
structure IsReady (s : Settings) : Prop where
  /-- The address to listen at can be read, -/
  bindAddress : ∃ a, SocketAddress.ofText? s.listener.bindAddress = some a
  /-- and the address of the metrics if they are enabled. -/
  metricsAddress : s.observability.metricsEnabled = true →
    ∃ a, SocketAddress.ofText? s.observability.metricsAddress = some a
  /-- There is a listener with a permit for each connection, up to as many as there can be. -/
  listens : s.listener.maxConnections ≤ maxPermits → ∀ freePort, ∃ l,
    Listener.bind s.listener freePort = .ok l ∧ l.available = s.listener.maxConnections
      ∧ 0 < l.available
  /-- No start ends early for want of an address, -/
  addressed : ∀ c now cause, (begin s c now).2 = .error cause →
    cause ≠ .metricsAddress ∧ cause ≠ .server .address
  /-- and every start is broken off where there are more connections than permits, but no other is. -/
  permits_iff : ∀ c now, (begin s c now).2 = .error (.server .permits) ↔
    maxPermits < s.listener.maxConnections

theorem exists_metricsAddress (h : s.IsSound) :
    ∃ address?, metricsAddress? s.observability = .ok address? := by
  cases hmetrics : metricsAddress? s.observability with
  | ok address? => exact ⟨address?, rfl⟩
  | error cause =>
      obtain ⟨-, henabled, hnone⟩ := metricsAddress?_eq_error_iff.1 hmetrics
      obtain ⟨a, ha⟩ := h.metricsAddress henabled
      rw [hnone] at ha
      cases ha

/-- With sound settings a start finds its addresses. -/
theorem addressed_of_isSound (h : s.IsSound) (hcause : (begin s c now).2 = .error cause) :
    cause ≠ .metricsAddress ∧ cause ≠ .server .address := by
  constructor
  · rintro rfl
    cases fails_of_begin hcause with
    | metricsAddress henabled hnone =>
        obtain ⟨a, ha⟩ := h.metricsAddress henabled
        rw [hnone] at ha
        cases ha
  · rintro rfl
    cases fails_of_begin hcause with
    | server _ hbind =>
        rcases Listener.bind_eq_error_iff.1 hbind with ⟨-, hnone⟩ | ⟨hpermits, -⟩
        · obtain ⟨a, ha⟩ := h.bindAddress
          rw [hnone] at ha
          cases ha
        · cases hpermits

/-- With sound settings a start is broken off exactly for want of permits. -/
theorem begin_eq_permits_iff (h : s.IsSound) : (begin s c now).2 = .error (.server .permits) ↔
    maxPermits < s.listener.maxConnections := by
  constructor
  · intro hcause
    cases fails_of_begin hcause with
    | server _ hbind =>
        rcases Listener.bind_eq_error_iff.1 hbind with ⟨haddress, -⟩ | ⟨-, hmany, -⟩
        · cases haddress
        · exact hmany
  · intro hmany
    obtain ⟨address?, hmetrics⟩ := exists_metricsAddress h
    exact begin_of_bind hmetrics (Listener.bind_eq_error_iff.2 (.inr ⟨rfl, hmany, h.bindAddress⟩))

/-- Sound settings are ready for a start. -/
theorem isReady_of_isSound (h : s.IsSound) : IsReady s where
  bindAddress := h.bindAddress
  metricsAddress := h.metricsAddress
  listens hpermits freePort := by
    obtain ⟨asked, hasked⟩ := h.bindAddress
    have hbind : ∃ l, Listener.bind s.listener freePort = .ok l :=
      Listener.exists_bind hasked hpermits
    obtain ⟨l, hl⟩ := hbind
    have havailable := Listener.available_of_bind hl
    exact ⟨l, hl, havailable, havailable ▸ h.maxConnections⟩
  addressed _ _ _ hcause := addressed_of_isSound h hcause
  permits_iff _ _ := begin_eq_permits_iff h

/-- **Settings that a text gives start the program**, up to the number of permits. -/
theorem isReady_of_parse {text : String} (h : Settings.parse text = .ok s) : IsReady s :=
  isReady_of_isSound (Settings.problems_eq_nil_iff.1 (Settings.parse_eq_ok_iff.1 h).2)

/-- Settings with metrics, and with as many connections as there can be permits. -/
def fullSettings : Settings :=
  { listener := { bindAddress := "[::1]:0", maxConnections := 2305843009213693951 }
    observability := { metricsEnabled := true, metricsAddress := "[fe80::1%3]:9090" } }

/-- A text that gives them. -/
def fullText : String :=
  "[listener]\nbind_address = '[::1]:0'\nmax_connections = 0x1fffffffffffffff\n"
    ++ "[observability]\nmetrics_enabled = true\nmetrics_address = \"[fe80::1%3]:9090\"\n"

theorem isReady_fullSettings : Settings.parse fullText = .ok fullSettings ∧ IsReady fullSettings
    ∧ fullSettings.listener.maxConnections ≤ maxPermits := by
  have hparse : Settings.parse fullText = .ok fullSettings :=
    Settings.parse_eq_ok_iff.2 ⟨by decide +kernel, by decide +kernel⟩
  exact ⟨hparse, isReady_of_parse hparse, by decide⟩

/-- Settings with one connection more. -/
def crowdedSettings : Settings := { listener := { maxConnections := 2305843009213693952 } }

/-- A text that gives them. -/
def crowdedText : String := "[listener]\nmax_connections = 2305843009213693952\n"

/-- **Settings that a text gives and that break the start off.** -/
theorem begin_crowdedSettings : Settings.parse crowdedText = .ok crowdedSettings
    ∧ ∀ c now, (begin crowdedSettings c now).2 = .error (.server .permits) := by
  have hproblems : crowdedSettings.problems = [] := by decide +kernel
  have hsound := Settings.problems_eq_nil_iff.1 hproblems
  refine ⟨Settings.parse_eq_ok_iff.2 ⟨by decide +kernel, hproblems⟩, fun c now => ?_⟩
  exact (begin_eq_permits_iff hsound).2 (by decide)

end Startup

end RevocationLab
