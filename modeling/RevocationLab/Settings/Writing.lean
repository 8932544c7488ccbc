/-
**Settings as a document.**

Settings are written as a document of four sections with all their fields.

Main definitions:

* `Settings.toEntries` — the document of some settings.

Main results:

* `Settings.ofEntries?_toEntries` — **reading what was written gives the settings back**.
-/

import RevocationLab.Settings.Reading

set_option autoImplicit false

namespace RevocationLab

namespace Settings

open Toml

/-- A section with its fields. -/
def sectionEntry (name : String) (fields : Entries) : String × Value :=
  (name, .table .header fields)

/-- The document of some settings. -/
def toEntries (s : Settings) : Entries := [
  sectionEntry "listener" [
    ("bind_address", .string s.listener.bindAddress),
    ("max_connections", .integer s.listener.maxConnections)],
  sectionEntry "dispatch" [
    ("fault_policy", .string s.dispatch.faultPolicy.name),
    ("max_body_bytes", .integer s.dispatch.maxBodyBytes)],
  sectionEntry "authority" [
    ("common_name", .string s.authority.commonName),
    ("key_bits", .integer s.authority.keyBits),
    ("validity_days", .integer s.authority.validityDays)],
  sectionEntry "observability" [
    ("log_level", .string s.observability.logLevel),
    ("metrics_enabled", .boolean s.observability.metricsEnabled),
    ("metrics_address", .string s.observability.metricsAddress)]]

theorem natural?_natCast (n : Nat) : natural? (.integer n) = some n := by
  simp [natural?]

theorem policy?_name (p : FaultPolicy) : policy? (.string p.name) = some p := by
  cases p <;> decide

/-- **Reading what was written gives the settings back.** -/
theorem ofEntries?_toEntries (s : Settings) : ofEntries? s.toEntries = some s := by
  have hn := natural?_natCast
  have hp := policy?_name s.dispatch.faultPolicy
  simp [ofEntries?, toEntries, sectionEntry, sectionOf?, Entries.get?, Section.ofValue?,
    Listener.ofSection?, Dispatch.ofSection?, Authority.ofSection?, Observability.ofSection?,
    Section.get?, string?, boolean?, hn, hp]

end Settings

end RevocationLab
