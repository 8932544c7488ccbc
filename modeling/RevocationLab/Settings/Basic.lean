/-
**Settings.**

What a run of the server can be told: where it listens, what it does after a fault, which authority
it builds and what it reports.  Every setting has a default.

Main definitions:

* `Settings` with its sections `Settings.Listener`, `Settings.Dispatch`, `Settings.Authority` and
  `Settings.Observability`;
* `Settings.FaultPolicy` — what follows a fault.
-/

import RevocationLab.Instant

set_option autoImplicit false

namespace RevocationLab

namespace Settings

/-- Where the server listens, and for how many connections at once. -/
structure Listener where
  bindAddress : String := "127.0.0.1:0"
  maxConnections : Nat := 1024
  deriving DecidableEq, Repr

/-- What the dispatcher does after a responder failed. -/
inductive FaultPolicy where
  /-- Drops the connection without a response. -/
  | dropConnection
  /-- Answers with an empty response of status 500. -/
  | internalServerError
  deriving DecidableEq, Repr

namespace FaultPolicy

/-- The name of a policy in settings. -/
def name : FaultPolicy → String
  | dropConnection => "drop_connection"
  | internalServerError => "internal_server_error"

/-- The policy with a name. -/
def ofName? (s : String) : Option FaultPolicy :=
  [dropConnection, internalServerError].find? fun p => p.name == s

/-- The name of a policy in reports. -/
def title : FaultPolicy → String
  | dropConnection => "DropConnection"
  | internalServerError => "InternalServerError"

end FaultPolicy

/-- How requests are dispatched. -/
structure Dispatch where
  faultPolicy : FaultPolicy := .dropConnection
  maxBodyBytes : Nat := 1048576
  deriving DecidableEq, Repr

/-- The authority that the program builds. -/
structure Authority where
  commonName : String := "Test Root CA"
  keyBits : Nat := 2048
  validityDays : Nat := 365
  deriving DecidableEq, Repr

/-- How long certificates last, if the seconds of so many days fit sixty-four bits. -/
def Authority.lifetime? (a : Authority) : Option Duration :=
  Duration.ofSeconds? (a.validityDays * 24 * 60 * 60)

/-- What is reported, and where. -/
structure Observability where
  logLevel : String := "info"
  metricsEnabled : Bool := false
  metricsAddress : String := "127.0.0.1:9090"
  deriving DecidableEq, Repr

end Settings

/-- All settings. -/
structure Settings where
  listener : Settings.Listener := {}
  dispatch : Settings.Dispatch := {}
  authority : Settings.Authority := {}
  observability : Settings.Observability := {}
  deriving DecidableEq, Repr

end RevocationLab
