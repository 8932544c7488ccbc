/-
**Reading settings.**

Settings are read from a document.  A section may be a table, or an array that gives its fields in
order; what is absent takes its default, and what is not known is passed over.  A field of the wrong
type spoils the whole document.

Main definitions:

* `Settings.Section` — the fields of a section by name or position;
* `Settings.ofEntries?` — settings from the entries of a document;
* `Settings.parse`, `Settings.load` — settings that have no problems, from a text or a file;
* `Settings.LoadError` — why there are none.
-/

import RevocationLab.Settings.Problem
import RevocationLab.Toml.Document

set_option autoImplicit false

namespace RevocationLab

namespace Settings

/-! ### Fields -/

/-- The fields of a section, each looked up by its name and its position. -/
abbrev Section := String → Nat → Option Toml.Value

/-- The section that a value stands for.  A date or time is a section without known fields. -/
def Section.ofValue? : Toml.Value → Option Section
  | .table _ es => some fun name _ => Toml.Entries.get? es name
  | .array _ items => some fun _ position => items[position]?
  | .moment _ => some fun _ _ => none
  | _ => none

/-- A string. -/
def string? : Toml.Value → Option String
  | .string s => some s
  | _ => none

/-- An integer that is not negative. -/
def natural? : Toml.Value → Option Nat
  | .integer n => if n < 0 then none else some n.toNat
  | _ => none

/-- A truth value. -/
def boolean? : Toml.Value → Option Bool
  | .boolean b => some b
  | _ => none

/-- Whether a value is an empty table or array. -/
def isEmpty : Toml.Value → Bool
  | .table _ [] => true
  | .array _ [] => true
  | _ => false

/-- A policy by its name, which may also be the only key of a table with an empty value. -/
def policy? : Toml.Value → Option FaultPolicy
  | .string s => FaultPolicy.ofName? s
  | .table _ [(name, value)] => if isEmpty value then FaultPolicy.ofName? name else none
  | _ => none

/-- The value of a field: its default when it is absent, and nothing when it has the wrong type. -/
def Section.get? {α : Type} (sect : Section) (name : String) (position : Nat)
    (read : Toml.Value → Option α) (default : α) : Option α :=
  match sect name position with
  | none => some default
  | some v => read v

/-! ### Sections -/

/-- The listener's section. -/
def Listener.ofSection? (s : Section) : Option Listener := do
  let d : Listener := {}
  return ⟨← s.get? "bind_address" 0 string? d.bindAddress,
    ← s.get? "max_connections" 1 natural? d.maxConnections⟩

/-- The dispatcher's section. -/
def Dispatch.ofSection? (s : Section) : Option Dispatch := do
  let d : Dispatch := {}
  return ⟨← s.get? "fault_policy" 0 policy? d.faultPolicy,
    ← s.get? "max_body_bytes" 1 natural? d.maxBodyBytes⟩

/-- The authority's section. -/
def Authority.ofSection? (s : Section) : Option Authority := do
  let d : Authority := {}
  return ⟨← s.get? "common_name" 0 string? d.commonName, ← s.get? "key_bits" 1 natural? d.keyBits,
    ← s.get? "validity_days" 2 natural? d.validityDays⟩

/-- The section of what is reported. -/
def Observability.ofSection? (s : Section) : Option Observability := do
  let d : Observability := {}
  return ⟨← s.get? "log_level" 0 string? d.logLevel,
    ← s.get? "metrics_enabled" 1 boolean? d.metricsEnabled,
    ← s.get? "metrics_address" 2 string? d.metricsAddress⟩

/-- The section under a name; one that is absent has no fields. -/
def sectionOf? (es : Toml.Entries) (name : String) : Option Section :=
  match es.get? name with
  | none => some fun _ _ => none
  | some v => Section.ofValue? v

/-- The settings that the entries of a document give. -/
def ofEntries? (es : Toml.Entries) : Option Settings := do
  return ⟨← sectionOf? es "listener" >>= Listener.ofSection?,
    ← sectionOf? es "dispatch" >>= Dispatch.ofSection?,
    ← sectionOf? es "authority" >>= Authority.ofSection?,
    ← sectionOf? es "observability" >>= Observability.ofSection?⟩

/-! ### Texts and files -/

/-- Why a file could not be read as text. -/
inductive FileError where
  | missing
  | notUtf8
  deriving DecidableEq, Repr

/-- The text of an error. -/
def FileError.message : FileError → String
  | missing => "No such file or directory (os error 2)"
  | notUtf8 => "stream did not contain valid UTF-8"

/-- Why there are no settings. -/
inductive LoadError where
  | file (cause : FileError)
  | parse
  | invalid (problems : List Problem)
  deriving DecidableEq, Repr

/-- The text of an error. -/
def LoadError.message : LoadError → String
  | file cause => "IO error: " ++ cause.message
  | parse => "Parse error"
  | invalid problems =>
      "Validation failed: " ++ String.intercalate ", " (problems.map Problem.message)

/-- The settings that a text gives, if they have no problems. -/
def parse (text : String) : Except LoadError Settings :=
  match Toml.parse? text >>= ofEntries? with
  | none => .error .parse
  | some s => if s.problems = [] then .ok s else .error (.invalid s.problems)

/-- The settings in a file with this content, if it exists. -/
def load (content : Option Octets) : Except LoadError Settings :=
  match content with
  | none => .error (.file .missing)
  | some octets =>
      match Octets.toText? octets with
      | none => .error (.file .notUtf8)
      | some text => parse text

end Settings

end RevocationLab
