/-
**Events.**

An event has a level, the part of the library that it comes from, a message and named fields.

Main definitions:

* `Log.Level`, `Log.Level.rank`;
* `Log.Event`, `Log.Event.line`;
* `Log.event` — an event of a part of this library.
-/

set_option autoImplicit false

namespace RevocationLab

namespace Log

/-- How much an event matters, from most to least. -/
inductive Level where
  | error
  | warn
  | info
  | debug
  | trace
  deriving DecidableEq, Repr

namespace Level

/-- The rank of a level: the more events a level lets through, the higher. -/
def rank : Level → Nat
  | error => 1
  | warn => 2
  | info => 3
  | debug => 4
  | trace => 5

/-- The name of a level in capitals. -/
def name : Level → String
  | error => "ERROR"
  | warn => "WARN"
  | info => "INFO"
  | debug => "DEBUG"
  | trace => "TRACE"

end Level

/-- Something that happened. -/
structure Event where
  level : Level
  origin : String
  message : String
  fields : List (String × String)
  deriving DecidableEq, Repr

/-- The event on one line: level, origin, message and fields in their order. -/
def Event.line (e : Event) : String :=
  e.level.name ++ " " ++ e.origin ++ ": "
    ++ String.intercalate " " (e.message :: e.fields.map fun f => f.1 ++ "=" ++ f.2)

/-- An event of this library: `part` names the part of it that the event comes from. -/
def event (level : Level) (part message : String) (fields : List (String × String)) : Event :=
  ⟨level, "signing_test_server::" ++ part, message, fields⟩

end Log

end RevocationLab
