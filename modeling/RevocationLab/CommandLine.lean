/-
**The command line.**

The program takes one option, the path of a settings file, and can print its help.  Arguments are read
from left to right: an option that still waits for its value, or was given twice, is complained about
when the next option is taken up, while an argument that nobody asked for is complained about at once.

Main definitions:

* `CommandLine.Command` — what the program is told to do;
* `CommandLine.UsageError`, `CommandLine.UsageError.message`;
* `CommandLine.parse`, `CommandLine.helpText`.
-/

import RevocationLab.Text.Similarity

set_option autoImplicit false

namespace RevocationLab

namespace CommandLine

/-! ### Commands and errors -/

/-- What the program is told to do. -/
inductive Command where
  | help
  | serve (settingsPath : Option String)
  deriving DecidableEq, Repr

/-- Which options a usage line shows. -/
inductive Usage where
  /-- That there are options. -/
  | any
  /-- Some options. -/
  | only (config help : Bool)
  deriving DecidableEq, Repr

/-- What is wrong with the arguments. -/
inductive UsageError where
  | missingValue
  | repeated
  | unexpected (argument : String) (similar : Option String) (usage : Usage)
  | unexpectedValue (value : String) (usage : Usage)
  deriving DecidableEq, Repr

/-- The name of the program. -/
def programName : String := "signing-test-server"

/-- The option for settings with its value. -/
def configOption : String := "--config <CONFIG>"

/-- The text of a usage line. -/
def Usage.text : Usage → String
  | any => s!"Usage: {programName} [OPTIONS]"
  | only config help =>
      s!"Usage: {programName}" ++ (if config then " " ++ configOption else "")
        ++ (if help then " --help" else "")

/-- What every complaint ends with. -/
def hint : String := "For more information, try '--help'.\n"

/-- The text of an error. -/
def UsageError.message : UsageError → String
  | missingValue =>
      s!"error: a value is required for '{configOption}' but none was supplied\n\n{hint}"
  | repeated =>
      s!"error: the argument '{configOption}' cannot be used multiple times\n\n"
        ++ Usage.any.text ++ "\n\n" ++ hint
  | unexpected argument similar usage =>
      let tip := match similar with
        | some s => s!"  tip: a similar argument exists: '--{s}'\n\n"
        | none => ""
      s!"error: unexpected argument '{argument}' found\n\n" ++ tip ++ usage.text ++ "\n\n" ++ hint
  | unexpectedValue value usage =>
      s!"error: unexpected value '{value}' for '--help' found; no more were expected\n\n"
        ++ usage.text ++ "\n\n" ++ hint

/-- The lines of the help. -/
def helpText : List String := [
  "Loopback OCSP and certificate server for signing tests",
  "",
  s!"Usage: {programName} [OPTIONS]",
  "",
  "Options:",
  "  -c, --config <CONFIG>  Path to a TOML configuration file; defaults are used when omitted",
  "  -h, --help             Print help"]

/-! ### Reading arguments -/

/-- The settings path that was taken up, and the option that is still open: it may have its value
already. -/
structure Seen where
  path : Option String := none
  isOpen : Bool := false
  value : Option String := none
  deriving DecidableEq, Repr

namespace Seen

/-- Closes the open option. -/
def close (s : Seen) : Except UsageError Seen :=
  if s.isOpen then
    match s.value with
    | none => .error .missingValue
    | some v =>
        if s.path.isSome then .error .repeated
        else if v = "" then .error .missingValue
        else .ok { path := some v }
  else .ok s

/-- Closes the open option, and forgets it if it cannot be closed. -/
def settle (s : Seen) : Seen :=
  match s.close with
  | .ok s => s
  | .error _ => { s with isOpen := false, value := none }

/-- Whether the open option waits for its value. -/
def isWaiting (s : Seen) : Bool := s.isOpen && s.value.isNone

/-- Opens the option for settings. -/
def openOption (s : Seen) (value : Option String) : Except UsageError Seen := do
  return { (← s.close) with isOpen := true, value }

/-- The usage line for an option that is not known; `help` tells that help is meant. -/
def usage (s : Seen) (config help : Bool) : Usage :=
  let config := config || s.path.isSome
  if config || help then .only config help else .any

end Seen

/-- What an argument does: it goes on, or ends with the help. -/
inductive Taken where
  | more (seen : Seen)
  | help

/-- The name and the value of a long option. -/
def splitValue (s : List Char) : String × Option String :=
  (String.ofList (s.takeWhile (· != '=')),
    match s.dropWhile (· != '=') with
    | [] => none
    | _ :: v => some (String.ofList v))

/-- The effect of a long option. -/
def takeLong (s : Seen) (text : List Char) : Except UsageError Taken := do
  match splitValue text with
  | ("config", value) => return .more (← s.openOption value)
  | ("help", none) =>
      let _ ← s.close
      return .help
  | ("help", some value) => throw (.unexpectedValue value (s.usage false true))
  | (name, _) =>
      let similar := Similarity.closest? name ["config", "help"]
      throw (.unexpected ("--" ++ name) similar
        (s.settle.usage (similar == some "config") (similar == some "help")))

/-- The effect of short options written together. -/
def takeShort (s : Seen) : List Char → Except UsageError Taken
  | 'h' :: _ => do
      let _ ← s.close
      return .help
  | 'c' :: r => do
      let value := match r with
        | [] => none
        | '=' :: v => some (String.ofList v)
        | v => some (String.ofList v)
      return .more (← s.openOption value)
  | c :: _ => throw (.unexpected (String.ofList ['-', c]) none .any)
  | [] => throw (.unexpected "-" none .any)

/-- The effect of one argument. -/
def take (s : Seen) (argument : String) : Except UsageError Taken :=
  match argument.toList with
  | '-' :: '-' :: r => takeLong s r
  | '-' :: c :: r => takeShort s (c :: r)
  | _ =>
      if s.isWaiting then .ok (.more { s with value := some argument })
      else .error (.unexpected argument none .any)

/-- The command of some arguments, after others have been seen. -/
def parseFrom (s : Seen) : List String → Except UsageError Command
  | [] => do return .serve (← s.close).path
  | "--" :: rest =>
      match rest with
      | [] => do return .serve (← s.close).path
      | argument :: _ => .error (.unexpected argument none .any)
  | argument :: rest => do
      match ← take s argument with
      | .help => return .help
      | .more s => parseFrom s rest

/-- The command of some arguments. -/
def parse (arguments : List String) : Except UsageError Command := parseFrom {} arguments

end CommandLine

end RevocationLab
