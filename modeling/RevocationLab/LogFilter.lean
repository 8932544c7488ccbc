/-
**Which events are kept.**

A filter is a set of rules: each sets a level for the origins that start with its target, and the rule
with the longest target decides.

Main definitions:

* `LogFilter.Rule`, `LogFilter.Rule.ofText?`, `LogFilter.Rule.toText`;
* `LogFilter`, `LogFilter.ofText?`, `LogFilter.ofLevel`, `LogFilter.toText`;
* `LogFilter.keeps` — whether an event is kept;
* `LogFilter.install` — puts a filter to work, once.
-/

import RevocationLab.Log
import RevocationLab.Text.Ascii
import RevocationLab.Text.Words

set_option autoImplicit false

namespace RevocationLab

/-! ### Rules -/

namespace LogFilter

/-- What a rule lets through: events up to a rank, zero for none. -/
abbrev Limit := Nat

/-- The names of the limits by rank. -/
def limitNames : List String := ["off", "error", "warn", "info", "debug", "trace"]

/-- The name of a limit. -/
def limitText (n : Limit) : String := limitNames.getD n "trace"

/-- The limit that a name, in any letter case, or a single digit gives. -/
def limit? (s : List Char) : Option Limit :=
  match s with
  | [c] => if '0' ≤ c ∧ c ≤ '5' then some (c.toNat - 48) else none
  | _ => limitNames.findIdx? fun name => Ascii.eqIgnoreCase name.toList s

/-- Whether a target reads as a limit, and so is none. -/
def isLimit (s : List Char) : Bool :=
  match Ascii.word64? s with
  | some n => n ≤ 5
  | none => (limit? s).isSome

/-- A limit for the origins that start with a target, inside a span if one is named. -/
structure Rule where
  target : Option String
  span : Option String
  limit : Limit
  deriving DecidableEq, Repr

namespace Rule

/-- The characters of a target. -/
def isTargetChar (c : Char) : Bool := Words.isWordChar c || c == ':' || c == '-'

/-- The parts of a rule before its limit: targets, and spans in brackets. -/
inductive Part where
  | target (text : List Char)
  | span (text : List Char)

/-- The part at the front of a text, and the rest. -/
def part? (s : List Char) : Option (Part × List Char) :=
  match s with
  | '[' :: r =>
      match r.dropWhile (· != ']') with
      | ']' :: rest => some (.span (r.takeWhile (· != ']')), rest)
      | _ => none
  | _ =>
      let t := s.takeWhile isTargetChar
      if t = [] then none else some (.target t, s.dropWhile isTargetChar)

/-- The limit after the parts: an equals sign and a limit, either of which may be missing. -/
def rest? : List Char → Option Limit
  | [] => some 5
  | ['='] => some 5
  | '=' :: r => limit? r
  | _ => none

/-- The rule with these parts; of two parts of a kind the last one counts. -/
def ofParts (parts : List Part) (limit : Limit) : Rule :=
  parts.foldl
    (fun rule part =>
      match part with
      | .target t => { rule with target := if isLimit t then none else some (String.ofList t) }
      | .span s =>
          let inner := (s.dropWhile (· == '[')).takeWhile (· != '\x7b')
          { rule with span := if inner = [] then none else some (String.ofList inner) })
    ⟨none, none, limit⟩

/-- The rule that a text writes: a limit alone, or one or two parts with a limit. -/
def ofText? (text : List Char) : Option Rule :=
  match limit? text with
  | some n => some ⟨none, none, n⟩
  | none => do
      let (first, r) ← part? text
      match rest? r with
      | some n => return ofParts [first] n
      | none => do
          let (second, r) ← part? r
          return ofParts [first, second] (← rest? r)

/-- The text of a rule. -/
def toText (r : Rule) : String :=
  let span := (r.span.map fun s => "[" ++ s ++ "]").getD ""
  let front := r.target.getD "" ++ span
  (if r.target.isSome ∨ r.span.isSome then front ++ "=" else "") ++ limitText r.limit

/-- The length of the target in octets, and one more than that of an empty one. -/
def weight (r : Rule) : Nat := (r.target.map fun t => t.utf8ByteSize + 1).getD 0

/-- Whether a rule comes before another: the longer target first, and of two targets of one length
the greater one; then the greater span. -/
def before (a b : Rule) : Bool :=
  if a.weight ≠ b.weight then b.weight < a.weight
  else if a.target ≠ b.target then b.target.getD "" < a.target.getD ""
  else b.span.getD "" < a.span.getD ""

/-- Whether two rules are about the same events. -/
def isAboutSame (a b : Rule) : Bool := a.target == b.target && a.span == b.span

end Rule

/-- Puts a rule into its place; it replaces one about the same events. -/
def insertRule (a : Rule) : List Rule → List Rule
  | [] => [a]
  | b :: r =>
      if a.isAboutSame b then a :: r
      else if a.before b then a :: b :: r
      else b :: insertRule a r

end LogFilter

/-- Rules in the order in which they are tried, those without spans first. -/
structure LogFilter where
  plain : List LogFilter.Rule
  inSpans : List LogFilter.Rule
  deriving DecidableEq, Repr

namespace LogFilter

/-- The filter with these rules; a later rule replaces an earlier one about the same events. -/
def ofRules (rules : List Rule) : LogFilter :=
  let sorted (rs : List Rule) := rs.foldl (fun sorted r => insertRule r sorted) []
  ⟨sorted (rules.filter fun r => r.span.isNone), sorted (rules.filter fun r => r.span.isSome)⟩

/-- The parts of a text between commas. -/
def splitCommas : List Char → List (List Char)
  | [] => [[]]
  | c :: r =>
      if c = ',' then [] :: splitCommas r
      else match splitCommas r with
        | [] => [[c]]
        | p :: ps => (c :: p) :: ps

/-- The filter that a text writes: rules with commas between them. -/
def ofText? (text : String) : Option LogFilter :=
  ofRules <$> ((splitCommas text.toList).filter (· ≠ [])).mapM Rule.ofText?

/-- The origins of this library's own events, and of its transport's. -/
def ownTarget : String := "signing_test_server"

/-- The origin of the transport's events. -/
def transportTarget : String := "tower_http"

/-- The rules that give both origins one limit. -/
def bothText (level : String) : String :=
  ownTarget ++ "=" ++ level ++ "," ++ transportTarget ++ "=" ++ level

/-- The filter for a level of the settings.  One that cannot be read stands for debugging. -/
def ofLevel (level : String) : LogFilter :=
  match ofText? (bothText level) with
  | some f => f
  | none => (ofText? (bothText "debug")).getD ⟨[], []⟩

/-- The text of a filter. -/
def toText (f : LogFilter) : String :=
  String.intercalate "," ((f.plain ++ f.inSpans).map Rule.toText)

/-- Whether an event is kept: the first rule whose target starts its origin lets its level
through. -/
def keeps (f : LogFilter) (e : Log.Event) : Bool :=
  match f.plain.find? fun r => (r.target.getD "").toList.isPrefixOf e.origin.toList with
  | some r => e.level.rank ≤ r.limit
  | none => false

/-- Puts a filter to work unless one is at work already: whether it was, and the one at work then. -/
def install (current : Option LogFilter) (f : LogFilter) : Bool × Option LogFilter :=
  match current with
  | none => (true, some f)
  | some g => (false, some g)

end LogFilter

end RevocationLab
