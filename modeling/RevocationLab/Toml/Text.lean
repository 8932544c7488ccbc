/-
**Blanks, keys and strings of a settings document.**

The small parts of a document, each taken off the front of a list of characters.

Main definitions:

* `Toml.skipBlanks`, `Toml.newline?`, `Toml.lineEnd?`, `Toml.skipLines?` — what may be left out;
* `Toml.string?` — a string in one of its four forms;
* `Toml.keyPath?` — keys with dots between them.
-/

import RevocationLab.Octets

set_option autoImplicit false

namespace RevocationLab

namespace Toml

/-! ### Blanks and comments -/

/-- A space or a tab. -/
def isBlank (c : Char) : Bool := c == ' ' || c == '\t'

/-- The characters of a comment: everything but control characters, of which the tab is allowed. -/
def isPlain (c : Char) : Bool := c == '\t' || (' ' ≤ c && c != '\x7f')

/-- The text after the blanks at its front. -/
def skipBlanks (s : List Char) : List Char := s.dropWhile isBlank

/-- The text after a line break. -/
def newline? : List Char → Option (List Char)
  | '\n' :: r => some r
  | '\r' :: '\n' :: r => some r
  | _ => none

/-- The text after the comment at its front, if there is one. -/
def skipComment : List Char → List Char
  | '#' :: r => r.dropWhile isPlain
  | s => s

/-- The text after the end of a line, before which blanks and a comment may stand. -/
def lineEnd? (s : List Char) : Option (List Char) :=
  match skipComment (skipBlanks s) with
  | [] => some []
  | r => newline? r

/-- The text after blanks, comments and line breaks, at most `fuel` of the latter; a comment has to
end in a line break. -/
def skipLinesUpTo : Nat → List Char → List Char
  | 0, s => s
  | fuel + 1, s =>
      let r := skipBlanks s
      match newline? (skipComment r) with
      | some rest => skipLinesUpTo fuel rest
      | none => r

/-- The text after blanks, comments and line breaks. -/
def skipLines (s : List Char) : List Char := skipLinesUpTo s.length s

/-! ### Escapes -/

/-- The character whose number is written in exactly `width` hexadecimal digits. -/
def scalar? (width : Nat) (s : List Char) : Option (Char × List Char) := do
  let digits ← (s.take width).mapM Octets.hexValue?
  let n := digits.foldl (fun n d => 16 * n + d) 0
  if digits.length = width ∧ n.isValidChar then some (Char.ofNat n, s.drop width) else none

/-- The character of an escape, of which the backslash has been taken. -/
def escape? : List Char → Option (Char × List Char)
  | 'b' :: r => some ('\x08', r)
  | 't' :: r => some ('\t', r)
  | 'n' :: r => some ('\n', r)
  | 'f' :: r => some ('\x0c', r)
  | 'r' :: r => some ('\r', r)
  | '"' :: r => some ('"', r)
  | '\\' :: r => some ('\\', r)
  | 'u' :: r => scalar? 4 r
  | 'U' :: r => scalar? 8 r
  | _ => none

/-! ### Strings on one line -/

/-- The characters up to a double quote, of which at most `fuel` are there; escapes are undone. -/
def basicUpTo : Nat → List Char → Option (List Char × List Char)
  | 0, _ => none
  | fuel + 1, s =>
      match s with
      | [] => none
      | '"' :: r => some ([], r)
      | '\\' :: r => do
          let (c, r) ← escape? r
          let (text, rest) ← basicUpTo fuel r
          return (c :: text, rest)
      | c :: r =>
          if isPlain c then (basicUpTo fuel r).map fun t => (c :: t.1, t.2) else none

/-- The characters up to a single quote. -/
def literal? : List Char → Option (List Char × List Char)
  | [] => none
  | c :: r =>
      if c = '\'' then some ([], r)
      else if isPlain c then (literal? r).map fun t => (c :: t.1, t.2)
      else none

/-! ### Strings on several lines -/

/-- The text after the blanks and line breaks that an escaped line break swallows. -/
def skipSwallowed (s : List Char) : Option (List Char) := do
  let r ← newline? (skipBlanks s)
  return dropLines r.length r
where
  dropLines : Nat → List Char → List Char
    | 0, s => s
    | fuel + 1, s =>
        match newline? (skipBlanks s) with
        | some r => dropLines fuel r
        | none => skipBlanks s

/-- The characters up to three quotes `quote`; up to two quotes may stand in front of them.  Escapes
are undone if `escapes` is set, and each line break is a single character. -/
def multilineUpTo (quote : Char) (escapes : Bool) : Nat → List Char →
    Option (List Char × List Char)
  | 0, _ => none
  | fuel + 1, s =>
      let quotes := (s.takeWhile (· == quote)).length
      if 3 ≤ quotes then
        if quotes ≤ 5 then some (List.replicate (quotes - 3) quote, s.drop quotes) else none
      else match newline? s with
        | some r => (multilineUpTo quote escapes fuel r).map fun t => ('\n' :: t.1, t.2)
        | none =>
            match s with
            | [] => none
            | c :: r =>
                if escapes ∧ c = '\\' then
                  match skipSwallowed r with
                  | some r => multilineUpTo quote escapes fuel r
                  | none => do
                      let (c, r) ← escape? r
                      let (text, rest) ← multilineUpTo quote escapes fuel r
                      return (c :: text, rest)
                else if isPlain c then
                  (multilineUpTo quote escapes fuel r).map fun t => (c :: t.1, t.2)
                else none

/-- The characters of a string on several lines; a line break right at its start does not count. -/
def multiline? (quote : Char) (escapes : Bool) (s : List Char) :
    Option (List Char × List Char) :=
  multilineUpTo quote escapes (s.length + 1) ((newline? s).getD s)

/-! ### Strings and keys -/

/-- A string in one of its four forms. -/
def string? : List Char → Option (List Char × List Char)
  | '"' :: '"' :: '"' :: r => multiline? '"' true r
  | '"' :: r => basicUpTo (r.length + 1) r
  | '\'' :: '\'' :: '\'' :: r => multiline? '\'' false r
  | '\'' :: r => literal? r
  | _ => none

/-- The characters of a key that is not quoted. -/
def isBare (c : Char) : Bool := c.isAlphanum || c == '-' || c == '_'

/-- One key: quoted on one line, or not quoted. -/
def key? : List Char → Option (String × List Char)
  | '"' :: r => (basicUpTo (r.length + 1) r).map fun t => (String.ofList t.1, t.2)
  | '\'' :: r => (literal? r).map fun t => (String.ofList t.1, t.2)
  | s =>
      let name := s.takeWhile isBare
      if name = [] then none else some (String.ofList name, s.dropWhile isBare)

/-- The most keys of a path, and the deepest nesting of values, are below this. -/
def depthLimit : Nat := 80

/-- Keys with dots and blanks between them, at most `fuel` of them. -/
def keysUpTo : Nat → List Char → Option (List String × List Char)
  | 0, _ => none
  | fuel + 1, s => do
      let (key, s) ← key? (skipBlanks s)
      match skipBlanks s with
      | '.' :: r => (keysUpTo fuel r).map fun t => (key :: t.1, t.2)
      | r => return ([key], r)

/-- Keys with dots and blanks between them. -/
def keyPath? (s : List Char) : Option (List String × List Char) := keysUpTo (depthLimit - 1) s

end Toml

end RevocationLab
