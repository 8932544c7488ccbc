/-
**Reading a settings document.**

A document is a list of lines: headers, keys with values, comments and blank lines.  A key belongs to
the table of the last header.  No table gets two headers, and no key two values.

Main definitions:

* `Toml.value` — a value with a bound on how deep it is nested;
* `Toml.Statement`, `Toml.statement?` — one line;
* `Toml.Document` — what has been read so far; `Toml.Document.step?` adds a line;
* `Toml.parse?` — the entries of a document.
-/

import RevocationLab.Toml.Number
import RevocationLab.Toml.Text

set_option autoImplicit false

namespace RevocationLab

namespace Toml

/-! ### Values -/

/-- Takes a value off the front of a text. -/
abbrev Reader (α : Type) := List Char → Option (α × List Char)

/-- The items of an array up to its closing bracket, at most `fuel` of them.  A comma may follow the
last item. -/
def arrayItems (item : Reader Value) : Nat → Reader (List Value)
  | 0, _ => none
  | fuel + 1, s =>
      match skipLines s with
      | ']' :: r => some ([], r)
      | s => do
          let (x, s) ← item s
          match skipLines s with
          | ',' :: r => (arrayItems item fuel r).map fun t => (x :: t.1, t.2)
          | ']' :: r => return ([x], r)
          | _ => none

/-- The keys and values of an inline table up to its closing brace, at most `fuel` of them. -/
def inlineEntries (item : Reader Value) : Nat → Entries → Reader Entries
  | 0, _, _ => none
  | fuel + 1, es, s => do
      let (path, s) ← keyPath? s
      match s with
      | '=' :: s =>
          let (x, s) ← item (skipBlanks s)
          let es ← assign? path x .header es
          match skipBlanks s with
          | ',' :: r => inlineEntries item fuel es r
          | '\x7d' :: r => return (es, r)
          | _ => none
      | _ => none

/-- An inline table, of which the opening brace has been taken. -/
def inlineTable (item : Reader Value) : Reader Value := fun s =>
  match skipBlanks s with
  | '\x7d' :: r => some (.table .inline [], r)
  | r => (inlineEntries item r.length [] r).map fun t => (.table .inline t.1, t.2)

/-- A value that holds no other. -/
def scalar : Reader Value := fun s =>
  match s with
  | '"' :: _ => (string? s).map fun t => (.string (String.ofList t.1), t.2)
  | '\'' :: _ => (string? s).map fun t => (.string (String.ofList t.1), t.2)
  | 't' :: 'r' :: 'u' :: 'e' :: r => some (.boolean true, r)
  | 'f' :: 'a' :: 'l' :: 's' :: 'e' :: r => some (.boolean false, r)
  | _ => number? s

/-- A value in which others are nested at most `room` deep. -/
def value : Nat → Reader Value
  | 0 => fun s =>
      match s with
      | '[' :: _ => none
      | '\x7b' :: _ => none
      | _ => scalar s
  | room + 1 => fun s =>
      match s with
      | '[' :: r => (arrayItems (value room) s.length r).map fun t => (.array false t.1, t.2)
      | '\x7b' :: r => inlineTable (value room) r
      | _ => scalar s

/-! ### Lines -/

/-- What a line says. -/
inductive Statement where
  | blank
  | header (path : List String)
  | arrayHeader (path : List String)
  | assign (path : List String) (value : Value)

/-- The line at the front of a text that is not empty, and the text after it. -/
def statement? (s : List Char) : Option (Statement × List Char) :=
  match skipBlanks s with
  | '[' :: '[' :: r => do
      let (path, r) ← keyPath? r
      match r with
      | ']' :: ']' :: r => return (.arrayHeader path, ← lineEnd? r)
      | _ => none
  | '[' :: r => do
      let (path, r) ← keyPath? r
      match r with
      | ']' :: r => return (.header path, ← lineEnd? r)
      | _ => none
  | s =>
      match lineEnd? s with
      | some r => some (.blank, r)
      | none => do
          let (path, r) ← keyPath? s
          match r with
          | '=' :: r =>
              let (x, r) ← value (depthLimit - 1) (skipBlanks r)
              return (.assign path x, ← lineEnd? r)
          | _ => none

/-! ### Documents -/

/-- The entries read so far, and the path of the last header. -/
structure Document where
  entries : Entries
  header : List String

namespace Document

/-- Gives the table under `key` its header. -/
def openTable? (key : String) (_ : Origin) (es : Entries) : Option Entries :=
  match es.get? key with
  | none => some (es ++ [(key, .table .header [])])
  | some (.table .implied sub) => some (es.replace key (.table .header sub))
  | some _ => none

/-- Adds a table to the array of tables under `key`. -/
def openArray? (key : String) (_ : Origin) (es : Entries) : Option Entries :=
  match es.get? key with
  | none => some (es ++ [(key, .array true [.table .header []])])
  | some (.array true items) => some (es.replace key (.array true (items ++ [.table .header []])))
  | some _ => none

/-- The document with a line added. -/
def step? (d : Document) : Statement → Option Document
  | .blank => some d
  | .header path => do
      let key ← path.getLast?
      return ⟨← descend? false (openTable? key) path.dropLast .header d.entries, path⟩
  | .arrayHeader path => do
      let key ← path.getLast?
      return ⟨← descend? false (openArray? key) path.dropLast .header d.entries, path⟩
  | .assign path x => do
      return ⟨← descend? false (fun _ es => assign? path x .header es) d.header .header d.entries,
        d.header⟩

/-- The document with all lines of a text added, at most `fuel` of them. -/
def readLines? : Nat → Document → List Char → Option Document
  | _, d, [] => some d
  | 0, _, _ => none
  | fuel + 1, d, s => do
      let (line, rest) ← statement? s
      readLines? fuel (← d.step? line) rest

end Document

/-- The entries of a document, at the front of which a byte order mark may stand. -/
def parse? (text : String) : Option Entries :=
  let chars := match text.toList with
    | '\ufeff' :: r => r
    | s => s
  (Document.readLines? (chars.length + 1) ⟨[], []⟩ chars).map Document.entries

end Toml

end RevocationLab
