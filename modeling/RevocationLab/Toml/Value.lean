/-
**Values of a settings document.**

A document is a table of values.  A table remembers how it came about, because that decides what may
be added to it later: a table with a header of its own is closed to dotted keys, one that exists only
as part of a longer header may still get a header, one made by dotted keys takes further dotted keys,
and one written inside a value is closed to everything.

Main definitions:

* `Toml.Value`, `Toml.Entries`, `Toml.Origin`;
* `Toml.Entries.get?`, `Toml.Entries.insert?` — looking up and adding under a new key;
* `Toml.descend?` — changes the table that a path of keys leads to.
-/

set_option autoImplicit false

namespace RevocationLab

namespace Toml

/-! ### Values -/

/-- How a table came about. -/
inductive Origin where
  /-- By a header of its own, or as the document itself. -/
  | header
  /-- As part of a longer header. -/
  | implied
  /-- By dotted keys. -/
  | dotted
  /-- Written inside a value. -/
  | inline
  deriving DecidableEq, Repr

/-- A value.  Numbers with a fraction, and dates and times, are kept as they are written. -/
inductive Value where
  | string (text : String)
  | integer (number : Int)
  | decimal (text : String)
  | boolean (value : Bool)
  | moment (text : String)
  | array (ofTables : Bool) (items : List Value)
  | table (origin : Origin) (entries : List (String × Value))
  deriving Repr

/-- Keys with their values, in the order of their first mention. -/
abbrev Entries := List (String × Value)

namespace Entries

/-- The value under a key. -/
def get? (es : Entries) (key : String) : Option Value :=
  (es.find? fun e => e.1 == key).map Prod.snd

/-- The entries with another value under a key that is there. -/
def replace (es : Entries) (key : String) (value : Value) : Entries :=
  es.map fun e => if e.1 == key then (key, value) else e

/-- The entries with a value under a key that is new. -/
def insert? (es : Entries) (key : String) (value : Value) : Option Entries :=
  match es.get? key with
  | none => some (es ++ [(key, value)])
  | some _ => none

end Entries

/-! ### Descending -/

/-- The entries after `change` was applied to the table that a path of keys leads to.  Tables that
are missing are made on the way, as dotted ones if `dotted` is set and as implied ones otherwise; an
array of tables is entered at its last table.  Dotted keys lead only through tables that no header
and no value has made.  `change` gets the origin of its table. -/
def descend? (dotted : Bool) (change : Origin → Entries → Option Entries) :
    List String → Origin → Entries → Option Entries
  | [], origin, es => change origin es
  | key :: path, _, es => do
      match es.get? key with
      | none =>
          let origin := if dotted then Origin.dotted else Origin.implied
          let sub ← descend? dotted change path origin []
          return es ++ [(key, .table origin sub)]
      | some (.table origin sub) =>
          if origin = .inline ∨ (dotted ∧ origin = .header) then none
          else
            let sub ← descend? dotted change path origin sub
            return es.replace key (.table origin sub)
      | some (.array true items) =>
          match items.getLast? with
          | some (.table origin sub) =>
              let sub ← descend? dotted change path origin sub
              return es.replace key (.array true (items.dropLast ++ [.table origin sub]))
          | _ => none
      | some _ => none

/-- The entries with a value under a path of dotted keys.  The last key has to be new, and its table
has to be one that dotted keys may write to. -/
def assign? (path : List String) (value : Value) (origin : Origin) (es : Entries) :
    Option Entries :=
  match path.getLast? with
  | none => none
  | some key =>
      descend? true
        (fun origin es =>
          if origin = .dotted ↔ path.length = 1 then none else es.insert? key value)
        path.dropLast origin es

end Toml

end RevocationLab
