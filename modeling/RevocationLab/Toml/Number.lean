/-
**Numbers, dates and times of a settings document.**

Each kind of number is taken off the front of a text as far as its grammar goes.  Integers have
sixty-four bits; a number with a fraction or an exponent has to be below the range of a double.

Main definitions:

* `Toml.integer?` — decimal, hexadecimal, octal and binary integers;
* `Toml.decimal?` — numbers with a fraction or an exponent, infinities and the rest;
* `Toml.moment?` — dates and times;
* `Toml.number?` — the first of these that fits.
-/

import RevocationLab.Octets
import RevocationLab.Toml.Value

set_option autoImplicit false

namespace RevocationLab

namespace Toml

/-! ### Digits -/

/-- The value of a digit below `base`. -/
def digit? (base : Nat) (c : Char) : Option Nat :=
  (Octets.hexValue? c).filter (· < base)

/-- Further digits in base `base`, before each of which one underscore may stand. -/
def moreDigits (base : Nat) : List Char → List Nat × List Char
  | '_' :: c :: r =>
      match digit? base c with
      | some d =>
          let (ds, rest) := moreDigits base r
          (d :: ds, rest)
      | none => ([], '_' :: c :: r)
  | c :: r =>
      match digit? base c with
      | some d =>
          let (ds, rest) := moreDigits base r
          (d :: ds, rest)
      | none => ([], c :: r)
  | [] => ([], [])

/-- One or more digits, zeros in front included. -/
def digits? (base : Nat) : List Char → Option (List Nat × List Char)
  | [] => none
  | c :: r => do
      let d ← digit? base c
      let (ds, rest) := moreDigits base r
      return (d :: ds, rest)

/-- The value of digits in base `base`. -/
def digitsValue (base : Nat) (ds : List Nat) : Nat := ds.foldl (fun n d => base * n + d) 0

/-- Whether a minus sign is in front, and the text after the sign. -/
def sign : List Char → Bool × List Char
  | '-' :: r => (true, r)
  | '+' :: r => (false, r)
  | s => (false, s)

/-- The digits of a decimal integer, in front of which no zero stands. -/
def plainDigits? : List Char → Option (List Nat × List Char)
  | '0' :: r => some ([0], r)
  | s => digits? 10 s

/-! ### Integers -/

/-- Whether an integer has sixty-four bits. -/
def isWord (n : Int) : Bool := -0x8000000000000000 ≤ n && n < 0x8000000000000000

/-- A decimal integer. -/
def signedInteger? (s : List Char) : Option (Int × List Char) := do
  let (negative, s) := sign s
  let (ds, rest) ← plainDigits? s
  let n : Int := digitsValue 10 ds
  return (if negative then -n else n, rest)

/-- An integer in the base that its letter tells, without a sign. -/
def basedInteger? : List Char → Option (Int × List Char)
  | '0' :: 'x' :: r => (digits? 16 r).map fun t => (digitsValue 16 t.1, t.2)
  | '0' :: 'o' :: r => (digits? 8 r).map fun t => (digitsValue 8 t.1, t.2)
  | '0' :: 'b' :: r => (digits? 2 r).map fun t => (digitsValue 2 t.1, t.2)
  | s => signedInteger? s

/-- An integer of sixty-four bits. -/
def integer? (s : List Char) : Option (Value × List Char) := do
  let (n, rest) ← basedInteger? s
  if isWord n then some (.integer n, rest) else none

/-! ### Numbers with a fraction or an exponent -/

/-- The smallest number that no double comes near to: halfway from the largest double to the next
power of two. -/
def doubleBound : Nat := Nat.pow 2 1024 - Nat.pow 2 970

/-- Whether `mantissa · 10 ^ exponent` is at or above the range of a double. -/
def isOverflow (mantissa : Nat) (exponent : Int) : Bool :=
  if mantissa = 0 then false
  else if exponent > 400 then true
  else if 0 ≤ exponent then doubleBound ≤ mantissa * Nat.pow 10 exponent.toNat
  else if exponent < -(400 + 4 * (Nat.log2 mantissa : Int)) then false
  else doubleBound * Nat.pow 10 (-exponent).toNat ≤ mantissa

/-- The digits of a fraction; without a dot there is none. -/
def fraction? : List Char → Option (Option (List Nat) × List Char)
  | '.' :: r => (digits? 10 r).map fun t => (some t.1, t.2)
  | s => some (none, s)

/-- The exponent after its letter; without the letter there is none. -/
def exponent? : List Char → Option (Option Int × List Char)
  | c :: r =>
      if c = 'e' ∨ c = 'E' then do
        let (negative, r) := sign r
        let (ds, rest) ← digits? 10 r
        let n : Int := digitsValue 10 ds
        return (some (if negative then -n else n), rest)
      else some (none, c :: r)
  | [] => some (none, [])

/-- The text that was taken off the front. -/
def taken (s rest : List Char) : String := String.ofList (s.take (s.length - rest.length))

/-- A number with a fraction, an exponent or both.  One that is at or above the range of a double is
refused; one at or below the negative range is not. -/
def finite? (s : List Char) : Option (Value × List Char) := do
  let (negative, s₁) := sign s
  let (whole, s₂) ← plainDigits? s₁
  let (fraction, s₃) ← fraction? s₂
  let (exponent, rest) ← exponent? s₃
  if fraction.isNone ∧ exponent.isNone then none
  else
    let parts := fraction.getD []
    let mantissa := digitsValue 10 (whole ++ parts)
    if !negative && isOverflow mantissa (exponent.getD 0 - parts.length) then none
    else some (.decimal (taken s rest), rest)

/-- An infinity, or what is not a number. -/
def special? (s : List Char) : Option (Value × List Char) :=
  match (sign s).2 with
  | 'i' :: 'n' :: 'f' :: r => some (.decimal (taken s r), r)
  | 'n' :: 'a' :: 'n' :: r => some (.decimal (taken s r), r)
  | _ => none

/-- A number that is no integer. -/
def decimal? (s : List Char) : Option (Value × List Char) := finite? s <|> special? s

/-! ### Dates and times -/

/-- A number in exactly `width` digits. -/
def fixed? (width : Nat) (s : List Char) : Option (Nat × List Char) := do
  let ds ← (s.take width).mapM (digit? 10)
  if ds.length = width then some (digitsValue 10 ds, s.drop width) else none

/-- The text after a character that has to be there. -/
def follow? (c : Char) : List Char → Option (List Char)
  | d :: r => if c = d then some r else none
  | [] => none

/-- The number of days of a month. -/
def daysOfMonth (year month : Nat) : Nat :=
  if month = 2 then
    if year % 4 = 0 ∧ (year % 100 ≠ 0 ∨ year % 400 = 0) then 29 else 28
  else if [4, 6, 9, 11].contains month then 30
  else 31

/-- A date. -/
def date? (s : List Char) : Option (List Char) := do
  let (year, s) ← fixed? 4 s
  let (month, s) ← fixed? 2 (← follow? '-' s)
  let (day, s) ← fixed? 2 (← follow? '-' s)
  if 1 ≤ month ∧ month ≤ 12 ∧ 1 ≤ day ∧ day ≤ daysOfMonth year month then some s else none

/-- A time of day, whose seconds may have a fraction. -/
def time? (s : List Char) : Option (List Char) := do
  let (hour, s) ← fixed? 2 s
  let (minute, s) ← fixed? 2 (← follow? ':' s)
  let (second, s) ← fixed? 2 (← follow? ':' s)
  if 24 ≤ hour ∨ 60 ≤ minute ∨ 61 ≤ second then none
  else match s with
    | '.' :: r =>
        let rest := r.dropWhile Char.isDigit
        some (if rest.length < r.length then rest else s)
    | _ => some s

/-- The offset of a time from the first meridian; without one nothing is taken. -/
def skipOffset (s : List Char) : List Char :=
  let shifted (r : List Char) : List Char :=
    ((do
      let (hour, r) ← fixed? 2 r
      let (minute, r) ← fixed? 2 (← follow? ':' r)
      if hour < 24 ∧ minute < 60 then some r else none) : Option (List Char)).getD s
  match s with
  | 'Z' :: r => r
  | 'z' :: r => r
  | '+' :: r => shifted r
  | '-' :: r => shifted r
  | _ => s

/-- A time of day after the letter or blank between a date and its time. -/
def dayTime? : List Char → Option (List Char)
  | c :: r => if c = 'T' ∨ c = 't' ∨ c = ' ' then (time? r).map skipOffset else none
  | [] => none

/-- A date, a time of day, or both. -/
def moment? (s : List Char) : Option (Value × List Char) := do
  let rest ← match date? s with
    | some r => some ((dayTime? r).getD r)
    | none => time? s
  return (.moment (taken s rest), rest)

/-- A date, a number that is no integer, or an integer. -/
def number? (s : List Char) : Option (Value × List Char) :=
  moment? s <|> decimal? s <|> integer? s

end Toml

end RevocationLab
