/-
**Dates and times.**

A TOML document may hold a date, a time of day, or both, the latter with or without an offset from
universal time.  They are kept as text in a normal form: a capital `T` between date and time, a
capital `Z` for universal time, and a fraction of a second, where one is written, without trailing
zeros.

Main definitions:

* `MonitoringPlugins.Toml.Date`, `MonitoringPlugins.Toml.Time`, `MonitoringPlugins.Toml.Offset`,
  `MonitoringPlugins.Toml.DateTime` — the parts and the whole;
* `MonitoringPlugins.Toml.DateTime.ofChars?` — reading;
* `MonitoringPlugins.Toml.DateTime.render` — the normal form.
-/

import MonitoringPlugins.Text.Scan

set_option autoImplicit false

namespace MonitoringPlugins.Toml

open Text

/-! ### Parts -/

/-- A day of the calendar. -/
structure Date where
  year : Nat
  month : Nat
  day : Nat
  deriving DecidableEq

/-- A time of day; `fraction` holds the digits after the point of the seconds. -/
structure Time where
  hour : Nat
  minute : Nat
  second : Nat
  fraction : List Char
  deriving DecidableEq

/-- An offset from universal time. -/
inductive Offset where
  | universal
  | custom (west : Bool) (hours minutes : Nat)
  deriving DecidableEq

/-- A date, a time of day, or both. -/
inductive DateTime where
  | date (date : Date)
  | time (time : Time)
  | both (date : Date) (time : Time) (offset : Option Offset)
  deriving DecidableEq

/-! ### Reading -/

/-- Whether a year has a day more. -/
def isLeapYear (year : Nat) : Bool := year % 4 = 0 && (year % 100 ≠ 0 || year % 400 = 0)

/-- The number of days of a month. -/
def daysInMonth (year month : Nat) : Nat :=
  if month = 2 then (if isLeapYear year then 29 else 28)
  else if month = 4 ∨ month = 6 ∨ month = 9 ∨ month = 11 then 30
  else 31

/-- The number written by exactly `k` digits at the front. -/
def fixedDigits (k : Nat) (cs : List Char) : Option (Nat × List Char) :=
  let digits := cs.take k
  if digits.length = k ∧ digits.all Char.isDigit then some (numeral 10 digits, cs.drop k) else none

/-- A date at the front. -/
def Date.scan (cs : List Char) : Option (Date × List Char) := do
  let (year, rest) ← fixedDigits 4 cs
  let (month, rest) ← fixedDigits 2 (← expect '-' rest)
  let (day, rest) ← fixedDigits 2 (← expect '-' rest)
  if 1 ≤ month ∧ month ≤ 12 ∧ 1 ≤ day ∧ day ≤ daysInMonth year month then
    some (⟨year, month, day⟩, rest)
  else none

/-- The digits of a fraction of a second, nine of which count. -/
def scanFraction (cs : List Char) : Option (List Char × List Char) :=
  match cs with
  | '.' :: rest =>
    let (digits, rest) := digitRun rest
    if digits = [] then none else some (digits.take 9, rest)
  | _ => some ([], cs)

/-- A time of day at the front; a minute may end in a leap second. -/
def Time.scan (cs : List Char) : Option (Time × List Char) := do
  let (hour, rest) ← fixedDigits 2 cs
  let (minute, rest) ← fixedDigits 2 (← expect ':' rest)
  let (second, rest) ← fixedDigits 2 (← expect ':' rest)
  let (fraction, rest) ← scanFraction rest
  if hour < 24 ∧ minute < 60 ∧ second ≤ 60 then some (⟨hour, minute, second, fraction⟩, rest)
  else none

/-- An offset, which takes up all that is left, or nothing. -/
def Offset.ofChars? (cs : List Char) : Option (Option Offset) :=
  match cs with
  | [] => some none
  | ['Z'] => some (some .universal)
  | ['z'] => some (some .universal)
  | sign :: rest => do
    if sign ≠ '+' ∧ sign ≠ '-' then none
    let (hours, rest) ← fixedDigits 2 rest
    let (minutes, rest) ← fixedDigits 2 (← expect ':' rest)
    if rest = [] ∧ hours < 24 ∧ minutes < 60 then some (some (.custom (sign = '-') hours minutes))
    else none

/-- The date, time or both that a text writes. -/
def DateTime.ofChars? (cs : List Char) : Option DateTime :=
  match Date.scan cs with
  | some (day, []) => some (.date day)
  | some (day, separator :: rest) => do
    if separator ≠ 'T' ∧ separator ≠ 't' ∧ separator ≠ ' ' then none
    let (clock, rest) ← Time.scan rest
    return .both day clock (← Offset.ofChars? rest)
  | none => do
    let (clock, rest) ← Time.scan cs
    if rest = [] then some (.time clock) else none

/-! ### The normal form -/

/-- The last `k` decimal digits of a number. -/
def lastDigits : Nat → Nat → List Char
  | 0, _ => []
  | k + 1, n => lastDigits k (n / 10) ++ [Nat.digitChar (n % 10)]

/-- A date. -/
def Date.render (d : Date) : List Char :=
  lastDigits 4 d.year ++ ['-'] ++ lastDigits 2 d.month ++ ['-'] ++ lastDigits 2 d.day

/-- Digits after a point without trailing zeros, but with at least one digit. -/
def trimZeros (digits : List Char) : List Char :=
  match (digits.reverse.dropWhile (· = '0')).reverse with
  | [] => ['0']
  | trimmed => trimmed

/-- A time of day.  A fraction that is written as zero stays visible as such. -/
def Time.render (t : Time) : List Char :=
  lastDigits 2 t.hour ++ [':'] ++ lastDigits 2 t.minute ++ [':'] ++ lastDigits 2 t.second ++
    (if t.fraction = [] then [] else ['.'] ++ trimZeros t.fraction)

/-- An offset; one of zero is east of universal time. -/
def Offset.render : Offset → List Char
  | universal => ['Z']
  | custom west hours minutes =>
    [if west ∧ (hours ≠ 0 ∨ minutes ≠ 0) then '-' else '+'] ++
      lastDigits 2 hours ++ [':'] ++ lastDigits 2 minutes

/-- **The normal form.** -/
def DateTime.render : DateTime → String
  | date d => String.ofList d.render
  | time t => String.ofList t.render
  | both d t offset =>
    String.ofList (d.render ++ ['T'] ++ t.render ++ (offset.map Offset.render).getD [])

end MonitoringPlugins.Toml
