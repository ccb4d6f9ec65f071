/-
# Timestamps among plain scalars

A plain scalar that starts with four digits and a dash may be a timestamp.
It is one when it has one of these forms, every field in range:

* a date `YYYY-M-D`;
* a date, `T` or `t`, a time `h:m:s` with an optional fraction, and a zone
  that is `Z` or `±hh:mm`;
* a date, one or more spaces, and a time with an optional fraction.

Month, day, hour, minute and second take one or two digits; the year exactly
four. The day must exist in its month (29 February only in leap years). A
fraction is a point or comma and any number of digits, of which the first
nine count. A zone's hours may go up to 24 and its minutes up to 60.

`Timestamp.parse?` gives the fields as written; `Timestamp.instant` the
moment they name.

Key definitions: `Yaml.Timestamp`, `Yaml.Timestamp.parse?`, `Yaml.isTimestamp`,
`Yaml.Timestamp.instant`.
-/
import KernelSynth.Text.Numeral

namespace KernelSynth
namespace Yaml

/-- One or two digits at the front of a list: the value and the rest. -/
def shortNumber : List Char → Option (Nat × List Char)
  | a :: b :: r =>
    match Text.decimalDigit? a, Text.decimalDigit? b with
    | some x, some y => some (x * 10 + y, r)
    | some x, none => some (x, b :: r)
    | none, _ => none
  | [a] => (Text.decimalDigit? a).map fun x => (x, [])
  | [] => none

/-- Exactly two digits. -/
def twoDigits : List Char → Option Nat
  | [a, b] => do
    let x ← Text.decimalDigit? a
    let y ← Text.decimalDigit? b
    pure (x * 10 + y)
  | _ => none

/-- A literal character at the front of a list. -/
def literal (c : Char) : List Char → Option (List Char)
  | d :: r => if c = d then some r else none
  | [] => none

/-- Whether a year is a leap year. -/
def isLeap (y : Nat) : Bool := y % 4 = 0 ∧ (y % 100 ≠ 0 ∨ y % 400 = 0)

/-- The days of a month. -/
def daysIn (month year : Nat) : Nat :=
  match month with
  | 2 => if isLeap year then 29 else 28
  | 4 | 6 | 9 | 11 => 30
  | _ => 31

/-- Where the clock of a timestamp stands: no zone written, `Z`, or an offset east of UTC in
seconds. -/
inductive Offset where
  | none
  | utc
  | east (seconds : Int)
  deriving DecidableEq, Repr

/-- A timestamp as written: its date, its time of day (zero for a date alone), its nanoseconds
(the first nine digits of the fraction) and its zone. -/
structure Timestamp where
  year : Nat
  month : Nat
  day : Nat
  hour : Nat
  minute : Nat
  second : Nat
  nanos : Nat
  offset : Offset
  deriving DecidableEq, Repr

/-- A date `YYYY-M-D` at the front of a list: year, month and day, and the rest after it. -/
def date (cs : List Char) : Option ((Nat × Nat × Nat) × List Char) := do
  let year ← Text.decimalValue? (cs.take 4)
  guard ((cs.take 4).length = 4)
  let r ← literal '-' (cs.drop 4)
  let (month, r) ← shortNumber r
  guard (1 ≤ month ∧ month ≤ 12)
  let r ← literal '-' r
  let (day, r) ← shortNumber r
  guard (1 ≤ day ∧ day ≤ daysIn month year)
  pure ((year, month, day), r)

/-- The nanoseconds of the digits of a fraction: its first nine digits, as many nanoseconds as
they stand for. -/
def fractionNanos (digits : List Char) : Nat :=
  let kept := digits.take 9
  (Text.decimalValue? kept).getD 0 * Nat.pow 10 (9 - kept.length)

/-- A fraction of a second, if one stands at the front (a point or comma and digits): its
nanoseconds and the rest. -/
def fraction : List Char → Nat × List Char
  | c :: d :: r =>
    if (c = '.' ∨ c = ',') ∧ (Text.decimalDigit? d).isSome then
      let digits := (d :: r).takeWhile fun x => (Text.decimalDigit? x).isSome
      (fractionNanos digits, (d :: r).dropWhile fun x => (Text.decimalDigit? x).isSome)
    else (0, c :: d :: r)
  | r => (0, r)

/-- A time `h:m:s` with an optional fraction at the front of a list: hour, minute, second and
nanoseconds, and the rest after it. -/
def clock (cs : List Char) : Option ((Nat × Nat × Nat × Nat) × List Char) := do
  let (hour, r) ← shortNumber cs
  guard (hour < 24)
  let r ← literal ':' r
  let (minute, r) ← shortNumber r
  guard (minute < 60)
  let r ← literal ':' r
  let (second, r) ← shortNumber r
  guard (second < 60)
  let (nanos, r) := fraction r
  pure ((hour, minute, second, nanos), r)

/-- A zone `Z` or `±hh:mm` making up the whole rest. -/
def zone : List Char → Option Offset
  | ['Z'] => some .utc
  | [s, h1, h2, ':', m1, m2] =>
    if s = '+' ∨ s = '-' then
      match twoDigits [h1, h2], twoDigits [m1, m2] with
      | some h, some m =>
        if h ≤ 24 ∧ m ≤ 60 then
          let seconds : Int := ((h * 60 + m) * 60 : Nat)
          some (.east (if s = '-' then -seconds else seconds))
        else none
      | _, _ => none
    else none
  | _ => none

/-- A plain scalar read as a timestamp, if it is one. -/
def Timestamp.parse? (s : String) : Option Timestamp :=
  let cs := s.toList
  let leading := cs.takeWhile fun c => (Text.decimalDigit? c).isSome
  if leading.length ≠ 4 ∨ cs.drop 4 = [] ∨ cs.getD 4 ' ' ≠ '-' then none
  else
    match date cs with
    | none => none
    | some ((y, mo, d), []) => some ⟨y, mo, d, 0, 0, 0, 0, .none⟩
    | some ((y, mo, d), c :: r) =>
      if c = 'T' ∨ c = 't' then
        match clock r with
        | some ((h, mi, sec, ns), z) => (zone z).map fun o => ⟨y, mo, d, h, mi, sec, ns, o⟩
        | none => none
      else if c = ' ' then
        match clock (r.dropWhile (· = ' ')) with
        | some ((h, mi, sec, ns), []) => some ⟨y, mo, d, h, mi, sec, ns, .none⟩
        | _ => none
      else none

/-- Whether a plain scalar is a timestamp. -/
def isTimestamp (s : String) : Bool := (Timestamp.parse? s).isSome

/-- The days from the start of year zero to the start of a year. -/
def daysBeforeYear (y : Nat) : Nat :=
  365 * y + (y + 3) / 4 - (y + 99) / 100 + (y + 399) / 400

/-- The days from the start of a year to the start of a day of it. -/
def daysBeforeDay (year month day : Nat) : Nat :=
  ((List.range (month - 1)).map fun m => daysIn (m + 1) year).foldl (· + ·) 0 + (day - 1)

/-- The instant a timestamp names, in seconds from the start of year zero in UTC; a timestamp
without a zone is read as UTC. -/
def Timestamp.instant (t : Timestamp) : Int :=
  let days := daysBeforeYear t.year + daysBeforeDay t.year t.month t.day
  let seconds : Int := ((days * 24 + t.hour) * 60 + t.minute) * 60 + t.second
  match t.offset with
  | .east e => seconds - e
  | _ => seconds

example : isTimestamp "2001-12-14" ∧ isTimestamp "2001-12-14t21:59:43.10-05:00" ∧
    isTimestamp "2001-12-14 21:59:43.10" ∧ !isTimestamp "2001-02-29" ∧
    !isTimestamp "2001-12-14 21:59:43.10 -5" := by decide

end Yaml
end KernelSynth
