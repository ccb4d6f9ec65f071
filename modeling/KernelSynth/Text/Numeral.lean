/-
# Integer numerals

Two readings of an integer numeral, both bounded by the 64-bit words:

* `readDecimal?` accepts an optional sign and one or more decimal digits,
  nothing else, and a value that fits a signed 64-bit word. Mix counts are
  read this way.
* `readPrefixed` accepts an optional sign (when the word is signed), then a
  base prefix: `0b`, `0o`, `0x` (either case) for binary, octal and hex, a
  lone leading `0` for octal, none for decimal. Underscores may separate
  digits, and a prefix counts as a digit for that rule. It tells a malformed
  numeral from one whose value does not fit the word; digits are read from
  the left and the first digit that overflows decides, before any later
  character is looked at. Flag values and configuration scalars are read
  this way.

`readFlag?` reads the spellings of a truth value.

Key definitions: `Text.readDecimal?`, `Text.readPrefixed`, `Text.readFlag?`.
-/

namespace KernelSynth
namespace Text

/-- Why a numeral has no value: it is not written as one, or its value does not fit. -/
inductive NumeralFault where
  | malformed
  | outOfRange
  deriving DecidableEq, Repr

/-- The least signed 64-bit value. -/
def wordMin : Int := -Int.pow 2 63

/-- The greatest signed 64-bit value. -/
def wordMax : Int := Int.pow 2 63 - 1

/-- The greatest unsigned 64-bit value. -/
def uwordMax : Nat := Nat.pow 2 64 - 1

/-- The value of a decimal digit. -/
def decimalDigit? (c : Char) : Option Nat :=
  if '0' ≤ c ∧ c ≤ '9' then some (c.toNat - 48) else none

/-- The value of a run of decimal digits, none if it is empty or holds another character. -/
def decimalValue? : List Char → Option Nat
  | [] => none
  | cs => cs.foldlM (fun n c => (decimalDigit? c).map (n * 10 + ·)) 0

/-- A decimal numeral with an optional sign whose value fits a signed 64-bit word. -/
def readDecimal? (s : String) : Option Int :=
  let (neg, digits) : Bool × List Char :=
    match s.toList with
    | '-' :: r => (true, r)
    | '+' :: r => (false, r)
    | r => (false, r)
  match decimalValue? digits with
  | none => none
  | some n =>
    let v : Int := if neg then -(n : Int) else n
    if wordMin ≤ v ∧ v ≤ wordMax then some v else none

/-- The lower-case form of an ASCII letter; other characters are kept. -/
def lowerAscii (c : Char) : Char :=
  if 'A' ≤ c ∧ c ≤ 'Z' then Char.ofNat (c.toNat + 32) else c

/-- The value of a digit in bases up to 36: decimal digits, then letters of either case. -/
def digitValue? (c : Char) : Option Nat :=
  let l := lowerAscii c
  if '0' ≤ c ∧ c ≤ '9' then some (c.toNat - 48)
  else if 'a' ≤ l ∧ l ≤ 'z' then some (l.toNat - 87)
  else none

/-- The base a numeral's prefix selects, and the digits after the prefix. -/
def splitBase : List Char → Nat × List Char
  | '0' :: c :: d :: r =>
    if lowerAscii c = 'b' then (2, d :: r)
    else if lowerAscii c = 'o' then (8, d :: r)
    else if lowerAscii c = 'x' then (16, d :: r)
    else (8, c :: d :: r)
  | '0' :: r => (8, r)
  | r => (10, r)

/-- Digits in `base` read from the left onto `acc`, an underscore skipped; the first digit
that takes the value past `bound` stops the reading. -/
def accumulate (base bound : Nat) : Nat → List Char → Except NumeralFault Nat
  | acc, [] => .ok acc
  | acc, c :: r =>
    if c = '_' then accumulate base bound acc r
    else match digitValue? c with
      | none => .error .malformed
      | some d =>
        if base ≤ d then .error .malformed
        else if bound < acc * base + d then .error .outOfRange
        else accumulate base bound (acc * base + d) r

/-- What the last character seen was, for the rule on underscores. -/
inductive Seen where
  | start
  | digit
  | underscore
  | other
  deriving DecidableEq

/-- Underscores stand only between digits, a base prefix counting as a digit. -/
def underscoresPlaced (cs : List Char) : Bool :=
  let unsigned := match cs with
    | '-' :: r => r
    | '+' :: r => r
    | r => r
  let (first, hex, body) : Seen × Bool × List Char :=
    match unsigned with
    | '0' :: c :: r =>
      if lowerAscii c = 'b' ∨ lowerAscii c = 'o' ∨ lowerAscii c = 'x' then
        (.digit, lowerAscii c = 'x', r)
      else (.start, false, unsigned)
    | r => (.start, false, r)
  let step : Option Seen → Char → Option Seen := fun seen c =>
    match seen with
    | none => none
    | some s =>
      let l := lowerAscii c
      if ('0' ≤ c ∧ c ≤ '9') ∨ (hex ∧ 'a' ≤ l ∧ l ≤ 'f') then some .digit
      else if c = '_' then (if s = .digit then some .underscore else none)
      else if s = .underscore then none
      else some .other
  match body.foldl step (some first) with
  | some .underscore => false
  | some _ => true
  | none => false

/-- An unsigned numeral with a base prefix whose value fits an unsigned 64-bit word. -/
def readUnsigned (cs : List Char) : Except NumeralFault Nat :=
  if cs = [] then .error .malformed
  else
    let (base, digits) := splitBase cs
    match accumulate base uwordMax 0 digits with
    | .error e => .error e
    | .ok n =>
      if cs.contains '_' && !underscoresPlaced cs then .error .malformed else .ok n

/-- A numeral with an optional sign and a base prefix whose value fits a signed 64-bit word. -/
def readSigned (cs : List Char) : Except NumeralFault Int :=
  let (neg, rest) : Bool × List Char :=
    match cs with
    | '-' :: r => (true, r)
    | '+' :: r => (false, r)
    | r => (false, r)
  if cs = [] then .error .malformed
  else
    match readUnsigned rest with
    | .error .malformed => .error .malformed
    | .error .outOfRange => .error .outOfRange
    | .ok n =>
      if !neg ∧ Nat.pow 2 63 ≤ n then .error .outOfRange
      else if neg ∧ Nat.pow 2 63 < n then .error .outOfRange
      else .ok (if neg then -(n : Int) else n)

/-- A numeral with a base prefix, read as a signed or an unsigned 64-bit word. -/
def readPrefixed (signed : Bool) (s : String) : Except NumeralFault Int :=
  if signed then readSigned s.toList
  else (readUnsigned s.toList).map (fun n => (n : Int))

/-- The spellings of a truth value: `1`, `t`, `T`, `TRUE`, `true`, `True` and
`0`, `f`, `F`, `FALSE`, `false`, `False`. -/
def readFlag? (s : String) : Option Bool :=
  if s ∈ ["1", "t", "T", "TRUE", "true", "True"] then some true
  else if s ∈ ["0", "f", "F", "FALSE", "false", "False"] then some false
  else none

example : readDecimal? "+0" = some 0 ∧ readDecimal? "-9223372036854775808" = some wordMin ∧
    readDecimal? "9223372036854775808" = none ∧ readDecimal? "1_0" = none := by decide

example : readPrefixed true "0x10" = .ok 16 ∧ readPrefixed true "1_000" = .ok 1000 ∧
    readPrefixed true "07" = .ok 7 ∧ readPrefixed true "_1" = .error .malformed ∧
    readPrefixed true "99999999999999999999x" = .error .outOfRange :=
  ⟨rfl, rfl, rfl, rfl, rfl⟩

end Text
end KernelSynth
