/-
# Reading decimals as doubles

`Binary64` is a double as a value: a finite `±m · 2^e` with `m < 2^53`, an
infinity, or NaN. `nearest` rounds an exact fraction to the double nearest
it, a tie going to the even mantissa, exactly as IEEE 754 rounding does; past
the largest finite double the value is infinite. All of it is arithmetic on
natural numbers, so the result is the correctly rounded one whatever the
number of digits.

`readDecimal?` reads the decimal form of a floating-point numeral: an
optional sign, digits with an optional point (at least one digit), and an
optional exponent `e` or `E` with an optional sign and digits. Underscores
may stand between digits. A value too large for a double reads as an
infinity; the caller decides whether that is an error.

`toWord?` is the conversion of a double to a signed 64-bit word on the
common 64-bit machines: the value is truncated toward zero, and one outside
the word's range (an infinity included) becomes the least word. A double
above `2^63` or a NaN is refused before converting.

As keys, doubles are equal when their values are (`same`: the two zeros
are, a NaN is never equal to anything) and ordered by value with NaN first
(`order`).

Key definitions: `Decimal.Binary64`, `Decimal.nearest`, `Decimal.readDecimal?`,
`Decimal.Binary64.toWord?`, `Decimal.Binary64.order`, `Decimal.Binary64.same`.
-/
import KernelSynth.Text.Numeral

namespace KernelSynth
namespace Decimal

/-- A double: finite `±mantissa · 2^exponent`, an infinity, or NaN. -/
inductive Binary64 where
  | finite (negative : Bool) (mantissa : Nat) (exponent : Int)
  | infinite (negative : Bool)
  | nan
  deriving DecidableEq, Repr

/-- The quotient and remainder of `num / (den · 2^e)`, with the divisor: for a negative `e` the
numerator is scaled instead. -/
def divPow2 (num den : Nat) (e : Int) : Nat × Nat × Nat :=
  if 0 ≤ e then
    let d := den * Nat.pow 2 e.toNat
    (num / d, num % d, d)
  else
    let n := num * Nat.pow 2 (-e).toNat
    (n / den, n % den, den)

/-- The double nearest to `num / den` with the given sign, ties to the even mantissa; infinite
past the largest finite double. -/
def nearest (negative : Bool) (num den : Nat) : Binary64 :=
  if num = 0 ∨ den = 0 then .finite negative 0 0
  else
    let k : Int := (num.log2 : Int) - (den.log2 : Int)
    let e0 : Int := k - 52
    let e1 : Int := if (divPow2 num den e0).1 < Nat.pow 2 52 then e0 - 1 else e0
    let e : Int := max e1 (-1074)
    let (q, r, d) := divPow2 num den e
    let q' := if d < 2 * r ∨ (2 * r = d ∧ q % 2 = 1) then q + 1 else q
    let (m, e') : Nat × Int := if q' = Nat.pow 2 53 then (Nat.pow 2 52, e + 1) else (q', e)
    if 971 < e' then .infinite negative else .finite negative m e'

/-- The double nearest to an integer. -/
def ofInt (n : Int) : Binary64 := nearest (n < 0) n.natAbs 1

/-- The value of a digit list, read in base ten. -/
def digitsValue (ds : List Nat) : Nat := ds.foldl (fun acc d => acc * 10 + d) 0

/-- The double nearest to `digits · 10^shift`. Values far beyond the range of doubles are
decided without computing them: past `10^310` they are infinite, below `10^-330` zero. -/
def ofScientific (negative : Bool) (digits : Nat) (shift : Int) : Binary64 :=
  let size : Int := (Nat.toDigits 10 digits).length
  if digits = 0 then .finite negative 0 0
  else if 310 < size + shift then .infinite negative
  else if size + shift < -330 then .finite negative 0 0
  else if 0 ≤ shift then nearest negative (digits * Nat.pow 10 shift.toNat) 1
  else nearest negative digits (Nat.pow 10 (-shift).toNat)

/-- Decimal digits and underscores at the front of a list: the digits, and the rest. -/
def spanDigits : List Char → List Nat × List Char
  | c :: r =>
    if c = '_' then spanDigits r
    else match Text.decimalDigit? c with
      | some d => let (ds, rest) := spanDigits r; (d :: ds, rest)
      | none => ([], c :: r)
  | [] => ([], [])

/-- A sign at the front of a list: whether it is negative, and the rest. -/
def spanSign : List Char → Bool × List Char
  | '-' :: r => (true, r)
  | '+' :: r => (false, r)
  | r => (false, r)

/-- The decimal form of a floating-point numeral, read as a double. -/
def readDecimal? (s : String) : Option Binary64 :=
  let cs := s.toList
  let (negative, body) := spanSign cs
  let (whole, afterWhole) := spanDigits body
  let (fraction, afterFraction) : List Nat × List Char :=
    match afterWhole with
    | '.' :: r => spanDigits r
    | r => ([], r)
  let exponent? : Option (Int × List Char) :=
    match afterFraction with
    | c :: r =>
      if c = 'e' ∨ c = 'E' then
        let (eneg, edigits) := spanSign r
        match edigits with
        | d :: _ =>
          if (Text.decimalDigit? d).isSome then
            let (es, rest) := spanDigits edigits
            let v : Int := digitsValue es
            some (if eneg then -v else v, rest)
          else none
        | [] => none
      else some (0, c :: r)
    | [] => some (0, [])
  match exponent? with
  | none => none
  | some (exp, rest) =>
    if !rest.isEmpty then none
    else if whole.isEmpty ∧ fraction.isEmpty then none
    else if cs.contains '_' ∧ !Text.underscoresPlaced cs then none
    else some (ofScientific negative (digitsValue (whole ++ fraction)) (exp - fraction.length))

/-- The value of a finite double truncated toward zero. -/
def truncate (negative : Bool) (m : Nat) (e : Int) : Int :=
  let magnitude : Nat := if 0 ≤ e then m * Nat.pow 2 e.toNat else m / Nat.pow 2 (-e).toNat
  if negative then -(magnitude : Int) else magnitude

/-- A double converted to a signed 64-bit word, if it is at most `2^63` and not NaN: truncated
toward zero, and the least word when the result does not fit. -/
def Binary64.toWord? : Binary64 → Option Int
  | .nan => none
  | .infinite false => none
  | .infinite true => some Text.wordMin
  | .finite negative m e =>
    let v := truncate negative m e
    if !negative ∧ Int.pow 2 63 < v then none
    else if Text.wordMin ≤ v ∧ v ≤ Text.wordMax then some v
    else some Text.wordMin

/-- A finite double `±m · 2^e` as an integer in units of `2^base`, for `base` at most `e`. -/
def scaledValue (negative : Bool) (m : Nat) (e base : Int) : Int :=
  let v : Int := m * Nat.pow 2 (e - base).toNat
  if negative then -v else v

/-- How two doubles are ordered as keys: NaN first and even with NaN, the two zeros even, the
infinities at the ends, finite values by value. -/
def Binary64.order : Binary64 → Binary64 → Ordering
  | .nan, .nan => .eq
  | .nan, _ => .lt
  | _, .nan => .gt
  | .infinite a, .infinite b => if a = b then .eq else if a then .lt else .gt
  | .infinite a, .finite .. => if a then .lt else .gt
  | .finite .., .infinite b => if b then .gt else .lt
  | .finite n₁ m₁ e₁, .finite n₂ m₂ e₂ =>
    let base := min e₁ e₂
    compare (scaledValue n₁ m₁ e₁ base) (scaledValue n₂ m₂ e₂ base)

/-- Whether two doubles are equal as numbers: NaN equals nothing, not even NaN, and the two
zeros equal each other. -/
def Binary64.same (x y : Binary64) : Bool :=
  match x, y with
  | .nan, _ | _, .nan => false
  | _, _ => x.order y == .eq

/-- The two zeros are the same number; NaN is not itself. -/
example : Binary64.same (.finite true 0 0) (.finite false 0 (-3)) ∧ !Binary64.same .nan .nan := by
  decide

/-- One tenth rounds to the familiar mantissa. -/
example : nearest false 1 10 = .finite false 7205759403792794 (-56) := by decide

/-- Three is an exact double, and a value far past the range is infinite. -/
example : nearest false 3 1 = .finite false (3 * Nat.pow 2 51) (-51) ∧
    ofScientific false 1 400 = .infinite false := by decide

end Decimal
end KernelSynth
