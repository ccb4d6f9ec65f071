/-
# Shortest decimals of doubles

A finite double is a binary fraction `m · 2^e`. The reals that read back as
it form an interval around it: half the gap to each neighbour on either
side, the ends included exactly when `m` is even (a tie reads to the even
mantissa). The gap below is half the gap above when `m` is the least normal
mantissa of its binade.

`shortest` finds the decimal with the fewest significant digits in that
interval: for one, two, ... digits it looks at the value's two neighbours on
that decimal grid, and the first grid with a neighbour inside wins; of two
neighbours inside, the nearer, and of two as near, the even one. Rounding up
on the coarsest grid can carry into a new digit (`10`), so trailing zeros
are moved into the exponent. All of it is
exact arithmetic on natural numbers: the value is written exactly as a
decimal `D · 10^-s` first, so the last grid, that of all of `D`'s digits,
always holds the value itself.

Key definitions: `Decimal.Binary`, `Decimal.Binary.ofFloat?`, `Decimal.Shortest`,
`Decimal.shortest`.
Key theorems: `Decimal.exactDecimal_nonneg`.
-/

namespace KernelSynth
namespace Decimal

/-- A finite double as a sign, a mantissa and a binary exponent: `±m · 2^e`. -/
structure Binary where
  negative : Bool
  mantissa : Nat
  exponent : Int
  /-- The gap to the next smaller double is half the gap to the next larger. -/
  narrowBelow : Bool
  deriving Repr

/-- The binary fraction of a finite double, none for an infinity or a NaN. -/
def Binary.ofFloat? (x : Float) : Option Binary :=
  let bits : Nat := x.toBits.toNat
  let negative : Bool := bits / Nat.pow 2 63 = 1
  let field : Nat := bits / Nat.pow 2 52 % Nat.pow 2 11
  let fraction : Nat := bits % Nat.pow 2 52
  if field = Nat.pow 2 11 - 1 then none
  else if field = 0 then some ⟨negative, fraction, -1074, false⟩
  else some ⟨negative, fraction + Nat.pow 2 52, (field : Int) - 1075, fraction = 0 ∧ 1 < field⟩

/-- A binary fraction `m · 2^e` as an exact decimal `D · 10^-s`, given as `(D, s)`. -/
def exactDecimal (m : Nat) (e : Int) : Nat × Nat :=
  if 0 ≤ e then (m * Nat.pow 2 e.toNat, 0) else (m * Nat.pow 5 (-e).toNat, (-e).toNat)

/-- The gap to the next larger double, in units of `10^-s` of `exactDecimal`. -/
def gapUnits (e : Int) : Nat :=
  if 0 ≤ e then Nat.pow 2 e.toNat else Nat.pow 5 (-e).toNat

/-- The number of decimal digits of a natural number; zero has one. -/
def digitCount (n : Nat) : Nat := (Nat.toDigits 10 n).length

/-- A decimal `±digits · 10^exponent`. -/
structure Shortest where
  negative : Bool
  digits : Nat
  exponent : Int
  deriving DecidableEq, Repr

/-- The interval of reals that read back as the value, in quarter units: a point `v` is inside
when it lies within `below` under `center` and `above` over it, ends included if `closed`. -/
structure Window where
  center : Nat
  below : Nat
  above : Nat
  closed : Bool

/-- Whether a point, in quarter units, reads back as the value. -/
def Window.contains (w : Window) (v : Nat) : Bool :=
  if w.closed then w.center ≤ v + w.below && v ≤ w.center + w.above
  else w.center < v + w.below && v < w.center + w.above

/-- The digits of the best decimal on the grid `10^t`, if a neighbour of the value on that
grid reads back: the nearer one, and of two as near, the even one. -/
def onGrid (w : Window) (d t : Nat) : Option Nat :=
  let p := Nat.pow 10 t
  let lo := d / p
  let hi := lo + 1
  let vlo := 4 * lo * p
  let vhi := 4 * hi * p
  match w.contains vlo, w.contains vhi with
  | true, true =>
    if w.center - vlo < vhi - w.center then some lo
    else if vhi - w.center < w.center - vlo then some hi
    else if lo % 2 = 0 then some lo else some hi
  | true, false => some lo
  | false, true => some hi
  | false, false => none

/-- The first grid, from the coarsest, on which a neighbour reads back: its digits and the
grid's power of ten. -/
def firstGrid (w : Window) (d : Nat) : List Nat → Option (Nat × Nat)
  | [] => none
  | t :: ts =>
    match onGrid w d t with
    | some c => some (c, t)
    | none => firstGrid w d ts

/-- Digits and an exponent with the digits' trailing zeros moved into the exponent, at most
`fuel` of them. -/
def dropZeros : Nat → Nat → Int → Nat × Int
  | 0, c, e => (c, e)
  | fuel + 1, c, e => if c ≠ 0 ∧ c % 10 = 0 then dropZeros fuel (c / 10) (e + 1) else (c, e)

/-- The decimal with the fewest significant digits that reads back as a non-zero binary
fraction. Its digits end in no zero: rounding up on the coarsest grid can give `10`. -/
def shortestOf (b : Binary) : Shortest :=
  let (d, s) := exactDecimal b.mantissa b.exponent
  let g := gapUnits b.exponent
  let w : Window := ⟨4 * d, if b.narrowBelow then g else 2 * g, 2 * g, b.mantissa % 2 = 0⟩
  let n := digitCount d
  match firstGrid w d ((List.range n).reverse) with
  | some (c, t) =>
    let (c, e) := dropZeros (digitCount c) c ((t : Int) - s)
    ⟨b.negative, c, e⟩
  | none => ⟨b.negative, d, -(s : Int)⟩

/-- The shortest decimal that reads back as a finite double; zero is `0`. None for an
infinity or a NaN. -/
def shortest (x : Float) : Option Shortest :=
  (Binary.ofFloat? x).map fun b => if b.mantissa = 0 then ⟨b.negative, 0, 0⟩ else shortestOf b

theorem exactDecimal_nonneg (m : Nat) (e : Int) (h : 0 ≤ e) :
    exactDecimal m e = (m * Nat.pow 2 e.toNat, 0) := by
  simp [exactDecimal, h]

/-- The double nearest to one tenth is written `0.1`. -/
example : shortestOf ⟨false, 7205759403792794, -56, false⟩ = ⟨false, 1, -1⟩ := by decide

/-- The double just below a millionth rounds up to it, written with the one digit `1`. -/
example : shortestOf ⟨false, 4722366482869645, -72, false⟩ = ⟨false, 1, -6⟩ := by decide

/-- The double nearest to the square root of one half keeps sixteen digits. -/
example : shortestOf ⟨false, 6369051672525773, -53, false⟩ = ⟨false, 7071067811865476, -16⟩ := by
  decide

end Decimal
end KernelSynth
