/-
# The general text of a double

The general text of a double is its shortest decimal (`Decimal.shortest`),
written positionally when its decimal exponent (the power of ten of its
first digit) is from -4 to 5, and in exponent notation otherwise: the first
digit, a point and the other digits if there are any, `e`, the exponent's
sign and at least two of its digits. Zero is `0` (or `-0`); the infinities
are `+Inf` and `-Inf`, and NaN is `NaN`.

`1e+06`, `100000`, `0.0001`, `1e-05`, `1.23456789e+08` and `2.5` are
general texts.

Key definitions: `Decimal.Binary64.toBinary?`, `Decimal.Shortest.general`,
`Decimal.Binary64.general`.
-/
import KernelSynth.Decimal.Binary64
import KernelSynth.Decimal.Shortest

namespace KernelSynth
namespace Decimal

/-- The binary fraction of a finite double, with whether the gap below it is the narrow one:
it is for the least mantissa of a binade above the smallest. None for zero, an infinity or
NaN. -/
def Binary64.toBinary? : Binary64 → Option Binary
  | .finite negative m e =>
    if m = 0 then none
    else some ⟨negative, m, e, m = Nat.pow 2 52 ∧ -1074 < e⟩
  | _ => none

/-- The digits of a shortest decimal, none for zero. -/
def Shortest.digitList (d : Shortest) : List Char :=
  if d.digits = 0 then [] else Nat.toDigits 10 d.digits

/-- The digits of an exponent, at least two. -/
def exponentDigits (n : Nat) : List Char :=
  let ds := Nat.toDigits 10 n
  if ds.length < 2 then '0' :: ds else ds

/-- Digits `ds` with the decimal point after `point` of them, positionally: the whole part
(zero if empty, padded with zeros when the point lies past the digits) and the digits after
the point, padded with zeros when it lies before them. -/
def positional (ds : List Char) (point : Int) : List Char :=
  let n : Int := ds.length
  let whole : List Char :=
    if 0 < point then (ds ++ List.replicate (point - n).toNat '0').take point.toNat else ['0']
  let fracCount := (n - point).toNat
  let frac := (List.range fracCount).map fun (i : Nat) =>
    let j : Int := point + (i : Int)
    if 0 ≤ j then ds.getD j.toNat '0' else '0'
  if fracCount = 0 then whole else whole ++ '.' :: frac

/-- The general text of a shortest decimal. -/
def Shortest.general (d : Shortest) : String :=
  let ds := d.digitList
  let point : Int := ds.length + d.exponent
  let exp : Int := if ds.isEmpty then 0 else point - 1
  let body : List Char :=
    if exp < -4 ∨ 6 ≤ exp then
      let first := ds.headD '0'
      let rest := ds.drop 1
      let mantissa := if rest.isEmpty then [first] else first :: '.' :: rest
      mantissa ++ 'e' :: (if exp < 0 then '-' else '+') :: exponentDigits exp.natAbs
    else positional ds point
  String.ofList (if d.negative then '-' :: body else body)

/-- The general text of a double. -/
def Binary64.general : Binary64 → String
  | .finite negative m e =>
    match Binary64.toBinary? (.finite negative m e) with
    | some b => (shortestOf b).general
    | none => if negative then "-0" else "0"
  | .infinite negative => if negative then "-Inf" else "+Inf"
  | .nan => "NaN"

/-- A million is written in exponent notation, a hundred thousand is not. -/
example : Shortest.general ⟨false, 1, 6⟩ = "1e+06" ∧ Shortest.general ⟨false, 1, 5⟩ = "100000" ∧
    Shortest.general ⟨false, 1, -4⟩ = "0.0001" ∧ Shortest.general ⟨false, 1, -5⟩ = "1e-05" ∧
    Shortest.general ⟨false, 123456789, 0⟩ = "1.23456789e+08" ∧
    Shortest.general ⟨true, 25, -1⟩ = "-2.5" := by
  refine ⟨rfl, rfl, rfl, rfl, rfl, rfl⟩

end Decimal
end KernelSynth
