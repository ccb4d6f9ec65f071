/-
# Base64 text

`decodeBase64?` reads the standard base64 alphabet with `=` padding. Line
breaks (carriage returns and line feeds) anywhere are skipped. The text must
come in groups of four; the last group may end in `==` or `=`, and nothing
may follow the padding. Bits left over in the last group are ignored.

Key definitions: `Text.decodeBase64?`.
-/
import KernelSynth.Text.Blank

namespace KernelSynth
namespace Text

/-- The value of a character of the standard base64 alphabet. -/
def base64Value? (c : Char) : Option Nat :=
  if 'A' ≤ c ∧ c ≤ 'Z' then some (c.toNat - 65)
  else if 'a' ≤ c ∧ c ≤ 'z' then some (c.toNat - 71)
  else if '0' ≤ c ∧ c ≤ '9' then some (c.toNat + 4)
  else if c = '+' then some 62
  else if c = '/' then some 63
  else none

/-- Groups of four base64 characters decoded to bytes; padding ends the text. -/
def base64Groups : List Char → Option (List Nat)
  | [] => some []
  | [a, b, '=', '='] => do
    let x ← base64Value? a
    let y ← base64Value? b
    pure [(x * 64 + y) / 16]
  | [a, b, c, '='] => do
    let x ← base64Value? a
    let y ← base64Value? b
    let z ← base64Value? c
    let v := (x * 64 + y) * 64 + z
    pure [v / 1024, v / 4 % 256]
  | a :: b :: c :: d :: rest => do
    let x ← base64Value? a
    let y ← base64Value? b
    let z ← base64Value? c
    let w ← base64Value? d
    let v := ((x * 64 + y) * 64 + z) * 64 + w
    let tail ← base64Groups rest
    pure (v / 65536 :: v / 256 % 256 :: v % 256 :: tail)
  | _ => none

/-- The bytes of base64 text, none if it is not well formed. -/
def decodeBase64? (s : String) : Option (List Nat) :=
  base64Groups (s.toList.filter fun c => c ≠ '\r' ∧ c ≠ '\n')

/-- The bytes of base64 `aGk=` are those of `hi`. -/
example : decodeBase64? "aGk=" = some [104, 105] := by decide

end Text
end KernelSynth
