/-
# Blank characters and trimming

`isBlank` is the Unicode `White_Space` property: the ASCII blanks tab, line
feed, vertical tab, form feed, carriage return and space, the next line
control U+0085, the no-break space U+00A0, and the spaces, separators and
ideographic space above U+1680. Zero-width characters such as U+200B are not
blank.

`trim` removes blank characters from both ends of a text and keeps the rest
as it is; mix entries and their parts are read through it.

Key definitions: `Text.isBlank`, `Text.trim`.
Key theorems: `Text.isBlank_of_isWhitespace`, `Text.trim_toList`.
-/

namespace KernelSynth
namespace Text

/-- A character is blank when it has the Unicode `White_Space` property. -/
def isBlank (c : Char) : Bool :=
  let n := c.toNat
  (0x09 ≤ n && n ≤ 0x0D) || n == 0x20 || n == 0x85 || n == 0xA0 || n == 0x1680 ||
    (0x2000 ≤ n && n ≤ 0x200A) || n == 0x2028 || n == 0x2029 || n == 0x202F ||
    n == 0x205F || n == 0x3000

/-- The characters of a text without its leading blanks. -/
def dropBlanks (cs : List Char) : List Char :=
  cs.dropWhile isBlank

/-- Characters without blank characters at either end. -/
def trimChars (cs : List Char) : List Char :=
  (dropBlanks (dropBlanks cs).reverse).reverse

/-- A text without blank characters at either end. -/
def trim (s : String) : String :=
  String.ofList (trimChars s.toList)

theorem trim_toList (s : String) : (trim s).toList = trimChars s.toList := by
  simp [trim]

/-- Every character that core counts as whitespace is blank. -/
theorem isBlank_of_isWhitespace (c : Char) (h : c.isWhitespace = true) : isBlank c = true := by
  simp only [Char.isWhitespace, Bool.or_eq_true, decide_eq_true_eq] at h
  rcases h with ((h | h) | h) | h <;> subst h <;> decide

example : isBlank ' ' = true ∧ isBlank '\u200b' = false ∧ isBlank '\x0b' = true := by decide

end Text
end KernelSynth
