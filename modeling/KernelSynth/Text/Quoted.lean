/-
# Quoted texts

`quote` writes a text between double quotes so that every character can be
read back: a quote and a backslash get a backslash before them, printable
characters stand for themselves, the seven control characters with a letter
escape (bell, backspace, form feed, line feed, carriage return, tab,
vertical tab) take it, the other controls below the space and delete are
written `\x` with two hex digits, and every other unprintable character is
written `\u` with four hex digits or `\U` with eight. The text is read as
UTF-8 from its bytes (see `Text.Bytes`): a byte that starts no well-formed
sequence is written `\x` with two hex digits. Names, entries and opcodes in
error messages are quoted this way.

Key definitions: `Text.escapeChar`, `Text.escapePiece`, `Text.quote`, `Text.quoteRune`.
Key theorems: `Text.quote_toList`, `Text.escapeChar_of_isPrintable`.
-/
import KernelSynth.Text.Bytes
import KernelSynth.Text.Printable

namespace KernelSynth
namespace Text

/-- The lower-case hex digit of a number below sixteen. -/
def hexDigit (n : Nat) : Char :=
  if n < 10 then Char.ofNat (48 + n) else Char.ofNat (87 + n)

/-- The `width` lower-case hex digits of `n`, most significant first. -/
def hexDigits (width n : Nat) : List Char :=
  (List.range width).reverse.map fun i => hexDigit (n / Nat.pow 16 i % 16)

/-- How one character of a text is written between double quotes. -/
def escapeChar (c : Char) : List Char :=
  if c = '"' ∨ c = '\\' then ['\\', c]
  else if isPrintable c then [c]
  else if c = '\x07' then ['\\', 'a']
  else if c = '\x08' then ['\\', 'b']
  else if c = '\x0c' then ['\\', 'f']
  else if c = '\n' then ['\\', 'n']
  else if c = '\r' then ['\\', 'r']
  else if c = '\t' then ['\\', 't']
  else if c = '\x0b' then ['\\', 'v']
  else if c.toNat < 0x20 ∨ c.toNat = 0x7F then ['\\', 'x'] ++ hexDigits 2 c.toNat
  else if c.toNat < 0x10000 then ['\\', 'u'] ++ hexDigits 4 c.toNat
  else ['\\', 'U'] ++ hexDigits 8 c.toNat

/-- How one piece of a text is written between double quotes: a character by `escapeChar`, a
byte on its own as `\x` and two hex digits. -/
def escapePiece : Piece → List Char
  | .char c => escapeChar c
  | .byte b => ['\\', 'x'] ++ hexDigits 2 b

/-- A text between double quotes, each piece written by `escapePiece`. -/
def quote (s : String) : String :=
  String.ofList ('"' :: ((piecesOf s).flatMap escapePiece ++ ['"']))

/-- A character between single quotes, written as `quote` writes it but for the quote marks:
a single quote gets a backslash, a double quote does not. -/
def quoteRune (c : Char) : String :=
  let body := if c = '\'' then ['\\', '\''] else if c = '"' then ['"'] else escapeChar c
  String.ofList ('\'' :: (body ++ ['\'']))

theorem quote_toList (s : String) :
    (quote s).toList = '"' :: ((piecesOf s).flatMap escapePiece ++ ['"']) := by
  simp [quote]

/-- A printable character other than a quote or a backslash stands for itself. -/
theorem escapeChar_of_isPrintable {c : Char} (hp : isPrintable c = true) (hq : c ≠ '"')
    (hb : c ≠ '\\') : escapeChar c = [c] := by
  simp [escapeChar, hp, hq, hb]

end Text
end KernelSynth
