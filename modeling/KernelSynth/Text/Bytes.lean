/-
# Text that may hold any bytes

Text in this library is a run of bytes: mostly UTF-8, but data decoded from
base64, or from `%XX` escapes in a tag, need not be. A Lean string holds
such text in exactly one way. Read as UTF-8, a run of bytes falls into
pieces (`Piece`): a well-formed sequence is its character, and a byte that
starts none is a byte on its own. A character is written as itself; a byte
`b` on its own as the mark `U+F7F00` followed by the character
`U+F7F00 + b` (`b` is 128 or more); and the mark, when it is a character of
the text, is written twice. So every run of bytes has one form, every
Unicode text is the run of its UTF-8 bytes (`ofUnicode`), and `bytes` gives
the bytes back.

A byte does not start a well-formed sequence when it is a stray
continuation byte, or starts an overlong or cut-off sequence, an encoded
surrogate, or a value past U+10FFFF; the bytes after it are read afresh.
Texts joined end to end are read again from their bytes wherever the
pieces matter (`shownChars`, `Text.quote`), so a sequence split between two
texts is whole again.

Where text is shown as it is, a byte on its own shows as U+FFFD
(`shownChars`, `lossy`); where it is quoted, as `\x` and two hex digits
(`Text.quote`). Texts are ordered by their bytes (`byteLt`).

Key definitions: `Text.Piece`, `Text.pieces`, `Text.decodeUtf8`, `Text.encodeUtf8`,
`Text.ofUnicode`, `Text.ofBytes`, `Text.bytes`, `Text.shownChars`, `Text.lossy`, `Text.byteLt`.
-/

namespace KernelSynth
namespace Text

/-- A piece of text read as UTF-8: a character, or a byte that starts no well-formed
sequence. -/
inductive Piece where
  | char (c : Char)
  | byte (b : Nat)
  deriving DecidableEq, Repr

/-- The code point of the mark that starts a byte on its own. -/
def markCode : Nat := 0xF7F00

/-- The mark that starts a byte on its own, and is written twice as a character. -/
def mark : Char := Char.ofNat markCode

/-- The character after the mark that holds a byte. -/
def heldChar (b : Nat) : Char := Char.ofNat (markCode + b)

/-- The byte a character after the mark holds, if it is one of `U+F7F80` to `U+F7FFF`. -/
def heldByte? (c : Char) : Option Nat :=
  if markCode + 0x80 ≤ c.toNat ∧ c.toNat ≤ markCode + 0xFF then some (c.toNat - markCode)
  else none

/-- The characters that write a piece: the mark twice for the mark, the mark and the held
character for a byte on its own, any other character as itself. -/
def Piece.chars : Piece → List Char
  | .char c => if c = mark then [mark, mark] else [c]
  | .byte b => if b < 0x80 then [Char.ofNat b] else [mark, heldChar b]

/-- How a piece is shown where text is shown as it is: a byte on its own as U+FFFD. -/
def Piece.shown : Piece → Char
  | .char c => c
  | .byte _ => '�'

/-- The pieces that characters write, after a mark when `afterMark`: a mark with another
mark is the mark, a mark with a held character is a byte, a mark before anything else (or at
the end) is itself, and any other character is itself. -/
def piecesAfter : Bool → List Char → List Piece
  | false, [] => []
  | true, [] => [.char mark]
  | false, c :: rest => if c = mark then piecesAfter true rest else .char c :: piecesAfter false rest
  | true, c :: rest =>
    if c = mark then .char mark :: piecesAfter false rest
    else match heldByte? c with
      | some b => .byte b :: piecesAfter false rest
      | none => .char mark :: .char c :: piecesAfter false rest

/-- The pieces that characters write. -/
def pieces (cs : List Char) : List Piece := piecesAfter false cs

/-- Pieces written as text. -/
def ofPieces (ps : List Piece) : String := String.ofList (ps.flatMap Piece.chars)

/-- A Unicode text as the run of its UTF-8 bytes. -/
def ofUnicode (s : String) : String := ofPieces (s.toList.map .char)

/-- Whether a byte continues a UTF-8 sequence. -/
def isContinuation (b : Nat) : Bool := b / 64 = 2

/-- UTF-8 bytes as pieces: each well-formed sequence is its character, and a byte that does
not start one is a byte on its own. -/
def decodeUtf8 : List Nat → List Piece
  | [] => []
  | b :: rest =>
    if b < 128 then .char (Char.ofNat b) :: decodeUtf8 rest
    else
      let kept := .byte b :: decodeUtf8 rest
      match rest with
      | c :: rest2 =>
        if b / 32 = 6 ∧ isContinuation c then
          let v := (b % 32) * 64 + c % 64
          if 128 ≤ v then .char (Char.ofNat v) :: decodeUtf8 rest2 else kept
        else match rest2 with
          | d :: rest3 =>
            if b / 16 = 14 ∧ isContinuation c ∧ isContinuation d then
              let v := (b % 16) * 4096 + (c % 64) * 64 + d % 64
              if 2048 ≤ v ∧ (v < 0xD800 ∨ 0xDFFF < v) then .char (Char.ofNat v) :: decodeUtf8 rest3
              else kept
            else match rest3 with
              | e :: rest4 =>
                if b / 8 = 30 ∧ isContinuation c ∧ isContinuation d ∧ isContinuation e then
                  let v := (b % 8) * 262144 + (c % 64) * 4096 + (d % 64) * 64 + e % 64
                  if 65536 ≤ v ∧ v ≤ 0x10FFFF then .char (Char.ofNat v) :: decodeUtf8 rest4
                  else kept
                else kept
              | [] => kept
          | [] => kept
      | [] => kept

/-- The UTF-8 encoding of a code point: one byte below 128, else a lead byte marking the
length and six bits in each continuation byte. -/
def encodeUtf8 (n : Nat) : List Nat :=
  if n < 0x80 then [n]
  else if n < 0x800 then [0xC0 + n / 64, 0x80 + n % 64]
  else if n < 0x10000 then [0xE0 + n / 4096, 0x80 + n / 64 % 64, 0x80 + n % 64]
  else [0xF0 + n / 262144, 0x80 + n / 4096 % 64, 0x80 + n / 64 % 64, 0x80 + n % 64]

/-- The bytes of a piece. -/
def Piece.bytes : Piece → List Nat
  | .char c => encodeUtf8 c.toNat
  | .byte b => [b]

/-- The bytes of a text. -/
def bytes (s : String) : List Nat := (pieces s.toList).flatMap Piece.bytes

/-- Bytes as text. -/
def ofBytes (bs : List Nat) : String := ofPieces (decodeUtf8 bs)

/-- The pieces of a text read afresh from its bytes. -/
def piecesOf (s : String) : List Piece := decodeUtf8 (bytes s)

/-- The characters of a text as it is shown: each byte on its own as U+FFFD. -/
def shownChars (s : String) : List Char := (piecesOf s).map Piece.shown

/-- A text as it is shown; a text without the mark is shown as it is. -/
def lossy (s : String) : String :=
  if s.toList.contains mark then String.ofList (shownChars s) else s

/-- Whether one list of bytes comes before another: at the first place they differ, or by
being a proper prefix. -/
def bytesLt : List Nat → List Nat → Bool
  | [], [] => false
  | [], _ :: _ => true
  | _ :: _, [] => false
  | a :: as, b :: bs => if a = b then bytesLt as bs else a < b

/-- Whether one text comes before another in the order of their bytes. -/
def byteLt (a b : String) : Bool := bytesLt (bytes a) (bytes b)

/-- Characters without the mark are their own pieces. -/
theorem pieces_of_not_mark (cs : List Char) (h : ∀ c ∈ cs, c ≠ mark) :
    pieces cs = cs.map .char := by
  induction cs with
  | nil => rfl
  | cons c rest ih =>
    have hc : c ≠ mark := h c (by simp)
    have hr : ∀ d ∈ rest, d ≠ mark := fun d hd => h d (by simp [hd])
    have := ih hr
    simp only [pieces] at this ⊢
    simp [piecesAfter, hc, this]

/-- Stray bytes are bytes on their own, a cut-off sequence byte by byte. -/
example : decodeUtf8 [0x61, 0xFF, 0xC3] = [.char 'a', .byte 0xFF, .byte 0xC3] := by decide

/-- An overlong sequence and an encoded surrogate are read byte by byte. -/
example : decodeUtf8 [0xC0, 0x80, 0xED, 0xA0, 0x80] =
    [.byte 0xC0, .byte 0x80, .byte 0xED, .byte 0xA0, .byte 0x80] := by decide

/-- The mark twice is the mark; the mark and a held character are a byte; a character in the
held block without the mark is itself. -/
example : pieces [mark, mark, mark, heldChar 0xFF, heldChar 0x80] =
    [.char mark, .byte 0xFF, .char (heldChar 0x80)] := by decide

end Text
end KernelSynth
