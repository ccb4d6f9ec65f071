/-
# Instruction mixes

A mix says which operations a kernel body repeats and how often, in order:
a list of entries `opcode:count`. It is written with entries joined by
commas, e.g. `sin:3,mad:10`.

Reading a mix: a blank text is the empty mix; otherwise the text is split at
every comma and each piece, trimmed of blanks, must be exactly one opcode and
one count around a single colon. The opcode, trimmed, must not be empty; the
count, trimmed, must be a decimal integer of a 64-bit word and not negative.
Every malformed entry is reported, in order, and then no mix is returned.

The number of instructions of a mix is the sum of its counts as a 64-bit
word.

Key definitions: `MixEntry`, `Mix`, `Mix.render`, `Mix.parse`,
`Mix.instructions`.
Key theorems: `Mix.parse_blank`, `Mix.instructions_eq_wrap`.
-/
import KernelSynth.Fault
import KernelSynth.Text.Blank
import KernelSynth.Text.Numeral
import KernelSynth.Word

namespace KernelSynth

/-- One operation of a mix and how many times it is repeated. -/
structure MixEntry where
  opcode : String
  count : Int
  deriving DecidableEq, Repr

/-- An entry written as `opcode:count`. -/
def MixEntry.render (e : MixEntry) : String := e.opcode ++ ":" ++ toString e.count

/-- Reads one entry of a mix, already trimmed. -/
def MixEntry.parse (raw : List Char) : Except EntryError MixEntry :=
  match raw.splitOn ':' with
  | [op, count] =>
    let opcode := Text.trimChars op
    if opcode = [] then .error ⟨String.ofList raw, .noOpcode⟩
    else match Text.readDecimal? (String.ofList (Text.trimChars count)) with
      | none => .error ⟨String.ofList raw, .notInteger⟩
      | some n =>
        if n < 0 then .error ⟨String.ofList raw, .negative⟩ else .ok ⟨String.ofList opcode, n⟩
  | _ => .error ⟨String.ofList raw, .shape⟩

/-- Operations and their counts, in the order a kernel body repeats them. -/
abbrev Mix := List MixEntry

namespace Mix

/-- A mix written as its entries joined by commas. -/
def render (m : Mix) : String := ",".intercalate (m.map MixEntry.render)

/-- The number of instructions in a kernel body: the sum of the counts, as a 64-bit word. -/
def instructions (m : Mix) : Int := Word.sum (m.map (·.count))

/-- Reads the entries of a mix in order, gathering the malformed ones. -/
def gather : List (List Char) → Except (List EntryError) Mix
  | [] => .ok []
  | raw :: rest =>
    match MixEntry.parse (Text.trimChars raw), gather rest with
    | .ok e, .ok m => .ok (e :: m)
    | .ok _, .error es => .error es
    | .error e, .ok _ => .error [e]
    | .error e, .error es => .error (e :: es)

/-- Reads a mix: a blank text is empty, otherwise the comma-separated entries. -/
def parse (s : String) : Except (List EntryError) Mix :=
  if Text.trimChars s.toList = [] then .ok [] else gather (s.toList.splitOn ',')

theorem parse_blank (s : String) (h : Text.trimChars s.toList = []) : parse s = .ok [] := by
  simp [parse, h]

example : (parse " sin:3, mad : 10 ").toOption = some [⟨"sin", 3⟩, ⟨"mad", 10⟩] := by decide

theorem instructions_eq_wrap (m : Mix) : m.instructions = Word.wrap (Word.total (m.map (·.count))) :=
  Word.sum_eq_wrap _

end Mix
end KernelSynth
