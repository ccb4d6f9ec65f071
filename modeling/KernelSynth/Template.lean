/-
# Operation templates

An operation is a line of kernel code with three operand slots, `OUT`,
`IN1` and `IN2`. Its text is read left to right: where a slot's name
starts, that slot stands (the first name that matches, in the order `OUT`,
`IN1`, `IN2`), and any other character stands for itself. A template must
use `OUT` and `IN1`; `IN2` is optional. Its opcode must be non-empty and hold
no colon, comma, space, tab or line feed, since mixes are written as
`opcode:count` lists.

Expanding a template puts a value in each slot; a slot without a value is
written as its own name.

Key definitions: `Slot`, `Piece`, `Template`, `Template.ofText`,
`Template.expand`, `Template.expandWith`.
Key theorems: `Template.ofText_eq_ok_iff`, `Template.slots_sublist`.
-/
import KernelSynth.Fault

namespace KernelSynth

/-- An operand slot of an operation template. -/
inductive Slot where
  | out
  | in1
  | in2
  deriving DecidableEq, Repr

/-- The name a slot is written as in a template. -/
def Slot.name : Slot → String
  | .out => "OUT"
  | .in1 => "IN1"
  | .in2 => "IN2"

/-- The slots in the order they draw operands. -/
def Slot.all : List Slot := [.out, .in1, .in2]

/-- The slot a name denotes. -/
def Slot.ofName? (name : String) : Option Slot :=
  Slot.all.find? (·.name = name)

/-- A piece of a template: a character that stands for itself, or a slot. -/
inductive Piece where
  | char (c : Char)
  | slot (s : Slot)
  deriving DecidableEq, Repr

/-- The pieces of a template text, read left to right. -/
def Piece.ofChars : List Char → List Piece
  | [] => []
  | 'O' :: 'U' :: 'T' :: r => .slot .out :: Piece.ofChars r
  | 'I' :: 'N' :: '1' :: r => .slot .in1 :: Piece.ofChars r
  | 'I' :: 'N' :: '2' :: r => .slot .in2 :: Piece.ofChars r
  | c :: r => .char c :: Piece.ofChars r

/-- A character that may not stand in an opcode. -/
def isOpcodeBreak (c : Char) : Bool :=
  c = ':' || c = ',' || c = ' ' || c = '\t' || c = '\n'

/-- An opcode is valid when it is non-empty and holds no break character. -/
def validOpcode (op : String) : Bool :=
  op != "" && !op.toList.any isOpcodeBreak

/-- An operation: its opcode, its text, the text read into pieces, and the distinct slots it
uses, in the order `OUT`, `IN1`, `IN2`. -/
structure Template where
  opcode : String
  text : String
  pieces : List Piece
  slots : List Slot
  deriving Repr

namespace Template

/-- The distinct slots that pieces use, in the order `OUT`, `IN1`, `IN2`. -/
def slotsOf (ps : List Piece) : List Slot := Slot.all.filter fun s => Piece.slot s ∈ ps

/-- The template of an opcode and a text, refused when the opcode is invalid or the text
does not use both `OUT` and `IN1`. -/
def ofText (opcode text : String) : Except Fault Template :=
  if !validOpcode opcode then .error (.invalidOpcode opcode)
  else
    let ps := Piece.ofChars text.toList
    if Piece.slot .out ∈ ps ∧ Piece.slot .in1 ∈ ps then
      .ok ⟨opcode, text, ps, slotsOf ps⟩
    else .error (.missingSlots opcode)

/-- The text of a template with each slot replaced by its value. -/
def expand (t : Template) (value : Slot → String) : String :=
  String.join (t.pieces.map fun
    | .char c => c.toString
    | .slot s => value s)

/-- Expands with the values given for some slots; the others are written as their names. -/
def expandWith (t : Template) (values : List (Slot × String)) : String :=
  t.expand fun s => ((values.find? (·.1 = s)).map (·.2)).getD s.name

theorem slots_sublist (ps : List Piece) :
    (slotsOf ps).Sublist Slot.all :=
  List.filter_sublist

theorem ofText_eq_ok_iff (opcode text : String) (t : Template) :
    ofText opcode text = .ok t ↔
      validOpcode opcode = true ∧
      Piece.slot .out ∈ Piece.ofChars text.toList ∧ Piece.slot .in1 ∈ Piece.ofChars text.toList ∧
      t = ⟨opcode, text, Piece.ofChars text.toList, slotsOf (Piece.ofChars text.toList)⟩ := by
  unfold ofText
  by_cases hv : validOpcode opcode = true
  · simp only [hv, Bool.not_true, Bool.false_eq_true, ↓reduceIte, true_and]
    split
    · rename_i h
      simp only [Except.ok.injEq, h, true_and]
      exact ⟨fun e => e.symm, fun e => e.symm⟩
    · rename_i h
      constructor
      · intro e; cases e
      · intro ⟨h1, h2, _⟩; exact absurd ⟨h1, h2⟩ h
  · have hf : validOpcode opcode = false := by simpa using hv
    simp [hf]

example : (ofText "mad" "OUT = IN1 * IN2 + IN1;").toOption.map (·.slots) =
    some [.out, .in1, .in2] := by decide

end Template
end KernelSynth
