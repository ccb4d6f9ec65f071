/-
# Listings indented by brace depth

A `Listing` is source text being written line by line. Each line's braces
move the nesting depth: its closing braces lower the depth before the line
is written (never below zero), its opening braces raise it after. That is,
only the balance `{` less `}` of the line counts: a line such as `} else {`
keeps the depth and is written at it. A line is written after `indent`
repeated once per level; an empty line stays empty.

The view of a listing is `lines.toList`; every operation says what it
appends to it (`lines_write`, `lines_blank`, `lines_writeAll`) and what
depth follows (`depth_write`).

Key definitions: `braceBalance`, `Listing.write`, `Listing.blank`,
`Listing.writeAll`, `Listing.Call`, `Listing.performAll`, `Listing.text`.
Key theorems: `Listing.lines_write`, `Listing.depth_write`,
`Listing.lines_writeAll`, `Listing.size_writeAll`.
-/

namespace KernelSynth

/-- The braces a line opens: the number of `{` in it. -/
def opening (line : String) : Nat := line.toList.count '{'

/-- The braces a line closes: the number of `}` in it. -/
def closing (line : String) : Nat := line.toList.count '}'

/-- The change of nesting a line brings: its opening braces less its closing ones. -/
def braceBalance (line : String) : Int := (opening line : Int) - closing line

/-- Text written so far, the depth the next line starts from, and the indent of one level. -/
structure Listing where
  indent : String
  depth : Nat
  lines : Array String
  deriving Repr

namespace Listing

/-- The listing with nothing written, at depth zero. -/
def empty (indent : String) : Listing := ⟨indent, 0, #[]⟩

/-- The default indent of one level: two spaces. -/
def defaultIndent : String := "  "

/-- The depth a line is written at, from the depth before it: lowered by the
line's excess of closing braces, not below zero. -/
def lineDepth (depth : Nat) (line : String) : Nat :=
  depth - (-braceBalance line).toNat

/-- The depth after a line: the depth it was written at, raised by the line's
excess of opening braces. -/
def nextDepth (depth : Nat) (line : String) : Nat :=
  lineDepth depth line + (braceBalance line).toNat

/-- A line as written at `depth`: `indent` once per level before it, unless it is empty. -/
def render (indent : String) (depth : Nat) (line : String) : String :=
  if line = "" then "" else String.join (List.replicate depth indent) ++ line

/-- Writes a line at the depth its braces select. -/
def write (l : Listing) (line : String) : Listing :=
  { l with
    depth := nextDepth l.depth line
    lines := l.lines.push (render l.indent (lineDepth l.depth line) line) }

/-- Writes an empty line; the depth stays. -/
def blank (l : Listing) : Listing :=
  { l with lines := l.lines.push "" }

/-- Writes the lines one after another. -/
def writeAll (l : Listing) (lines : List String) : Listing :=
  lines.foldl write l

/-- A call on a listing: write a line, or an empty separator line. -/
inductive Call where
  | write (line : String)
  | blank
  deriving DecidableEq, Repr

/-- Carries out a call. -/
def perform (l : Listing) : Call → Listing
  | .write line => l.write line
  | .blank => l.blank

/-- Carries out calls one after another. -/
def performAll (l : Listing) (cs : List Call) : Listing :=
  cs.foldl perform l

/-- The text of a listing: each line followed by a line feed. -/
def text (l : Listing) : String :=
  String.join (l.lines.toList.map (· ++ "\n"))

@[simp] theorem lines_empty (indent : String) : (empty indent).lines.toList = [] := rfl

@[simp] theorem depth_empty (indent : String) : (empty indent).depth = 0 := rfl

@[simp] theorem lines_write (l : Listing) (line : String) :
    (l.write line).lines.toList = l.lines.toList ++ [render l.indent (lineDepth l.depth line) line] := by
  simp [write]

@[simp] theorem depth_write (l : Listing) (line : String) :
    (l.write line).depth = nextDepth l.depth line := rfl

@[simp] theorem indent_write (l : Listing) (line : String) : (l.write line).indent = l.indent := rfl

@[simp] theorem lines_blank (l : Listing) : l.blank.lines.toList = l.lines.toList ++ [""] := by
  simp [blank]

@[simp] theorem depth_blank (l : Listing) : l.blank.depth = l.depth := rfl

@[simp] theorem indent_blank (l : Listing) : l.blank.indent = l.indent := rfl

@[simp] theorem indent_writeAll (l : Listing) (lines : List String) :
    (l.writeAll lines).indent = l.indent := by
  induction lines generalizing l with
  | nil => rfl
  | cons x xs ih => simp [writeAll, List.foldl_cons] at ih ⊢; rw [ih]; rfl

@[simp] theorem writeAll_nil (l : Listing) : l.writeAll [] = l := rfl

theorem writeAll_cons (l : Listing) (x : String) (xs : List String) :
    l.writeAll (x :: xs) = (l.write x).writeAll xs := rfl

theorem writeAll_append (l : Listing) (xs ys : List String) :
    l.writeAll (xs ++ ys) = (l.writeAll xs).writeAll ys := by
  simp [writeAll, List.foldl_append]

/-- Writing lines appends exactly as many lines as were written. -/
theorem size_writeAll (l : Listing) (lines : List String) :
    (l.writeAll lines).lines.size = l.lines.size + lines.length := by
  induction lines generalizing l with
  | nil => rfl
  | cons x xs ih =>
    rw [writeAll_cons, ih]
    simp [write]
    omega

/-- The lines written by `writeAll`, each rendered at the depth that the lines before it leave. -/
def rendered (indent : String) : Nat → List String → List String
  | _, [] => []
  | d, x :: xs => render indent (lineDepth d x) x :: rendered indent (nextDepth d x) xs

/-- The depth after a run of lines. -/
def depthAfter : Nat → List String → Nat
  | d, [] => d
  | d, x :: xs => depthAfter (nextDepth d x) xs

theorem lines_writeAll (l : Listing) (lines : List String) :
    (l.writeAll lines).lines.toList = l.lines.toList ++ rendered l.indent l.depth lines := by
  induction lines generalizing l with
  | nil => simp [rendered]
  | cons x xs ih => simp [writeAll_cons, ih, rendered]

theorem depth_writeAll (l : Listing) (lines : List String) :
    (l.writeAll lines).depth = depthAfter l.depth lines := by
  induction lines generalizing l with
  | nil => rfl
  | cons x xs ih => simp [writeAll_cons, ih, depthAfter]

example : ((empty "  ").writeAll ["a \x7b", "b", "\x7d else \x7b", "\x7d", "\x7d"]).lines.toList =
    ["a \x7b", "  b", "  \x7d else \x7b", "\x7d", "\x7d"] := by decide

end Listing
end KernelSynth
