/-
# Catalogs of operations

A `Catalog` maps opcodes to operation templates. It keeps its templates
sorted by opcode, one per opcode, so its opcodes come out sorted.

`extend` adds operations given as opcode and text: they are read in the
order of their opcodes, each replaces a template of the same opcode, and
when any of them is refused the catalog is not extended and every refusal
is reported, in that order. The default catalog holds `add`, `cos`, `mad`,
`sin` and `sqrt`.

Key definitions: `Catalog`, `Catalog.lookup`, `Catalog.opcodes`,
`Catalog.extend`, `Catalog.default`.
Key theorems: `Catalog.opcode_lookup?`.
-/
import KernelSynth.Template

namespace KernelSynth

/-- Operation templates, sorted by opcode, one per opcode. -/
structure Catalog where
  templates : List Template
  deriving Repr

namespace Catalog

/-- The catalog with no operation. -/
def empty : Catalog := ⟨[]⟩

/-- Puts a template in its place by opcode, in the order of their bytes, replacing one of the
same opcode. -/
def place (t : Template) : List Template → List Template
  | [] => [t]
  | u :: us =>
    if Text.byteLt t.opcode u.opcode then t :: u :: us
    else if t.opcode = u.opcode then t :: us
    else u :: place t us

/-- The catalog with a template added, replacing one of the same opcode. -/
def insert (c : Catalog) (t : Template) : Catalog := ⟨place t c.templates⟩

/-- The template of an opcode, if the catalog holds one. -/
def lookup? (c : Catalog) (opcode : String) : Option Template :=
  c.templates.find? (·.opcode = opcode)

/-- The template of an opcode, or the fault of an unknown operation. -/
def lookup (c : Catalog) (opcode : String) : Except Fault Template :=
  match c.lookup? opcode with
  | some t => .ok t
  | none => .error (.unknownOperation opcode)

/-- The opcodes the catalog holds, sorted. -/
def opcodes (c : Catalog) : List String := c.templates.map (·.opcode)

/-- Puts an operation among operations sorted by opcode, after those of no greater opcode. -/
def insertByOpcode (op : String × String) : List (String × String) → List (String × String)
  | [] => [op]
  | o :: os => if Text.byteLt op.1 o.1 then op :: o :: os else o :: insertByOpcode op os

/-- Operations given as opcode and text, in the order of their opcodes. -/
def byOpcode : List (String × String) → List (String × String)
  | [] => []
  | o :: os => insertByOpcode o (byOpcode os)

/-- Reads operations in turn onto a catalog, collecting the refused ones' faults. -/
def gather : Catalog × List Fault → List (String × String) → Catalog × List Fault
  | acc, [] => acc
  | (c, fs), (op, text) :: rest =>
    match Template.ofText op text with
    | .ok t => gather (c.insert t, fs) rest
    | .error f => gather (c, fs ++ [f]) rest

/-- The catalog with the operations added in the order of their opcodes, or every fault
found if any is refused. -/
def extend (c : Catalog) (ops : List (String × String)) : Except Failure Catalog :=
  match gather (c, []) (byOpcode ops) with
  | (c', []) => .ok c'
  | (_, fs) => .error fs

/-- The operations every catalog starts from. -/
def defaultOperations : List (String × String) :=
  [("sin", "OUT = cl::sycl::sin(IN1);"),
   ("cos", "OUT = cl::sycl::cos(IN1);"),
   ("sqrt", "OUT = cl::sycl::sqrt(IN1);"),
   ("add", "OUT = IN1 + IN2;"),
   ("mad", "OUT = IN1 * IN2 + IN1;")]

/-- The catalog of the default operations. -/
def default : Catalog :=
  match empty.extend defaultOperations with
  | .ok c => c
  | .error _ => empty

theorem opcode_lookup? (c : Catalog) (opcode : String) (t : Template)
    (h : c.lookup? opcode = some t) : t.opcode = opcode := by
  have := List.find?_some h
  simpa using this

example : default.opcodes = ["add", "cos", "mad", "sin", "sqrt"] := by decide

end Catalog
end KernelSynth
