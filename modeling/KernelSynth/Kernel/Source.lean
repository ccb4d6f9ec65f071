/-
# The lines of generated source

The source a plan generates, line by line, before indentation:

* the declarations: one forward declaration per kernel type, a class, or a
  class template over the scalar type and the dimensions when kernels are
  templated;
* the preamble: one buffer per line over the full range, an empty line, one
  zero-initialised capture per line, an empty line;
* one submission block per kernel: the submission header, one accessor
  binding per buffer, the iteration range, the parallel region header, a
  line that adds every capture to the first buffer (when there are
  captures), a line that adds every buffer to the first, the loop headers,
  the instructions, the closing braces, and two empty lines.

Loop bounds and instruction operands are drawn from a rotation over the
accessors: each loop header draws one, and each instruction draws one per
distinct slot of its template, in the order `OUT`, `IN1`, `IN2`, the
occurrences of a slot sharing its draw.

Key definitions: `Plan.declaration`, `Plan.typeName`, `Plan.preamble`,
`Plan.instruction`, `Plan.block`.
Key theorems: `Plan.length_block`.
-/
import KernelSynth.Kernel.Plan
import KernelSynth.Rotation

namespace KernelSynth
namespace Plan

/-- The forward declaration of a kernel type. -/
def declarationOf (templated : Bool) (kernel : String) : String :=
  if templated then "template <typename _TT, int _TN> class " ++ kernel ++ ";"
  else "class " ++ kernel ++ ";"

/-- The forward declaration of a kernel type under a plan. -/
def declaration (p : Plan) (kernel : String) : String := declarationOf p.config.templated kernel

/-- The declarations of all kernel types, in order. -/
def declarations (p : Plan) : List String := p.kernels.map p.declaration

/-- The name of a kernel type where it is used: with the scalar type and the dimensions as
arguments when kernels are templated. -/
def typeName (p : Plan) (kernel : String) : String :=
  if p.config.templated then
    kernel ++ "<" ++ p.config.scalar.name ++ ", " ++ toString p.config.dimensions ++ ">"
  else kernel

/-- The lines that declare the buffers and captures, each group followed by an empty line. -/
def preamble (p : Plan) : List String :=
  let st := p.config.scalar.name
  let d := toString p.config.dimensions
  p.buffers.map (fun b =>
      "s::buffer<" ++ st ++ ", " ++ d ++ "> " ++ b.name ++ "\x7bs::range<" ++ d ++ ">(" ++
        p.ndrange ++ ")\x7d;") ++
    [""] ++
    p.captures.map (fun c => st ++ " " ++ c ++ "\x7b\x7d;") ++
    [""]

/-- The lines that open a kernel's block, before its loops. -/
def header (p : Plan) (kernel : String) : List String :=
  let d := toString p.config.dimensions
  let first := elementRef (p.accessors.headD "")
  ["device_queue.submit([&](cl::sycl::handler& cgh) \x7b"] ++
    p.buffers.map (fun b =>
      "auto " ++ b.accessor ++ " = " ++ b.name ++ ".get_access<s::access::mode::read_write>(cgh);") ++
    ["cl::sycl::range<" ++ d ++ "> ndrange\x7b" ++ p.ndrange ++ "\x7d;",
     "cgh.parallel_for<" ++ p.typeName kernel ++ ">(ndrange, [=](cl::sycl::id<" ++ d ++
       "> gid) \x7b"] ++
    (if p.captures = [] then [] else [first ++ " += " ++ " + ".intercalate p.captures ++ ";"]) ++
    [first ++ " += " ++ " + ".intercalate (p.accessors.map elementRef) ++ ";"]

/-- The header of loop `i`, bounded by the element of `bound`. -/
def loopHead (p : Plan) (i : Nat) (bound : String) : String :=
  let v := "i" ++ toString i
  "for(" ++ p.config.scalar.name ++ " " ++ v ++ " = 0; " ++ v ++ " < " ++ elementRef bound ++
    "; ++" ++ v ++ ") \x7b"

/-- The headers of `n` loops from loop `i` on, each drawing its bound. -/
def loopHeads (p : Plan) (i : Nat) : Nat → Rotation → List String × Rotation
  | 0, r => ([], r)
  | n + 1, r =>
    let (rest, r') := p.loopHeads (i + 1) n r.next.2
    (p.loopHead i r.next.1 :: rest, r')

/-- One instruction of a template: each distinct slot draws an accessor, in order, and every
occurrence of the slot is its element. -/
def instruction (t : Template) (r : Rotation) : String × Rotation :=
  let (drawn, r') := r.drawMany t.slots.length
  let pairs := t.slots.zip (drawn.map elementRef)
  (t.expand fun s => ((pairs.find? (·.1 = s)).map (·.2)).getD s.name, r')

/-- `n` instructions of a template, in turn. -/
def repeatInstruction (t : Template) : Nat → Rotation → List String × Rotation
  | 0, r => ([], r)
  | n + 1, r =>
    let (line, r') := instruction t r
    let (rest, r'') := repeatInstruction t n r'
    (line :: rest, r'')

/-- The instructions of resolved entries, in order. -/
def instructions : List (Template × Nat) → Rotation → List String × Rotation
  | [], r => ([], r)
  | (t, n) :: es, r =>
    let (lines, r') := repeatInstruction t n r
    let (rest, r'') := instructions es r'
    (lines ++ rest, r'')

/-- The lines that close a kernel's block: one brace per loop, the parallel region, the
submission, and two empty lines. -/
def footer (p : Plan) : List String :=
  List.replicate p.config.loopNests "\x7d" ++
    ["\x7d); // parallel_for", "\x7d); // submit", "", ""]

/-- The lines of a kernel's block, drawing from a rotation, and the rotation after it. -/
def block (p : Plan) (kernel : String) (r : Rotation) : List String × Rotation :=
  let (loops, r₁) := p.loopHeads 0 p.config.loopNests r
  let (body, r₂) := instructions p.entries r₁
  (p.header kernel ++ loops ++ body ++ p.footer, r₂)

/-- The number of instructions the entries write. -/
def instructionCount : List (Template × Nat) → Nat
  | [] => 0
  | (_, n) :: es => n + instructionCount es

theorem length_loopHeads (p : Plan) (i n : Nat) (r : Rotation) :
    (p.loopHeads i n r).1.length = n := by
  induction n generalizing i r with
  | zero => rfl
  | succ n ih => simp [loopHeads, ih]

theorem length_repeatInstruction (t : Template) (n : Nat) (r : Rotation) :
    (repeatInstruction t n r).1.length = n := by
  induction n generalizing r with
  | zero => rfl
  | succ n ih => simp [repeatInstruction, ih]

theorem length_instructions (es : List (Template × Nat)) (r : Rotation) :
    (instructions es r).1.length = instructionCount es := by
  induction es generalizing r with
  | nil => rfl
  | cons e es ih =>
    obtain ⟨t, n⟩ := e
    simp [instructions, instructionCount, length_repeatInstruction, ih] at *

theorem length_header (p : Plan) (kernel : String) :
    (p.header kernel).length = p.config.buffers + 4 + (if p.config.captures = 0 then 0 else 1) := by
  simp only [header, List.length_append, List.length_cons, List.length_map, List.length_nil]
  have hb : p.buffers.length = p.config.buffers := by simp [buffers]
  have hc : p.captures = [] ↔ p.config.captures = 0 := by simp [captures, series]
  by_cases h : p.config.captures = 0
  · simp [hc.mpr h, h, hb]; omega
  · have : p.captures ≠ [] := fun e => h (hc.mp e)
    simp [this, h, hb]; omega

/-- A kernel's block has a line per buffer, eight more, one for the captures if there are
any, two per loop nest, and one per instruction. -/
theorem length_block (p : Plan) (kernel : String) (r : Rotation) :
    (p.block kernel r).1.length =
      p.config.buffers + 8 + (if p.config.captures = 0 then 0 else 1) +
        2 * p.config.loopNests + instructionCount p.entries := by
  simp only [block, List.length_append, length_header, length_loopHeads, length_instructions,
    footer, List.length_replicate, List.length_cons, List.length_nil]
  omega

end Plan
end KernelSynth
