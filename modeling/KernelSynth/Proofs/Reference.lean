/-
# The reference listing of a plan

What a plan generates, written out in closed form. The listing opens with one
declaration per buffer `buffer_1` to `buffer_B`, an empty line, one per
capture `capture_1` to `capture_C` and another empty line; then kernel `k`,
from one, has its submission block. A block draws its operands one after
another: first one bound per loop, then for every instruction one operand per
slot, in the order `OUT`, `IN1`, `IN2`. Draw `q` names accessor
`buffer_(q % B + 1)_acc`, since each block starts a fresh rotation. So the
`i`-th loop is bounded by draw `i`, and an instruction whose first draw is
`o` puts draw `o + n` in its `n`-th slot.

`Plan.indentedBlock` is a block as written when its instructions balance
their braces: every line at the depth its place in the block gives.

Key definitions: `Plan.refPreamble`, `Plan.refBlock`, `Plan.reference`,
`Plan.indentedBlock`, `instructionLines`, `Plan.templates`, `Plan.operandDraws`.
-/
import Mathlib
import KernelSynth.Proofs.Catalog
import KernelSynth.Proofs.Listing
import KernelSynth.Proofs.Rotation

namespace KernelSynth

/-- Draw `q` of a block over `b` buffers, as the element of its accessor at the work-item index. -/
def drawnElement (b q : Nat) : String := "buffer_" ++ toString (q % b + 1) ++ "_acc[gid]"

/-- The instruction lines of templates written in turn, the first drawing from draw `o` on:
slot `s` of a template takes the draw `o` plus the place of `s` among the template's slots, and
the next template starts after its last slot. -/
def instructionLines (b : Nat) : Nat → List Template → List String
  | _, [] => []
  | o, t :: ts =>
    t.expand (fun s => drawnElement b (o + t.slots.idxOf s)) :: instructionLines b (o + t.slots.length) ts

namespace Plan

/-- The template of every instruction, in the order they are written: each entry's template as
many times as its count. -/
def templates (es : List (Template × Nat)) : List Template := es.flatMap fun e => List.replicate e.2 e.1

/-- The operands a block draws: one per loop, and one per slot of every instruction. -/
def operandDraws (p : Plan) : Nat :=
  p.config.loopNests + (p.entries.map fun e => e.2 * e.1.slots.length).sum

/-- The range of every buffer and of the iteration: `rt_size` once per dimension. -/
def rangeText (p : Plan) : String := ",".intercalate (List.replicate p.config.dimensions "rt_size")

/-- The buffer declarations, an empty line, the capture declarations and another empty line. -/
def refPreamble (p : Plan) : List String :=
  (List.range' 1 p.config.buffers).map (fun j =>
      "s::buffer<" ++ p.config.scalar.name ++ ", " ++ toString p.config.dimensions ++ "> buffer_" ++
        toString j ++ "\x7bs::range<" ++ toString p.config.dimensions ++ ">(" ++ p.rangeText ++ ")\x7d;") ++
    [""] ++
    (List.range' 1 p.config.captures).map (fun c =>
      p.config.scalar.name ++ " capture_" ++ toString c ++ "\x7b\x7d;") ++
    [""]

/-- The line that opens a submission. -/
def submitLine : String := "device_queue.submit([&](cl::sycl::handler& cgh) \x7b"

/-- One accessor binding per buffer. -/
def bindingLines (p : Plan) : List String :=
  (List.range' 1 p.config.buffers).map fun j =>
    "auto buffer_" ++ toString j ++ "_acc = buffer_" ++ toString j ++
      ".get_access<s::access::mode::read_write>(cgh);"

/-- The iteration range. -/
def rangeLine (p : Plan) : String :=
  "cl::sycl::range<" ++ toString p.config.dimensions ++ "> ndrange\x7b" ++ p.rangeText ++ "\x7d;"

/-- The line that opens the parallel region of kernel `k`. -/
def regionLine (p : Plan) (k : Nat) : String :=
  "cgh.parallel_for<" ++ p.typeName ("kernel_" ++ toString k) ++ ">(ndrange, [=](cl::sycl::id<" ++
    toString p.config.dimensions ++ "> gid) \x7b"

/-- The sum of the captures into the first buffer, when there are captures, and the sum of all
buffers into it. -/
def sumLines (p : Plan) : List String :=
  (if p.config.captures = 0 then []
   else ["buffer_1_acc[gid] += " ++
     " + ".intercalate ((List.range' 1 p.config.captures).map ("capture_" ++ toString ·)) ++ ";"]) ++
  ["buffer_1_acc[gid] += " ++
     " + ".intercalate ((List.range' 1 p.config.buffers).map fun j =>
       "buffer_" ++ toString j ++ "_acc[gid]") ++ ";"]

/-- The header of loop `i`, bounded by draw `i`. -/
def loopLine (p : Plan) (i : Nat) : String :=
  "for(" ++ p.config.scalar.name ++ " i" ++ toString i ++ " = 0; i" ++ toString i ++ " < " ++
    drawnElement p.config.buffers i ++ "; ++i" ++ toString i ++ ") \x7b"

/-- The block of kernel `k`. -/
def refBlock (p : Plan) (k : Nat) : List String :=
  [submitLine] ++ p.bindingLines ++ [p.rangeLine, p.regionLine k] ++ p.sumLines ++
    (List.range p.config.loopNests).map p.loopLine ++
    instructionLines p.config.buffers p.config.loopNests (templates p.entries) ++
    List.replicate p.config.loopNests "\x7d" ++ ["\x7d); // parallel_for", "\x7d); // submit", "", ""]

/-- The whole listing: the preamble, then the blocks of kernels `1` to `K`. -/
def reference (p : Plan) : List String :=
  p.refPreamble ++ (List.range' 1 p.config.kernels).flatMap p.refBlock

/-- The block of kernel `k` as written when every instruction balances its braces: the
submission at depth 0, bindings, range and region at 1, the sums at 2, loop `i` at `2 + i`, the
instructions at `2 + L`, the `j`-th closing brace at `2 + L - 1 - j`, then the region's close at 1
and the submission's at 0. -/
def indentedBlock (p : Plan) (k : Nat) : List String :=
  let w := Listing.render Listing.defaultIndent
  let l := p.config.loopNests
  [w 0 submitLine] ++ p.bindingLines.map (w 1) ++ [w 1 p.rangeLine, w 1 (p.regionLine k)] ++
    p.sumLines.map (w 2) ++ (List.range l).map (fun i => w (2 + i) (p.loopLine i)) ++
    (instructionLines p.config.buffers l (templates p.entries)).map (w (2 + l)) ++
    (List.range l).map (fun j => w (2 + l - 1 - j) "\x7d") ++
    [w 1 "\x7d); // parallel_for", w 0 "\x7d); // submit", "", ""]

end Plan
end KernelSynth
