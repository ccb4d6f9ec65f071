/-
# Synthesizing kernels into a listing

`Plan.synthesize` writes one kernel's block into a listing, drawing from a
given rotation, and reports the kernel's shape: the lines the block took,
the draws it made and the hits per buffer it added. `Plan.generate` writes
the preamble and then every kernel's block, each with a fresh rotation, and
returns both artifacts, the declarations and the kernels, with the shapes.

Key definitions: `Plan.freshRotation`, `Plan.synthesize`, `Artifacts`,
`Plan.generate`, `Artifacts.declarationsText`, `Artifacts.kernelsText`.
Key theorems: `Plan.lines_synthesize`.
-/
import KernelSynth.Kernel.Source
import KernelSynth.Kernel.Shape
import KernelSynth.Listing

namespace KernelSynth
namespace Plan

/-- A rotation over the plan's accessors from the first. -/
def freshRotation (p : Plan) : Rotation := Rotation.start p.accessors p.accessors_ne_nil

/-- The hits added between two counts of hits, buffer by buffer. -/
def hitsAdded (before after : List Nat) : List Int :=
  List.zipWith (fun (a b : Nat) => (a : Int) - b) after before

/-- Writes a kernel's block drawing from `r`: the listing after it, the rotation after it,
and the kernel's shape. -/
def synthesize (p : Plan) (l : Listing) (kernel : String) (r : Rotation) :
    Listing × Rotation × Shape :=
  let (lines, r') := p.block kernel r
  (l.writeAll lines, r',
    { name := kernel
      lines := lines.length
      loopNests := p.config.loopNests
      instructions := instructionCount p.entries
      operandRefs := (r'.calls : Int) - r.calls
      bufferRefs := hitsAdded r.hits r'.hits })

/-- Writes the blocks of the kernels in turn, each with a fresh rotation. -/
def synthesizeAll (p : Plan) : Listing → List String → Listing × List Shape
  | l, [] => (l, [])
  | l, k :: ks =>
    let (l', _, s) := p.synthesize l k p.freshRotation
    let (l'', shapes) := p.synthesizeAll l' ks
    (l'', s :: shapes)

theorem lines_synthesize (p : Plan) (l : Listing) (kernel : String) (r : Rotation) :
    (p.synthesize l kernel r).1 = l.writeAll (p.block kernel r).1 := rfl

end Plan

/-- The two generated outputs, as lines, and the kernels' shapes. -/
structure Artifacts where
  declarations : List String
  kernels : List String
  shapes : List Shape

/-- Lines as file content: each followed by a line feed. -/
def linesText (lines : List String) : String := String.join (lines.map (· ++ "\n"))

/-- The declarations artifact as file content. -/
def Artifacts.declarationsText (a : Artifacts) : String := linesText a.declarations

/-- The kernels artifact as file content. -/
def Artifacts.kernelsText (a : Artifacts) : String := linesText a.kernels

namespace Plan

/-- Both artifacts: the declarations, and the preamble followed by every kernel's block. -/
def generate (p : Plan) : Artifacts :=
  let (l, shapes) := p.synthesizeAll ((Listing.empty Listing.defaultIndent).writeAll p.preamble) p.kernels
  ⟨p.declarations, l.lines.toList, shapes⟩

end Plan
end KernelSynth
