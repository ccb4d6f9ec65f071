/-
# Delivering the artifacts

A run validates the options, then the destination, then resolves the plan,
and generates. It either writes the declarations artifact and then the
kernels artifact to their paths (the directory is made on the way, which
an in-memory volume needs no step for), or previews both on standard
output, each after a comment line with its file name.

Key definitions: `Delivery`, `Plan.deliver`, `Delivery.run`.
-/
import KernelSynth.Artifact.Destination
import KernelSynth.Kernel.Synthesis
import KernelSynth.Volume

namespace KernelSynth

/-- What a run produced: text for standard output, and the files it wrote, in order, each
with the text it holds at the end. -/
structure Delivery where
  stdout : String
  writes : List (String × String)
  deriving Repr

/-- The preview of both artifacts: each after a comment line with its file name. -/
def previewText (d : Destination) (a : Artifacts) : String :=
  "// " ++ d.declarationsFile ++ "\n" ++ a.declarationsText ++ "\n// " ++ d.kernelsFile ++ "\n" ++
    a.kernelsText

/-- Generates both artifacts and previews them, or writes the declarations and then the
kernels; two paths that name one file both hold the kernels. -/
def Plan.deliver (p : Plan) (d : Destination) (preview : Bool) : Delivery :=
  let a := p.generate
  if preview then ⟨previewText d a, []⟩
  else ⟨"", Volume.settle [(d.declarationsPath, a.declarationsText), (d.kernelsPath, a.kernelsText)]⟩

/-- A whole run: validated options, a valid destination, a resolved plan, then delivery. -/
def Delivery.run (o : Options) (d : Destination) (preview : Bool) : Except Failure Delivery := do
  let cfg ← Config.ofOptions o
  match d.validate with
  | .error f => .error [f]
  | .ok () =>
    match Plan.ofConfig cfg with
    | .error f => .error [f]
    | .ok p => .ok (p.deliver d preview)

end KernelSynth
