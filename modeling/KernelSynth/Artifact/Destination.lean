/-
# Where the artifacts go

A `Destination` names a directory and the two artifact files in it: the
declarations and the kernels, by default `kernel_declarations.inc` and
`kernels.inc` in the working directory. It is valid when both file names
are non-empty and the two joined paths differ.

Key definitions: `Destination`, `Destination.declarationsPath`,
`Destination.kernelsPath`, `Destination.validate`.
Key theorems: `Destination.validate_eq_ok_iff`.
-/
import KernelSynth.Artifact.Path
import KernelSynth.Fault

namespace KernelSynth

/-- The directory and the file names of the two artifacts. -/
structure Destination where
  dir : String
  declarationsFile : String
  kernelsFile : String
  deriving DecidableEq, Repr

namespace Destination

/-- Both artifacts in the working directory, under their usual names. -/
def default : Destination := ⟨".", "kernel_declarations.inc", "kernels.inc"⟩

/-- The path of the declarations artifact. -/
def declarationsPath (d : Destination) : String := Path.join d.dir d.declarationsFile

/-- The path of the kernels artifact. -/
def kernelsPath (d : Destination) : String := Path.join d.dir d.kernelsFile

/-- Refuses an empty file name, then two artifacts at one path. -/
def validate (d : Destination) : Except Fault Unit :=
  if d.declarationsFile = "" ∨ d.kernelsFile = "" then .error .emptyArtifactName
  else if d.declarationsPath = d.kernelsPath then .error (.sharedArtifactPath d.kernelsPath)
  else .ok ()

theorem validate_eq_ok_iff (d : Destination) :
    d.validate = .ok () ↔
      d.declarationsFile ≠ "" ∧ d.kernelsFile ≠ "" ∧ d.declarationsPath ≠ d.kernelsPath := by
  unfold validate
  by_cases h1 : d.declarationsFile = "" ∨ d.kernelsFile = ""
  · simp only [h1, ↓reduceIte]
    constructor
    · intro e; cases e
    · intro ⟨a, b, _⟩; rcases h1 with h | h <;> contradiction
  · simp only [h1, ↓reduceIte]
    rw [not_or] at h1
    by_cases h2 : d.declarationsPath = d.kernelsPath
    · simp only [h2, ↓reduceIte]
      constructor
      · intro e; cases e
      · intro ⟨_, _, h⟩; exact absurd rfl h
    · simp [h2, h1.1, h1.2]

end Destination
end KernelSynth
