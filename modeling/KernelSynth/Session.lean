/-
# Sessions over one listing and one shared rotation

A `Session` drives synthesis by hand: one listing and one rotation over the
plan's accessors, shared by the commands that draw from it. Each command
may write lines, draw accessors, or both:

* `preamble` writes the buffer and capture declarations;
* `kernel` writes a kernel's block with a fresh rotation, leaving the shared
  one as it is; `kernelShared` writes it drawing from the shared rotation;
  both report the kernel's shape, counting only the draws of that block;
* `next` draws one accessor;
* `expand` writes one instruction of a catalog operation, drawing its
  operands; an opcode the catalog lacks writes nothing and reports the fault;
* `write` and `blank` write a line;
* `declaration` writes nothing and reports a kernel's declaration and type
  name.

After each command a `Step` records the lines it added, the depth, and the
shared rotation's position, draws and hits.

Key definitions: `Command`, `Step`, `Session`, `Session.start`, `Session.run`,
`Session.runAll`.
Key theorems: `Session.length_runAll`.
-/
import KernelSynth.Kernel.Synthesis

namespace KernelSynth

/-- A command of a session. -/
inductive Command where
  | preamble
  | kernel (name : String)
  | kernelShared (name : String)
  | next
  | expand (opcode : String)
  | write (line : String)
  | blank
  | declaration (name : String)
  deriving Repr

/-- What a command reports beyond the state after it. -/
inductive Outcome where
  | plain
  | shape (shape : Shape)
  | accessor (name : String)
  | lookupFault (fault : Fault)
  | declaration (text typeName : String)

/-- The lines a command added, the listing's depth and the shared rotation after it, and what
it reports. -/
structure Step where
  lines : List String
  depth : Nat
  index : Nat
  calls : Nat
  hits : List Nat
  outcome : Outcome

/-- A plan with one listing and one shared rotation. -/
structure Session where
  plan : Plan
  listing : Listing
  rotation : Rotation

namespace Session

/-- A session with nothing written and a fresh shared rotation. -/
def start (p : Plan) : Session := ⟨p, Listing.empty Listing.defaultIndent, p.freshRotation⟩

/-- Carries out a command: the session after it, and its outcome. -/
def perform (s : Session) : Command → Session × Outcome
  | .preamble => ({ s with listing := s.listing.writeAll s.plan.preamble }, .plain)
  | .kernel name =>
    let (l, _, shape) := s.plan.synthesize s.listing name s.plan.freshRotation
    ({ s with listing := l }, .shape shape)
  | .kernelShared name =>
    let (l, r, shape) := s.plan.synthesize s.listing name s.rotation
    ({ s with listing := l, rotation := r }, .shape shape)
  | .next =>
    let (a, r) := s.rotation.next
    ({ s with rotation := r }, .accessor a)
  | .expand opcode =>
    match s.plan.config.catalog.lookup opcode with
    | .ok t =>
      let (line, r) := Plan.instruction t s.rotation
      ({ s with listing := s.listing.write line, rotation := r }, .plain)
    | .error f => (s, .lookupFault f)
  | .write line => ({ s with listing := s.listing.write line }, .plain)
  | .blank => ({ s with listing := s.listing.blank }, .plain)
  | .declaration name => (s, .declaration (s.plan.declaration name) (s.plan.typeName name))

/-- Carries out a command and records its step. -/
def run (s : Session) (c : Command) : Session × Step :=
  let (s', outcome) := s.perform c
  let added := (s'.listing.lines.extract s.listing.lines.size s'.listing.lines.size).toList
  (s', ⟨added, s'.listing.depth, s'.rotation.index, s'.rotation.calls, s'.rotation.hits, outcome⟩)

/-- Carries out commands in order and records a step for each. -/
def runAll (s : Session) : List Command → List Step
  | [] => []
  | c :: cs =>
    let (s', step) := s.run c
    step :: s'.runAll cs

theorem length_runAll (s : Session) (cs : List Command) : (s.runAll cs).length = cs.length := by
  induction cs generalizing s with
  | nil => rfl
  | cons c cs ih => simp [runAll, ih]

end Session
end KernelSynth
