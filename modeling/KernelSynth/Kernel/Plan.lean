/-
# Generation plans

A `Plan` is a validated configuration resolved for synthesis: every mix
entry paired with its operation template, and the names of the kernels,
buffers and captures to declare. Resolving fails only on an opcode the
configuration's catalog lacks, which validation already rules out.

Key definitions: `Plan`, `Plan.ofConfig`, `Plan.accessors`, `Plan.ndrange`.
Key theorems: `Plan.accessors_ne_nil`, `Plan.length_accessors`.
-/
import KernelSynth.Config
import KernelSynth.Names

namespace KernelSynth

/-- A configuration with each mix entry resolved to its template and count. -/
structure Plan where
  config : Config
  entries : List (Template × Nat)

namespace Plan

/-- Resolves the mix entries against a catalog, stopping at the first unknown opcode. -/
def resolve (c : Catalog) : Mix → Except Fault (List (Template × Nat))
  | [] => .ok []
  | e :: es =>
    match c.lookup? e.opcode with
    | none => .error (.unresolvedEntry e.render e.opcode)
    | some t => (resolve c es).map fun rest => (t, e.count.toNat) :: rest

/-- The plan of a configuration. -/
def ofConfig (cfg : Config) : Except Fault Plan :=
  (resolve cfg.catalog cfg.mix).map fun entries => ⟨cfg, entries⟩

/-- The kernels' names. -/
def kernels (p : Plan) : List String := series kernelPrefix p.config.kernels

/-- The buffers, with their accessors. -/
def buffers (p : Plan) : List Buffer := KernelSynth.buffers p.config.buffers

/-- The captures' names. -/
def captures (p : Plan) : List String := series capturePrefix p.config.captures

/-- The buffers' accessors, in order. -/
def accessors (p : Plan) : List String := p.buffers.map (·.accessor)

/-- The host-side size that bounds every range. -/
def runtimeSize : String := "rt_size"

/-- The work-item index inside a kernel body. -/
def globalId : String := "gid"

/-- The range of a buffer or kernel: the runtime size once per dimension. -/
def ndrange (p : Plan) : String := ",".intercalate (List.replicate p.config.dimensions runtimeSize)

/-- The element of an accessor at the work-item index. -/
def elementRef (accessor : String) : String := accessor ++ "[" ++ globalId ++ "]"

theorem length_accessors (p : Plan) : p.accessors.length = p.config.buffers := by
  simp [accessors, buffers]

theorem accessors_ne_nil (p : Plan) : p.accessors ≠ [] := by
  intro h
  have := congrArg List.length h
  rw [length_accessors] at this
  have := p.config.buffers_pos
  simp_all

end Plan
end KernelSynth
