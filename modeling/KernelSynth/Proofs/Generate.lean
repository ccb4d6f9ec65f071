/-
# What a plan generates

`Plan.generate` writes the preamble and then one block per kernel, each from
a fresh rotation, into one listing. So the kernels artifact is the listing's
rendering of the preamble and the blocks in turn (`kernels_generate`), which
by `block_eq` is the rendering of the reference listing. Every block is as
long as every other and draws as many operands, so all kernels have one
shape but for the name: `B + 8` lines, one more with captures, two per loop
and one per instruction; `L` draws for the loops and one per slot of each
instruction; and the draws spread over the buffers as evenly as they can.

Key theorems: `Plan.synthesizeAll_fst`, `Plan.kernels_generate`,
`Plan.kernels_generate_eq_reference`, `Plan.shape_synthesize`,
`Plan.generate_kernels_reference`, `Plan.generate_shapes`.
-/
import Mathlib
import KernelSynth.Proofs.Block
import KernelSynth.Proofs.Validation

namespace KernelSynth
namespace Plan

open Rotation

/-- Writing the kernels' blocks in turn writes the lines of all of them. -/
theorem synthesizeAll_fst (p : Plan) : ∀ (l : Listing) (ks : List String),
    (p.synthesizeAll l ks).1 = l.writeAll (ks.flatMap fun k => (p.block k p.freshRotation).1)
  | _, [] => rfl
  | l, k :: ks => by
    simp only [synthesizeAll, synthesize, synthesizeAll_fst _ _ ks, List.flatMap_cons,
      Listing.writeAll_append]

/-- The kernels artifact is the preamble and the blocks, rendered from depth zero. -/
theorem kernels_generate (p : Plan) :
    p.generate.kernels = Listing.rendered Listing.defaultIndent 0
      (p.preamble ++ p.kernels.flatMap fun k => (p.block k p.freshRotation).1) := by
  simp only [generate, synthesizeAll_fst, ← Listing.writeAll_append, Listing.lines_writeAll]
  rfl

/-- Every block of a plan with well-formed templates is its reference block. -/
theorem flatMap_blocks (p : Plan) (hwf : ∀ e ∈ p.entries, e.1.WellFormed) (ks : List Nat) :
    (ks.map ("kernel_" ++ toString ·)).flatMap (fun k => (p.block k p.freshRotation).1) =
      ks.flatMap p.refBlock := by
  rw [List.flatMap_map]
  congr 1
  funext k
  simp only [block_eq p hwf]

theorem kernels_generate_eq_reference (p : Plan) (hwf : ∀ e ∈ p.entries, e.1.WellFormed) :
    p.generate.kernels = Listing.rendered Listing.defaultIndent 0 p.reference := by
  rw [kernels_generate, preamble_eq, kernels_eq, flatMap_blocks p hwf, reference]

/-- What a plan of validated options holds: its configuration, and each mix entry's catalog
template with its count, all well formed. -/
theorem plan_ofOptions {o : Options} {cfg : Config} {p : Plan}
    (ho : Config.ofOptions o = .ok cfg) (hp : ofConfig cfg = .ok p) :
    p.config = cfg ∧
      List.Forall₂ (fun e te => cfg.catalog.lookup? e.opcode = some te.1 ∧ te.2 = e.count.toNat)
        cfg.mix p.entries ∧
      ∀ e ∈ p.entries, e.1.WellFormed := by
  obtain ⟨hc, hr⟩ := entries_ofConfig hp
  exact ⟨hc, forall₂_resolve hr, wellFormed_entries (Config.wellFormed_catalog ho) hp⟩

/-- **The kernels artifact is the reference listing.** For validated options, line for line,
the kernels artifact is the reference listing as the listing renders it: the buffer and
capture declarations, then the block of each kernel with its loop bounds and operands drawn
in turn from a fresh rotation, every line indented by its depth and empty lines left empty. -/
theorem generate_kernels_reference {o : Options} {cfg : Config} {p : Plan}
    (ho : Config.ofOptions o = .ok cfg) (hp : ofConfig cfg = .ok p) :
    p.config = cfg ∧
      List.Forall₂ (fun e te => cfg.catalog.lookup? e.opcode = some te.1 ∧ te.2 = e.count.toNat)
        cfg.mix p.entries ∧
      p.generate.kernels = Listing.rendered Listing.defaultIndent 0 p.reference := by
  obtain ⟨hc, hes, hwf⟩ := plan_ofOptions ho hp
  exact ⟨hc, hes, kernels_generate_eq_reference p hwf⟩

/-- The default options validate and plan, and their kernels are the reference listing. -/
theorem generate_kernels_reference_default :
    ∃ cfg p, Config.ofOptions Options.default = .ok cfg ∧ ofConfig cfg = .ok p ∧
      p.generate.kernels = Listing.rendered Listing.defaultIndent 0 p.reference :=
  ⟨_, _, rfl, rfl, (@generate_kernels_reference Options.default _ _ rfl rfl).2.2⟩

/-! ### Shapes -/

/-- A shape is reported from the block's lines and the rotation's counts alone, whatever the
listing it is written to. -/
theorem synthesizeAll_snd (p : Plan) : ∀ (l : Listing) (ks : List String),
    (p.synthesizeAll l ks).2 = ks.map fun k => (p.synthesize l k p.freshRotation).2.2
  | _, [] => rfl
  | l, k :: ks => by
    simp only [synthesizeAll, synthesizeAll_snd _ _ ks, List.map_cons]
    rfl

/-- The hits a block adds to a fresh rotation: `R / B` for every buffer and one more for the
first `R % B`. -/
theorem hitsAdded_fresh (p : Plan) (n : Nat) :
    hitsAdded p.freshRotation.hits (advance^[n] p.freshRotation).hits =
      (List.range p.config.buffers).map fun j =>
        ((n / p.config.buffers + if j < n % p.config.buffers then 1 else 0 : Nat) : Int) := by
  have hlen := length_accessors p
  rw [freshRotation, hits_iterate_start, hits_start, hlen]
  apply List.ext_getElem (by simp [hitsAdded])
  intro j h1 h2
  simp [hitsAdded]

/-- The shape of kernel `k`: the reference block's lines, `L` loop nests, the entries'
instructions, `operandDraws` operands, spread evenly over the buffers. -/
theorem shape_synthesize (p : Plan) (hwf : ∀ e ∈ p.entries, e.1.WellFormed) (l : Listing) (k : Nat) :
    (p.synthesize l ("kernel_" ++ toString k) p.freshRotation).2.2 =
      { name := "kernel_" ++ toString k
        lines := (p.refBlock k).length
        loopNests := p.config.loopNests
        instructions := instructionCount p.entries
        operandRefs := p.operandDraws
        bufferRefs := (List.range p.config.buffers).map fun j =>
          ((p.operandDraws / p.config.buffers + if j < p.operandDraws % p.config.buffers then 1 else 0 : Nat) :
            Int) } := by
  simp only [synthesize, block_eq p hwf, calls_iterate, hitsAdded_fresh]
  simp [freshRotation]

/-- Every block is as long as every other. -/
theorem length_flatMap_blocks (p : Plan) (ks : List String) :
    (ks.flatMap fun k => (p.block k p.freshRotation).1).length =
      ks.length * (p.config.buffers + 8 + (if p.config.captures = 0 then 0 else 1) +
        2 * p.config.loopNests + instructionCount p.entries) := by
  induction ks with
  | nil => simp
  | cons k ks ih => simp [List.flatMap_cons, length_block, ih, Nat.succ_mul, Nat.add_comm]

/-- The preamble has a line per buffer and per capture, and two empty lines. -/
theorem length_preamble (p : Plan) : p.preamble.length = p.config.buffers + p.config.captures + 2 := by
  simp [preamble_eq, refPreamble]
  omega

/-- The instructions of entries resolved from a mix with no negative count are the mix's
counts added up. -/
theorem instructionCount_eq {c : Catalog} {m : Mix} {es : List (Template × Nat)}
    (h : List.Forall₂ (fun e te => c.lookup? e.opcode = some te.1 ∧ te.2 = e.count.toNat) m es)
    (hnn : ∀ e ∈ m, 0 ≤ e.count) : (instructionCount es : Int) = (m.map (·.count)).sum := by
  induction h with
  | nil => rfl
  | @cons e te m es hte _ ih =>
    have he : 0 ≤ e.count := hnn e (by simp)
    have hrest := ih fun e' he' => hnn e' (by simp [he'])
    simp only [instructionCount, Nat.cast_add, hrest, hte.2, List.map_cons, List.sum_cons]
    omega

/-- The draws of a block spread over the buffers add up to the draws. -/
theorem sum_spread (p : Plan) (n : Nat) :
    ((List.range p.config.buffers).map fun j =>
      ((n / p.config.buffers + if j < n % p.config.buffers then 1 else 0 : Nat) : Int)).sum = n := by
  have h := sum_hits_iterate p.freshRotation n
  rw [freshRotation, hits_iterate_start, hits_start, length_accessors] at h
  simp only [List.sum_replicate, smul_zero, Nat.zero_add] at h
  conv_rhs => rw [← h]
  rw [Nat.cast_list_sum, List.map_map]
  rfl

/-- The shapes of the kernels, in order, for a plan with well-formed templates. -/
theorem shapes_generate (p : Plan) (hwf : ∀ e ∈ p.entries, e.1.WellFormed) :
    p.generate.shapes = (List.range' 1 p.config.kernels).map fun k =>
      { name := "kernel_" ++ toString k
        lines := (p.refBlock k).length
        loopNests := p.config.loopNests
        instructions := instructionCount p.entries
        operandRefs := p.operandDraws
        bufferRefs := (List.range p.config.buffers).map fun j =>
          ((p.operandDraws / p.config.buffers + if j < p.operandDraws % p.config.buffers then 1 else 0 : Nat) :
            Int) } := by
  simp only [generate, synthesizeAll_snd, kernels_eq, List.map_map]
  apply List.map_congr_left
  intro k _
  exact shape_synthesize p hwf _ k

/-- **Every kernel has one shape.** For validated options there is one shape per kernel, in
order. Kernel `k` has `B + 8` lines, one more with captures, two per loop nest and one per
instruction, and the listing grows by that many lines with each block; it draws `R` operands,
one per loop and one per slot of each instruction, `R / B` of them on every buffer and one more
on the first `R % B`. So the hits add up to the draws and differ by at most one, and the shapes
differ only in their names. -/
theorem generate_shapes {o : Options} {cfg : Config} {p : Plan}
    (ho : Config.ofOptions o = .ok cfg) (hp : ofConfig cfg = .ok p) :
    let I : Int := (cfg.mix.map (·.count)).sum
    let R : Nat := cfg.loopNests + (p.entries.map fun e => e.2 * e.1.slots.length).sum
    let n : Int := cfg.buffers + 8 + (if cfg.captures = 0 then 0 else 1) + 2 * cfg.loopNests + I
    p.generate.shapes.length = cfg.kernels ∧
      (∀ k < cfg.kernels, p.generate.shapes[k]? = some
        { name := "kernel_" ++ toString (k + 1), lines := n, loopNests := cfg.loopNests,
          instructions := I, operandRefs := R,
          bufferRefs := (List.range cfg.buffers).map fun j =>
            ((R / cfg.buffers + if j < R % cfg.buffers then 1 else 0 : Nat) : Int) }) ∧
      (∀ k ≤ cfg.kernels,
        ((p.synthesizeAll ((Listing.empty Listing.defaultIndent).writeAll p.preamble)
          (p.kernels.take k)).1.lines.size : Int) = cfg.buffers + cfg.captures + 2 + k * n) ∧
      (p.generate.kernels.length : Int) = cfg.buffers + cfg.captures + 2 + cfg.kernels * n ∧
      (∀ s ∈ p.generate.shapes, s.bufferRefs.sum = s.operandRefs) ∧
      (∀ s ∈ p.generate.shapes, ∀ s' ∈ p.generate.shapes,
        { s with name := "" } = { s' with name := "" }) ∧
      (∀ s ∈ p.generate.shapes, ∀ x ∈ s.bufferRefs, ∀ y ∈ s.bufferRefs, x ≤ y + 1) := by
  intro I R n
  obtain ⟨rfl, hes, hwf⟩ := plan_ofOptions ho hp
  have hnn : ∀ e ∈ p.config.mix, 0 ≤ e.count := fun e he => (Config.mix_ofOptions ho e he).1
  have hI : (instructionCount p.entries : Int) = I := instructionCount_eq hes hnn
  -- every block, and so every kernel's count of lines, has the same length `n`
  have hblock : ∀ k, ((p.refBlock k).length : Int) = n := by
    intro k
    have hl := congrArg (fun b => b.1.length) (block_eq p hwf k)
    simp only [length_block] at hl
    rw [← hl]
    push_cast
    rw [hI]
  have hshapes := shapes_generate p hwf
  have hsize : ∀ ks : List String,
      ((p.synthesizeAll ((Listing.empty Listing.defaultIndent).writeAll p.preamble) ks).1.lines.size : Int) =
        p.config.buffers + p.config.captures + 2 + ks.length * n := by
    intro ks
    rw [synthesizeAll_fst, Listing.size_writeAll, Listing.size_writeAll, length_flatMap_blocks,
      length_preamble]
    push_cast
    rw [hI]
    simp [Listing.empty, n]
  refine ⟨?_, ?_, ?_, ?_, ?_, ?_, ?_⟩
  · simp [hshapes]
  · intro k hk
    rw [hshapes, List.getElem?_map, List.getElem?_range' hk]
    simp only [Option.map_some, hblock, hI, Nat.one_mul, Nat.add_comm 1 k]
    rfl
  · intro k hk
    rw [hsize, List.length_take, kernels_eq, List.length_map, List.length_range', Nat.min_eq_left hk]
  · have hlen : p.generate.kernels.length =
        (p.synthesizeAll ((Listing.empty Listing.defaultIndent).writeAll p.preamble) p.kernels).1.lines.size :=
      Array.length_toList
    rw [hlen, hsize, kernels_eq, List.length_map, List.length_range']
  · intro s hs
    rw [hshapes] at hs
    obtain ⟨k, -, rfl⟩ := List.mem_map.mp hs
    exact sum_spread p _
  · intro s hs s' hs'
    rw [hshapes] at hs hs'
    obtain ⟨k, -, rfl⟩ := List.mem_map.mp hs
    obtain ⟨k', -, rfl⟩ := List.mem_map.mp hs'
    simp only [hblock]
  · intro s hs x hx y hy
    rw [hshapes] at hs
    obtain ⟨k, -, rfl⟩ := List.mem_map.mp hs
    obtain ⟨i, -, rfl⟩ := List.mem_map.mp hx
    obtain ⟨j, -, rfl⟩ := List.mem_map.mp hy
    split <;> split <;> omega

/-- The default options validate and plan, with one shape per kernel. -/
theorem generate_shapes_default :
    ∃ cfg p, Config.ofOptions Options.default = .ok cfg ∧ ofConfig cfg = .ok p ∧
      p.generate.shapes.length = cfg.kernels :=
  ⟨_, _, rfl, rfl, (@generate_shapes Options.default _ _ rfl rfl).1⟩

end Plan
end KernelSynth
