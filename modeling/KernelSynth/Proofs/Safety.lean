/-
# Synthesis from validated options cannot fail

Synthesis leans on two facts that validation establishes far from it: every
opcode of the mix is one the catalog holds, and there is at least one
buffer. So the plan of a validated configuration always resolves, its
accessors are the `B ≥ 1` buffers' ones, and a rotation over them can always
be started. A kernel's block, drawn from any rotation, leaves that rotation
exactly `Plan.operandDraws` draws further on (`block_rotation`): over the same
accessors, at a position in range, and with one count of hits per buffer
before and after, so the hits a block adds pair up buffer by buffer.

Key theorems: `Plan.exists_resolve`, `Plan.block_rotation`, `Plan.length_hitsAdded`,
`Plan.synthesis_safe`.
-/
import Mathlib
import KernelSynth.Proofs.Generate

namespace KernelSynth
namespace Plan

open Rotation

/-! ### Resolving the mix -/

/-- A mix whose opcodes the catalog all holds resolves. -/
theorem exists_resolve (c : Catalog) :
    ∀ m : Mix, (∀ e ∈ m, ∃ t, c.lookup? e.opcode = some t) → ∃ es, resolve c m = .ok es
  | [], _ => ⟨[], rfl⟩
  | e :: m, h => by
    obtain ⟨t, ht⟩ := h e (List.mem_cons_self ..)
    obtain ⟨es, hes⟩ := exists_resolve c m fun e' he' => h e' (List.mem_cons_of_mem _ he')
    exact ⟨(t, e.count.toNat) :: es, by simp [resolve, ht, hes, Except.map]⟩

/-- The plan of validated options resolves, over the configuration validated. -/
theorem exists_ofConfig {o : Options} {cfg : Config} (ho : Config.ofOptions o = .ok cfg) :
    ∃ p, ofConfig cfg = .ok p ∧ p.config = cfg := by
  obtain ⟨es, hes⟩ :=
    exists_resolve cfg.catalog cfg.mix fun e he => (Config.mix_ofOptions ho e he).2
  exact ⟨⟨cfg, es⟩, by simp [ofConfig, hes, Except.map], rfl⟩

/-! ### The draws of a block, from any rotation -/

theorem loopHeads_rotation (p : Plan) (i n : Nat) (r : Rotation) :
    (p.loopHeads i n r).2 = advance^[n] r := by
  induction n generalizing i r with
  | zero => rfl
  | succ n ih =>
    simp only [loopHeads, ih]
    exact (Function.iterate_succ_apply advance n r).symm

theorem instruction_rotation (t : Template) (r : Rotation) :
    (instruction t r).2 = advance^[t.slots.length] r := by
  simp only [instruction, drawMany_eq]

theorem repeatInstruction_rotation (t : Template) (n : Nat) (r : Rotation) :
    (repeatInstruction t n r).2 = advance^[n * t.slots.length] r := by
  induction n generalizing r with
  | zero => simp [repeatInstruction]
  | succ n ih =>
    simp only [repeatInstruction, ih, instruction_rotation, ← Function.iterate_add_apply]
    rw [Nat.succ_mul, Nat.add_comm]

theorem instructions_rotation :
    ∀ (es : List (Template × Nat)) (r : Rotation),
      (instructions es r).2 = advance^[(es.map fun e => e.2 * e.1.slots.length).sum] r
  | [], _ => rfl
  | (t, n) :: es, r => by
    simp only [instructions, instructions_rotation es, repeatInstruction_rotation,
      ← Function.iterate_add_apply, List.map_cons, List.sum_cons, Nat.add_comm]

/-- Whatever rotation a block draws from, it leaves it `operandDraws` draws further on: one
per loop and one per slot of every instruction. -/
theorem block_rotation (p : Plan) (kernel : String) (r : Rotation) :
    (p.block kernel r).2 = advance^[p.operandDraws] r := by
  simp only [block, instructions_rotation, loopHeads_rotation, ← Function.iterate_add_apply,
    operandDraws, Nat.add_comm]

/-- The hits added by a run of draws pair up with the hits before it: one per accessor. -/
theorem length_hitsAdded (r : Rotation) (n : Nat) :
    (hitsAdded r.hits (advance^[n] r).hits).length = r.accessors.length := by
  simp [hitsAdded, (advance^[n] r).hits_length, r.hits_length]

/-- **Synthesis from validated options cannot fail.** The plan of validated options resolves
every mix entry, and its accessors are the `B ≥ 1` buffers' ones, so a rotation over them
starts. A kernel's block drawn from any rotation over them leaves it `R` draws further on,
over the same accessors and at a position below `B`, and the hits the block adds have one
entry per buffer; in particular so do the shapes of every generated kernel. -/
theorem synthesis_safe {o : Options} {cfg : Config} (ho : Config.ofOptions o = .ok cfg) :
    ∃ p, ofConfig cfg = .ok p ∧ p.config = cfg ∧
      p.accessors.length = cfg.buffers ∧ 1 ≤ cfg.buffers ∧
      Rotation.start? p.accessors = some p.freshRotation ∧
      (∀ r : Rotation, r.accessors = p.accessors → ∀ kernel : String,
        (p.block kernel r).2 = advance^[p.operandDraws] r ∧
        (p.block kernel r).2.accessors = p.accessors ∧
        (p.block kernel r).2.index < cfg.buffers ∧
        (hitsAdded r.hits (p.block kernel r).2.hits).length = cfg.buffers) ∧
      ∀ s ∈ p.generate.shapes, s.bufferRefs.length = cfg.buffers := by
  obtain ⟨p, hp, rfl⟩ := exists_ofConfig ho
  have hlen := length_accessors p
  refine ⟨p, hp, rfl, hlen, p.config.buffers_pos, ?_, ?_, ?_⟩
  · simp [Rotation.start?, freshRotation, p.accessors_ne_nil]
  · intro r hr kernel
    have hidx := (advance^[p.operandDraws] r).index_lt
    rw [accessors_iterate, hr, hlen] at hidx
    refine ⟨block_rotation p kernel r, ?_, ?_, ?_⟩
    · rw [block_rotation, accessors_iterate, hr]
    · rw [block_rotation]
      exact hidx
    · rw [block_rotation, length_hitsAdded, hr, hlen]
  · intro s hs
    simp only [generate, synthesizeAll_snd, List.mem_map] at hs
    obtain ⟨k, -, rfl⟩ := hs
    simp only [synthesize, block_rotation, length_hitsAdded]
    simp [freshRotation, hlen]

/-- The default options plan, and their kernels' shapes have one count of hits per buffer. -/
theorem synthesis_safe_default :
    ∃ cfg, Config.ofOptions Options.default = .ok cfg ∧
      ∃ p, ofConfig cfg = .ok p ∧ ∀ s ∈ p.generate.shapes, s.bufferRefs.length = cfg.buffers :=
  ⟨_, rfl, (@synthesis_safe Options.default _ rfl).imp fun _ h => ⟨h.1, h.2.2.2.2.2.2⟩⟩

end Plan
end KernelSynth
