/-
# The blocks a plan writes

`Plan.block` writes a kernel's block by threading one rotation through its
loop headers and instructions; here that block is shown to be the closed
form `Plan.refBlock`. Started from a fresh rotation, the rotation after `q`
draws stands at `q % B`, so whatever part of the block is written from it
draws exactly as the reference numbers the draws: the loop headers from
draw `0`, the instructions from draw `L` on, each after the slots of the
ones before it (`instructions_eq`). The rotation a block leaves is the fresh
one after all `Plan.operandDraws` draws.

Key theorems: `Plan.current_fresh`, `Plan.header_eq`, `Plan.loopHeads_eq`,
`Plan.instruction_eq`, `Plan.instructions_eq`, `Plan.block_eq`, `Plan.preamble_eq`.
-/
import Mathlib
import KernelSynth.Proofs.Reference

namespace KernelSynth

open Rotation

/-- A pair found by its first component in a zip is the one at that component's first place. -/
theorem find?_zip_eq {α β : Type} [DecidableEq α] :
    ∀ (l : List α) (vs : List β) (s : α), s ∈ l → l.length ≤ vs.length →
      ((l.zip vs).find? (·.1 = s)).map (·.2) = vs[l.idxOf s]?
  | [], _, _, h, _ => by simp at h
  | _ :: _, [], _, _, h => by simp at h
  | a :: l, v :: vs, s, h, hl => by
    by_cases ha : a = s
    · subst ha
      simp
    · have hs : s ∈ l := by simpa [Ne.symm ha] using h
      have ih := find?_zip_eq l vs s hs (by simpa using hl)
      simpa [List.find?_cons, ha, List.idxOf_cons] using ih

namespace Plan

/-! ### Names -/

theorem series_eq (pre : String) (n : Nat) :
    series pre n = (List.range' 1 n).map fun j => pre ++ "_" ++ toString j := by
  simp [series, numbered, List.range'_eq_map_range, Nat.add_comm]

theorem kernels_eq (p : Plan) : p.kernels = (List.range' 1 p.config.kernels).map ("kernel_" ++ toString ·) := by
  simp [kernels, series_eq, kernelPrefix]

theorem captures_eq (p : Plan) :
    p.captures = (List.range' 1 p.config.captures).map ("capture_" ++ toString ·) := by
  simp [captures, series_eq, capturePrefix]

theorem buffers_eq (p : Plan) :
    p.buffers = (List.range' 1 p.config.buffers).map fun j =>
      ⟨"buffer_" ++ toString j, "buffer_" ++ toString j ++ "_acc"⟩ := by
  simp [buffers, KernelSynth.buffers, series_eq, bufferPrefix, Buffer.ofName]

theorem accessors_eq (p : Plan) :
    p.accessors = (List.range' 1 p.config.buffers).map fun j => "buffer_" ++ toString j ++ "_acc" := by
  simp [accessors, buffers_eq]

/-- After `q` draws, a fresh rotation returns the accessor of buffer `q % B + 1`. -/
theorem current_fresh (p : Plan) (q : Nat) :
    (advance^[q] p.freshRotation).current = "buffer_" ++ toString (q % p.config.buffers + 1) ++ "_acc" := by
  have hb := p.config.buffers_pos
  have hq : q % p.config.buffers < p.config.buffers := Nat.mod_lt _ hb
  rw [current_iterate]
  simp [freshRotation, accessors_eq, List.getD_eq_getElem?_getD, hq, Nat.add_comm]

theorem elementRef_fresh (p : Plan) (q : Nat) :
    elementRef (advance^[q] p.freshRotation).current = drawnElement p.config.buffers q := by
  rw [current_fresh, ← String.toList_inj]
  simp [elementRef, globalId, drawnElement]

/-! ### The parts of a block -/

theorem preamble_eq (p : Plan) : p.preamble = p.refPreamble := by
  simp only [preamble, refPreamble, buffers_eq, captures_eq, List.map_map]
  -- line by line, the buffer declarations and then the capture declarations
  refine congrArg (· ++ [""]) (congrArg₂ (· ++ ·) (congrArg (· ++ [""]) ?_) ?_)
  · apply List.map_congr_left
    intro j _
    rw [← String.toList_inj]
    simp only [Function.comp, String.toList_append, List.append_assoc, ndrange, rangeText, runtimeSize]
    rfl
  · apply List.map_congr_left
    intro c _
    rw [← String.toList_inj]
    simp only [Function.comp, String.toList_append, List.append_assoc]
    rfl

theorem header_eq (p : Plan) (k : Nat) :
    p.header ("kernel_" ++ toString k) =
      [submitLine] ++ p.bindingLines ++ [p.rangeLine, p.regionLine k] ++ p.sumLines := by
  obtain ⟨b, hb⟩ : ∃ b, p.config.buffers = b + 1 :=
    ⟨p.config.buffers - 1, by have := p.config.buffers_pos; omega⟩
  have hfirst : elementRef (p.accessors.headD "") = "buffer_1_acc[gid]" := by
    rw [accessors_eq, hb, List.range'_succ, ← String.toList_inj]
    simp [elementRef, globalId]
    decide
  have helems : p.accessors.map elementRef =
      (List.range' 1 p.config.buffers).map fun j => "buffer_" ++ toString j ++ "_acc[gid]" := by
    rw [accessors_eq, List.map_map]
    apply List.map_congr_left
    intro j _
    rw [← String.toList_inj]
    simp [elementRef, globalId]
  have hcap : p.captures = [] ↔ p.config.captures = 0 := by simp [captures_eq]
  have hbind : p.buffers.map (fun b => "auto " ++ b.accessor ++ " = " ++ b.name ++
      ".get_access<s::access::mode::read_write>(cgh);") = p.bindingLines := by
    rw [buffers_eq, List.map_map, bindingLines]
    apply List.map_congr_left
    intro j _
    rw [← String.toList_inj]
    simp
  unfold header sumLines
  have hsum : "buffer_1_acc[gid]" ++ " += " = "buffer_1_acc[gid] += " := by simp
  simp only [hfirst, helems, hbind, hcap]
  simp only [captures_eq, hsum, List.append_assoc]
  rfl

theorem loopHead_fresh (p : Plan) (i : Nat) :
    p.loopHead i (advance^[i] p.freshRotation).current = p.loopLine i := by
  unfold loopHead loopLine
  rw [elementRef_fresh, ← String.toList_inj]
  simp only [String.toList_append, List.append_assoc]
  rfl

/-- Loop `i` onwards, written after `i` draws, are bounded by draws `i` onwards. -/
theorem loopHeads_eq (p : Plan) (i n : Nat) :
    p.loopHeads i n (advance^[i] p.freshRotation) =
      ((List.range' i n).map p.loopLine, advance^[i + n] p.freshRotation) := by
  induction n generalizing i with
  | zero => rfl
  | succ n ih =>
    have hnext : (advance^[i] p.freshRotation).next.2 = advance^[i + 1] p.freshRotation :=
      (Function.iterate_succ_apply' advance i p.freshRotation).symm
    simp only [loopHeads, hnext, ih, fst_next, loopHead_fresh, List.range'_succ, List.map_cons]
    rw [Nat.add_right_comm, Nat.add_assoc]

/-- An instruction written after `o` draws puts draw `o + n` in its `n`-th slot. -/
theorem instruction_eq (p : Plan) {t : Template} (ht : t.WellFormed) (o : Nat) :
    instruction t (advance^[o] p.freshRotation) =
      (t.expand fun s => drawnElement p.config.buffers (o + t.slots.idxOf s),
        advance^[o + t.slots.length] p.freshRotation) := by
  simp only [instruction, drawMany_eq, List.map_map]
  congr 1
  · apply Template.expand_congr
    intro s hs
    have hmem := Template.mem_slots_of_mem_pieces ht hs
    rw [find?_zip_eq _ _ s hmem (by simp), List.getElem?_map, List.getElem?_range (List.idxOf_lt_length_of_mem hmem)]
    simp only [Option.map_some, Option.getD_some, Function.comp_apply]
    rw [← Function.iterate_add_apply, Nat.add_comm, elementRef_fresh]
  · rw [← Function.iterate_add_apply, Nat.add_comm]

theorem instructionLines_append (b : Nat) : ∀ (o : Nat) (ts us : List Template),
    instructionLines b o (ts ++ us) =
      instructionLines b o ts ++ instructionLines b (o + (ts.map (·.slots.length)).sum) us
  | _, [], _ => by simp [instructionLines]
  | o, t :: ts, us => by
    simp [instructionLines, instructionLines_append b _ ts us, Nat.add_assoc]

theorem repeatInstruction_eq (p : Plan) {t : Template} (ht : t.WellFormed) (n o : Nat) :
    repeatInstruction t n (advance^[o] p.freshRotation) =
      (instructionLines p.config.buffers o (List.replicate n t),
        advance^[o + n * t.slots.length] p.freshRotation) := by
  induction n generalizing o with
  | zero => simp [repeatInstruction, instructionLines]
  | succ n ih =>
    simp only [repeatInstruction, instruction_eq p ht, ih, List.replicate_succ, instructionLines]
    rw [Nat.succ_mul, Nat.add_comm (n * _), Nat.add_assoc]

/-- The instructions of a plan's entries, written after `o` draws, are the reference's
instruction lines from draw `o`, and leave the rotation after all their slots. -/
theorem instructions_eq (p : Plan) : ∀ (es : List (Template × Nat)), (∀ e ∈ es, e.1.WellFormed) →
    ∀ o, instructions es (advance^[o] p.freshRotation) =
      (instructionLines p.config.buffers o (templates es),
        advance^[o + (es.map fun e => e.2 * e.1.slots.length).sum] p.freshRotation)
  | [], _, _ => rfl
  | (t, n) :: es, hwf, o => by
    have ht : t.WellFormed := hwf (t, n) (by simp)
    have hes : ∀ e ∈ es, e.1.WellFormed := fun e he => hwf e (by simp [he])
    have hrep : ((List.replicate n t).map (·.slots.length)).sum = n * t.slots.length := by simp
    simp only [instructions, repeatInstruction_eq p ht, instructions_eq p es hes, templates,
      List.flatMap_cons, instructionLines_append, hrep, List.map_cons, List.sum_cons, Nat.add_assoc]

/-- **A block is the reference block.** Written from a fresh rotation, kernel `k`'s block is
`refBlock k`, and it leaves the rotation after `operandDraws` draws. -/
theorem block_eq (p : Plan) (hwf : ∀ e ∈ p.entries, e.1.WellFormed) (k : Nat) :
    p.block ("kernel_" ++ toString k) p.freshRotation =
      (p.refBlock k, advance^[p.operandDraws] p.freshRotation) := by
  have hloops := loopHeads_eq p 0 p.config.loopNests
  simp only [Function.iterate_zero, id, Nat.zero_add] at hloops
  simp only [block, hloops, instructions_eq p p.entries hwf, header_eq, footer, refBlock, operandDraws,
    List.range_eq_range', List.append_assoc, List.cons_append, List.nil_append]

end Plan
end KernelSynth
