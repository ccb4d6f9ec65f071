/-
# Blocks drawn from a rotation at any position

`Plan.block` threads one rotation through a kernel's loop headers and
instructions. Whatever rotation it starts from, the block is one frame,
`Plan.blockFrom`, filled in with that rotation's draws: draw `q` bounds loop
`q` for `q < L`, and the later draws fill the instructions' slots, slot `s`
of an instruction whose first draw is `o` taking draw `o` plus the place of
`s` among its template's slots (`block_from`). In particular one
instruction, drawn from a rotation that stands at `i` over `N` accessors,
is its template's text with every occurrence of the `k`-th slot's name
replaced by accessor `(i + k) % N` at the work-item index, and leaves the
rotation `k` draws further on for its `k` slots (`instruction_draws`).

A rotation over the plan's accessors that stands at `i` draws buffer
`(q % B + i) % B + 1` where a fresh one draws buffer `q % B + 1`. The two
frames differ only in those references, which hold no braces, so their lines
are written at the same depths: a kernel written from the rotation has the
lines of the kernel written from a fresh one with every drawn reference
renamed by `i`, the same counts of lines, instructions and operands, and the
fresh hits turned by `i` (`synthesize_rotated`).

Key definitions: `Listing.depths`, `Plan.instructionsFrom`, `Plan.blockFrom`.
Key theorems: `Listing.rendered_eq_zipWith`, `Listing.depths_congr`,
`Plan.instruction_from`, `Plan.block_from`, `Plan.instruction_draws`,
`Plan.map_braceBalance_blockFrom`, `Plan.synthesize_rotated`.
-/
import Mathlib
import KernelSynth.Proofs.Substitution
import KernelSynth.Proofs.Session
import KernelSynth.Proofs.Depth

namespace KernelSynth

namespace Listing

/-- The depth each of a run of lines is written at, from depth `d`. -/
def depths : Nat → List String → List Nat
  | _, [] => []
  | d, x :: xs => lineDepth d x :: depths (nextDepth d x) xs

/-- A run of lines is written line by line, each at its depth. -/
theorem rendered_eq_zipWith (indent : String) : ∀ (d : Nat) (xs : List String),
    rendered indent d xs = List.zipWith (render indent) (depths d xs) xs
  | _, [] => rfl
  | d, x :: xs => by
    simp only [rendered, depths, List.zipWith_cons_cons, rendered_eq_zipWith indent _ xs]

/-- Only the braces of a run of lines decide the depths they are written at and leave. -/
theorem depths_congr : ∀ (d : Nat) {xs ys : List String}, xs.map braceBalance = ys.map braceBalance →
    depths d xs = depths d ys ∧ depthAfter d xs = depthAfter d ys
  | _, [], [], _ => ⟨rfl, rfl⟩
  | _, [], _ :: _, h => by simp at h
  | _, _ :: _, [], h => by simp at h
  | d, x :: xs, y :: ys, h => by
    simp only [List.map_cons, List.cons.injEq] at h
    have hline : lineDepth d x = lineDepth d y := by simp only [lineDepth, h.1]
    have hnext : nextDepth d x = nextDepth d y := by simp only [nextDepth, hline, h.1]
    obtain ⟨hrest, hafter⟩ := depths_congr (nextDepth d x) h.2
    exact ⟨by rw [depths, depths, hline, hrest, hnext], by rw [depthAfter, depthAfter, hafter, hnext]⟩

end Listing

namespace Plan

open Rotation

/-! ### The frame of a block -/

/-- Instruction lines of templates written in turn when draw `q` falls on accessor `acc q`: the
first template draws from draw `o` on, slot `s` taking draw `o` plus its place among the
template's slots, and each next template starts after the last slot of the one before. -/
def instructionsFrom (acc : Nat → String) : Nat → List Template → List String
  | _, [] => []
  | o, t :: ts =>
    t.expand (fun s => elementRef (acc (o + t.slots.idxOf s))) ::
      instructionsFrom acc (o + t.slots.length) ts

/-- A kernel's block when draw `q` falls on accessor `acc q`: the header, the loop headers
bounded by draws `0` to `L - 1`, the instructions drawing from draw `L` on, and the footer. -/
def blockFrom (p : Plan) (kernel : String) (acc : Nat → String) : List String :=
  p.header kernel ++ (List.range p.config.loopNests).map (fun i => p.loopHead i (acc i)) ++
    instructionsFrom acc p.config.loopNests (templates p.entries) ++ p.footer

theorem instructionsFrom_append (acc : Nat → String) : ∀ (o : Nat) (ts us : List Template),
    instructionsFrom acc o (ts ++ us) =
      instructionsFrom acc o ts ++ instructionsFrom acc (o + (ts.map (·.slots.length)).sum) us
  | _, [], _ => by simp [instructionsFrom]
  | o, t :: ts, us => by
    simp [instructionsFrom, instructionsFrom_append acc _ ts us, Nat.add_assoc]

/-! ### Drawing from any rotation -/

/-- **An instruction from any rotation.** Slot `s` holds the element of the accessor the
rotation gives `k` draws on, `k` the place of `s` among the slots, and the rotation moves on one
draw per slot. -/
theorem instruction_from {t : Template} (ht : t.WellFormed) (r : Rotation) :
    instruction t r = (t.expand fun s => elementRef (advance^[t.slots.idxOf s] r).current,
      advance^[t.slots.length] r) := by
  simp only [instruction, drawMany_eq, List.map_map]
  congr 1
  apply Template.expand_congr
  intro s hs
  have hmem := Template.mem_slots_of_mem_pieces ht hs
  rw [find?_zip_eq _ _ s hmem (by simp), List.getElem?_map,
    List.getElem?_range (List.idxOf_lt_length_of_mem hmem)]
  rfl

theorem loopHeads_from (p : Plan) (r : Rotation) (i n : Nat) :
    p.loopHeads i n (advance^[i] r) =
      ((List.range' i n).map fun k => p.loopHead k (advance^[k] r).current, advance^[i + n] r) := by
  induction n generalizing i with
  | zero => rfl
  | succ n ih =>
    have hnext : (advance^[i] r).next.2 = advance^[i + 1] r :=
      (Function.iterate_succ_apply' advance i r).symm
    simp only [loopHeads, hnext, ih, fst_next, List.range'_succ, List.map_cons]
    rw [Nat.add_right_comm, Nat.add_assoc]

/-- An instruction written after `o` draws puts draw `o + k` in its `k`-th slot. -/
theorem instruction_iterate {t : Template} (ht : t.WellFormed) (r : Rotation) (o : Nat) :
    instruction t (advance^[o] r) =
      (t.expand fun s => elementRef (advance^[o + t.slots.idxOf s] r).current,
        advance^[o + t.slots.length] r) := by
  simp only [instruction_from ht, ← Function.iterate_add_apply, Nat.add_comm _ o]

theorem repeatInstruction_from (r : Rotation) {t : Template} (ht : t.WellFormed) (n o : Nat) :
    repeatInstruction t n (advance^[o] r) =
      (instructionsFrom (fun q => (advance^[q] r).current) o (List.replicate n t),
        advance^[o + n * t.slots.length] r) := by
  induction n generalizing o with
  | zero => simp [repeatInstruction, instructionsFrom]
  | succ n ih =>
    simp only [repeatInstruction, instruction_iterate ht, ih, List.replicate_succ, instructionsFrom]
    rw [Nat.succ_mul, Nat.add_comm (n * _), Nat.add_assoc]

/-- The instructions of entries written after `o` draws fill the frame's instruction lines
from draw `o` on, and leave the rotation after all their slots. -/
theorem instructions_from (r : Rotation) : ∀ (es : List (Template × Nat)), (∀ e ∈ es, e.1.WellFormed) →
    ∀ o, instructions es (advance^[o] r) =
      (instructionsFrom (fun q => (advance^[q] r).current) o (templates es),
        advance^[o + (es.map fun e => e.2 * e.1.slots.length).sum] r)
  | [], _, _ => rfl
  | (t, n) :: es, hwf, o => by
    have ht : t.WellFormed := hwf (t, n) (by simp)
    have hes : ∀ e ∈ es, e.1.WellFormed := fun e he => hwf e (by simp [he])
    have hrep : ((List.replicate n t).map (·.slots.length)).sum = n * t.slots.length := by simp
    simp only [instructions, repeatInstruction_from r ht, instructions_from r es hes, templates,
      List.flatMap_cons, instructionsFrom_append, hrep, List.map_cons, List.sum_cons, Nat.add_assoc]

/-- **A block from any rotation is the frame filled with its draws.** -/
theorem block_from (p : Plan) (hwf : ∀ e ∈ p.entries, e.1.WellFormed) (kernel : String) (r : Rotation) :
    p.block kernel r =
      (p.blockFrom kernel (fun q => (advance^[q] r).current), advance^[p.operandDraws] r) := by
  have hloops := loopHeads_from p r 0 p.config.loopNests
  simp only [Function.iterate_zero, id, Nat.zero_add] at hloops
  simp only [block, hloops, instructions_from r p.entries hwf, blockFrom, operandDraws,
    List.range_eq_range', List.append_assoc]

/-! ### One instruction -/

theorem elementRef_eq (a : String) : elementRef a = a ++ "[gid]" := by
  unfold elementRef globalId
  rw [String.append_assoc, String.append_assoc]
  rfl

/-- **One instruction's draws.** An instruction of an accepted template, drawn from a rotation
that stands at `i` over `N` accessors, counts one draw per slot and leaves the rotation at
`(i + |slots|) % N`. Its text is the template's with every occurrence of the `k`-th slot's name
replaced by accessor `(i + k) % N` at the work-item index: the occurrences of a slot share one
accessor, and the slots, the names among `OUT`, `IN1`, `IN2` the text holds, draw in that order
wherever they stand in the text. -/
theorem instruction_draws {opcode text : String} {t : Template} (ht : Template.ofText opcode text = .ok t)
    (r : Rotation) :
    (instruction t r).2.calls = r.calls + t.slots.length ∧
      (instruction t r).2.index = (r.index + t.slots.length) % r.accessors.length ∧
      t.slots = Slot.all.filter (fun s => decide (s.name.toList <:+: text.toList)) ∧
      ∀ out : List Char, (instruction t r).1.toList = out ↔
        Template.Substituted
          (fun s => r.accessors.getD ((r.index + t.slots.idxOf s) % r.accessors.length) "" ++ "[gid]")
          text.toList out := by
  have hwf := Template.wellFormed_ofText ht
  obtain ⟨-, -, -, ht'⟩ := (Template.ofText_eq_ok_iff _ _ _).mp ht
  have htext : t.text = text := by rw [ht']
  have hslots : t.slots = Template.slotsOf (Piece.ofChars text.toList) := by rw [ht']
  -- each slot's value is the element of the accessor drawn at its place
  have hvalue : (fun s => elementRef (advance^[t.slots.idxOf s] r).current) =
      fun s => r.accessors.getD ((r.index + t.slots.idxOf s) % r.accessors.length) "" ++ "[gid]" := by
    funext s
    rw [elementRef_eq, current_iterate]
  rw [instruction_from hwf, calls_iterate, index_iterate]
  refine ⟨rfl, rfl, hslots.trans (Template.slotsOf_ofChars _), fun out => ?_⟩
  rw [hvalue, Template.expand_eq_substitute hwf, htext, Template.substituted_iff, eq_comm]

/-- The `mad` operation, drawn from the second of two accessors, leaves the rotation at the
first again after its three slots. -/
theorem instruction_draws_mad :
    ∃ t, Template.ofText "mad" "OUT = IN1 * IN2 + IN1;" = .ok t ∧
      (instruction t (Rotation.start ["a", "b"] (by simp)).advance).2.index =
        ((Rotation.start ["a", "b"] (by simp)).advance.index + t.slots.length) % 2 :=
  ⟨_, rfl, (@instruction_draws "mad" "OUT = IN1 * IN2 + IN1;" _ rfl _).2.1⟩

/-! ### The braces of a frame -/

theorem braceless_elementRef {a : String} (h : Braceless a) : Braceless (elementRef a) := by
  rw [elementRef_eq, braceless_append]
  exact ⟨h, by decide⟩

theorem braceBalance_loopHead (p : Plan) (i : Nat) {a : String} (h : Braceless a) :
    braceBalance (p.loopHead i a) = 1 := by
  unfold loopHead
  simp only [braceBalance_append, (braceless_toString _).braceBalance_eq,
    (braceless_name _).braceBalance_eq, (braceless_elementRef h).braceBalance_eq]
  decide

/-- With braceless accessors, an instruction line has the braces of its template's text. -/
theorem braceBalance_instructionsFrom {acc : Nat → String} (hacc : ∀ q, Braceless (acc q)) :
    ∀ (o : Nat) (ts : List Template), (∀ t ∈ ts, t.WellFormed) →
      (instructionsFrom acc o ts).map braceBalance = ts.map fun t => braceBalance t.text
  | _, [], _ => rfl
  | o, t :: ts, hwf => by
    have ht : t.WellFormed := hwf t (by simp)
    have hvals : ∀ s, Braceless (elementRef (acc (o + t.slots.idxOf s))) :=
      fun s => braceless_elementRef (hacc _)
    have hopen := Template.count_expand ht '\x7b' (by intro s; cases s <;> decide) _ fun s => (hvals s).1
    have hclose := Template.count_expand ht '\x7d' (by intro s; cases s <;> decide) _ fun s => (hvals s).2
    simp only [instructionsFrom, List.map_cons,
      braceBalance_instructionsFrom hacc _ ts (fun u hu => hwf u (by simp [hu]))]
    simp only [braceBalance, opening, closing, hopen, hclose]

/-- With braceless accessors, the braces of a frame's lines do not depend on the accessors. -/
theorem map_braceBalance_blockFrom (p : Plan) (hwf : ∀ e ∈ p.entries, e.1.WellFormed)
    (kernel : String) {acc : Nat → String} (hacc : ∀ q, Braceless (acc q)) :
    (p.blockFrom kernel acc).map braceBalance =
      (p.header kernel).map braceBalance ++ List.replicate p.config.loopNests 1 ++
        (templates p.entries).map (fun t => braceBalance t.text) ++ p.footer.map braceBalance := by
  have hloops : ((List.range p.config.loopNests).map fun i => p.loopHead i (acc i)).map braceBalance =
      List.replicate p.config.loopNests 1 := by
    rw [List.map_map, List.eq_replicate_iff]
    refine ⟨by simp, fun b hb => ?_⟩
    obtain ⟨i, -, rfl⟩ := List.mem_map.mp hb
    exact braceBalance_loopHead p i (hacc i)
  have hbody := braceBalance_instructionsFrom hacc p.config.loopNests (templates p.entries)
    (wellFormed_templates hwf)
  simp only [blockFrom, List.map_append, hloops, hbody]

/-! ### A kernel from a rotation at any position -/

theorem braceless_accessorName (j : Nat) : Braceless ("buffer_" ++ toString j ++ "_acc") := by
  simp +decide only [braceless_append, braceless_toString]

/-- A rotation over the plan's accessors standing at `i` draws buffer `(q % B + i) % B + 1` at
its `q`-th draw from now. -/
theorem current_rotated (p : Plan) {r : Rotation} (hr : r.accessors = p.accessors) (q : Nat) :
    (advance^[q] r).current =
      "buffer_" ++ toString ((q % p.config.buffers + r.index) % p.config.buffers + 1) ++ "_acc" := by
  have hmod : (r.index + q) % p.config.buffers = (q % p.config.buffers + r.index) % p.config.buffers := by
    rw [Nat.add_comm (q % _), Nat.add_mod_mod]
  have hlt := Nat.mod_lt (q + r.index) p.config.buffers_pos
  rw [current_iterate, hr, length_accessors, hmod]
  simp [accessors_eq, List.getD_eq_getElem?_getD, hlt, Nat.add_comm]

/-- A draw `q` from `i` lands on `(j + i) % B` exactly when the draw `q` from `0` lands on `j`. -/
theorem mod_rotated_iff {B i j : Nat} (hj : j < B) (q : Nat) :
    (i + q) % B = (j + i) % B ↔ q % B = j := by
  constructor
  · intro h
    have h' : (i + q) % B = (i + j) % B := by rw [h, Nat.add_comm]
    rw [← Nat.mod_eq_of_lt hj]
    exact Nat.ModEq.add_left_cancel' i h'
  · intro h
    rw [← Nat.add_mod_mod, h, Nat.add_comm]

/-- The hits `n` draws add from a rotation standing at `i`, read at `(j + i) % B`, are the draws
among the first `n` that fall on `j`. -/
theorem hitsAdded_iterate_rotated (r : Rotation) (n : Nat) {j : Nat} (hj : j < r.accessors.length) :
    (hitsAdded r.hits (advance^[n] r).hits)[(j + r.index) % r.accessors.length]? =
      some (Nat.count (fun q => q % r.accessors.length = j) n : Int) := by
  rw [hitsAdded_iterate, List.getElem?_map, List.getElem?_range (Nat.mod_lt _ (by omega))]
  simp only [Option.map_some, Option.some.injEq, Nat.cast_inj]
  congr 1
  funext q
  exact propext (mod_rotated_iff hj q)

/-- **A kernel from a rotation at any position.** Take a validated configuration and a rotation
over the plan's accessors standing at `i`. Written into the same listing, the kernel drawn from
the rotation and the kernel drawn from a fresh one add lines that agree line by line: one frame
at the same depths, so the same accessor bindings and sums, with every drawn reference (each
loop bound and each instruction operand) to `buffer_(j + 1)_acc` in the fresh kernel a
reference to `buffer_((j + i) % B + 1)_acc` in the other. Both leave the listing at one depth
and report the same lines, instructions and operands, and the hits of the one are those of the
other turned by `i`. -/
theorem synthesize_rotated {o : Options} {cfg : Config} {p : Plan}
    (ho : Config.ofOptions o = .ok cfg) (hp : ofConfig cfg = .ok p)
    (l : Listing) (kernel : String) (r : Rotation) (hr : r.accessors = p.accessors) :
    let B := cfg.buffers
    let ref : Nat → String := fun j => "buffer_" ++ toString (j + 1) ++ "_acc"
    let shared := p.synthesize l kernel r
    let fresh := p.synthesize l kernel p.freshRotation
    (∃ ds : List Nat,
      shared.1.lines.toList = l.lines.toList ++
        List.zipWith (Listing.render l.indent) ds (p.blockFrom kernel fun q => ref ((q % B + r.index) % B)) ∧
      fresh.1.lines.toList = l.lines.toList ++
        List.zipWith (Listing.render l.indent) ds (p.blockFrom kernel fun q => ref (q % B))) ∧
      shared.1.depth = fresh.1.depth ∧
      shared.2.2.bufferRefs.length = B ∧ fresh.2.2.bufferRefs.length = B ∧
      (∀ j < B, shared.2.2.bufferRefs[(j + r.index) % B]? = fresh.2.2.bufferRefs[j]?) ∧
      shared.2.2.lines = fresh.2.2.lines ∧ shared.2.2.instructions = fresh.2.2.instructions ∧
      shared.2.2.operandRefs = fresh.2.2.operandRefs := by
  intro B ref shared fresh
  obtain ⟨rfl, -, hwf⟩ := plan_ofOptions ho hp
  have hB : 0 < B := p.config.buffers_pos
  -- both kernels are one frame, filled with the two rotations' draws
  have hshared : (p.block kernel r).1 = p.blockFrom kernel fun q => ref ((q % B + r.index) % B) := by
    rw [block_from p hwf]
    exact congrArg (p.blockFrom kernel) (funext (current_rotated p hr))
  have hfresh : (p.block kernel p.freshRotation).1 = p.blockFrom kernel fun q => ref (q % B) := by
    rw [block_from p hwf]
    exact congrArg (p.blockFrom kernel) (funext (current_fresh p))
  -- whose lines have the same braces, and so are written at the same depths
  have hbraces : (p.blockFrom kernel fun q => ref ((q % B + r.index) % B)).map braceBalance =
      (p.blockFrom kernel fun q => ref (q % B)).map braceBalance := by
    rw [map_braceBalance_blockFrom p hwf kernel (fun _ => braceless_accessorName _),
      map_braceBalance_blockFrom p hwf kernel (fun _ => braceless_accessorName _)]
  obtain ⟨hdepths, hafter⟩ := Listing.depths_congr l.depth hbraces
  have hlen : r.accessors.length = B := by rw [hr, length_accessors]
  refine ⟨⟨Listing.depths l.depth (p.blockFrom kernel fun q => ref (q % B)), ?_, ?_⟩,
    ?_, ?_, ?_, ?_, ?_, rfl, ?_⟩
  · show (l.writeAll (p.block kernel r).1).lines.toList = _
    rw [Listing.lines_writeAll, hshared, Listing.rendered_eq_zipWith, hdepths]
  · show (l.writeAll (p.block kernel p.freshRotation).1).lines.toList = _
    rw [Listing.lines_writeAll, hfresh, Listing.rendered_eq_zipWith]
  · show (l.writeAll (p.block kernel r).1).depth = (l.writeAll (p.block kernel p.freshRotation).1).depth
    rw [Listing.depth_writeAll, Listing.depth_writeAll, hshared, hfresh, hafter]
  · show (hitsAdded r.hits (p.block kernel r).2.hits).length = B
    rw [block_rotation, length_hitsAdded, hlen]
  · show (hitsAdded p.freshRotation.hits (p.block kernel p.freshRotation).2.hits).length = B
    rw [block_rotation, length_hitsAdded]
    simp [freshRotation, length_accessors, B]
  · -- the draws that fall on `(j + i) % B` from `i` are those that fall on `j` from `0`
    intro j hj
    show (hitsAdded r.hits (p.block kernel r).2.hits)[(j + r.index) % B]? =
      (hitsAdded p.freshRotation.hits (p.block kernel p.freshRotation).2.hits)[j]?
    have hjB : j < p.config.buffers := hj
    have hshared := hitsAdded_iterate_rotated r p.operandDraws (hlen ▸ hj)
    have hfresh := hitsAdded_iterate_rotated p.freshRotation p.operandDraws
      (by simpa [freshRotation, length_accessors] using hj)
    rw [hlen] at hshared
    simp only [freshRotation, index_start, accessors_start, length_accessors, Nat.add_zero,
      Nat.mod_eq_of_lt hjB] at hfresh
    rw [block_rotation, block_rotation, hshared, freshRotation, hfresh]
  · show ((p.block kernel r).1.length : Int) = (p.block kernel p.freshRotation).1.length
    rw [length_block, length_block]
  · show ((p.block kernel r).2.calls : Int) - r.calls =
      ((p.block kernel p.freshRotation).2.calls : Int) - p.freshRotation.calls
    rw [block_rotation, block_rotation, calls_iterate, calls_iterate]
    push_cast
    ring

/-- The default configuration's first kernel, drawn from a rotation that has made one draw,
has the fresh kernel's hits turned by one. -/
theorem synthesize_rotated_default :
    ∃ cfg p, Config.ofOptions Options.default = .ok cfg ∧ ofConfig cfg = .ok p ∧
      (p.synthesize (Listing.empty Listing.defaultIndent) "kernel_1" p.freshRotation.advance).2.2.bufferRefs[1]? =
        (p.synthesize (Listing.empty Listing.defaultIndent) "kernel_1" p.freshRotation).2.2.bufferRefs[0]? :=
  ⟨_, _, rfl, rfl, (@synthesize_rotated Options.default _ _ rfl rfl (Listing.empty Listing.defaultIndent)
    "kernel_1" _ rfl).2.2.2.2.1 0 (by decide)⟩

end Plan
end KernelSynth
