/-
# Brace depths of the kernels artifact

The listing indents a line by the depth its braces and the lines before it
give, not by where the line stands in a block. The fixed lines of a block
are laid out so that the two agree: the submission and the parallel region
each open one brace, each loop header opens one, the other header lines
balance theirs (even the buffer declarations and the range, which close what
they open), and the closing lines close one each. So when every instruction
balances its braces, a block written from depth zero puts each line at the
depth of its place and ends at depth zero again, whatever the numbers of
buffers, captures, loops and instructions; and the artifact as a whole has
as many opening braces as closing ones. Without balanced instructions the
artifact is off by exactly the instructions' own excess, kernel by kernel.

Key theorems: `Plan.rendered_refBlock`, `Plan.braceBalance_reference`,
`Plan.generate_brace_depths`.
-/
import Mathlib
import KernelSynth.Proofs.Generate

namespace KernelSynth

theorem braceless_name (s : Scalar) : Braceless s.name := by
  cases s <;> decide

namespace Plan

/-! ### The braces of each line -/

theorem braceless_typeName (p : Plan) (k : Nat) : Braceless (p.typeName ("kernel_" ++ toString k)) := by
  unfold typeName
  split <;> simp +decide only [braceless_append, braceless_toString, braceless_name]

theorem braceless_rangeText (p : Plan) : Braceless p.rangeText := by
  apply Braceless.intercalate (by decide)
  intro l hl
  rw [List.eq_of_mem_replicate hl]
  decide

theorem braceless_drawnElement (b q : Nat) : Braceless (drawnElement b q) := by
  simp +decide only [drawnElement, braceless_append, braceless_toString]

theorem braceBalance_submitLine : braceBalance submitLine = 1 := by decide

theorem braceBalance_bindingLines (p : Plan) : ∀ x ∈ p.bindingLines, braceBalance x = 0 := by
  intro x hx
  obtain ⟨j, -, rfl⟩ := List.mem_map.mp hx
  apply Braceless.braceBalance_eq
  simp +decide only [braceless_append, braceless_toString]

theorem braceBalance_rangeLine (p : Plan) : braceBalance p.rangeLine = 0 := by
  unfold rangeLine
  simp only [braceBalance_append, (braceless_toString _).braceBalance_eq,
    p.braceless_rangeText.braceBalance_eq]
  decide

theorem braceBalance_regionLine (p : Plan) (k : Nat) : braceBalance (p.regionLine k) = 1 := by
  unfold regionLine
  simp only [braceBalance_append, (braceless_toString _).braceBalance_eq,
    (p.braceless_typeName k).braceBalance_eq]
  decide

theorem braceBalance_sumLines (p : Plan) : ∀ x ∈ p.sumLines, braceBalance x = 0 := by
  -- both sums add up names, each a word and a numeral
  have hsum : ∀ (js : List Nat) (f : Nat → String), (∀ j, Braceless (f j)) →
      Braceless ("buffer_1_acc[gid] += " ++ " + ".intercalate (js.map f) ++ ";") := by
    intro js f hf
    simp only [braceless_append]
    refine ⟨⟨by decide, Braceless.intercalate (by decide) ?_⟩, by decide⟩
    simp only [List.mem_map]
    rintro _ ⟨j, -, rfl⟩
    exact hf j
  intro x hx
  simp only [sumLines, List.mem_append] at hx
  apply Braceless.braceBalance_eq
  rcases hx with hx | hx
  · split at hx
    · simp at hx
    · rw [List.mem_singleton.mp hx]
      exact hsum _ _ fun c => by simp +decide only [braceless_append, braceless_toString]
  · rw [List.mem_singleton.mp hx]
    exact hsum _ _ fun j => by simp +decide only [braceless_append, braceless_toString]

theorem braceBalance_loopLine (p : Plan) (i : Nat) : braceBalance (p.loopLine i) = 1 := by
  unfold loopLine
  simp only [braceBalance_append, (braceless_toString _).braceBalance_eq,
    (braceless_name _).braceBalance_eq, (braceless_drawnElement _ _).braceBalance_eq]
  decide

theorem braceBalance_refPreamble (p : Plan) : ∀ x ∈ p.refPreamble, braceBalance x = 0 := by
  intro x hx
  simp only [refPreamble, List.mem_append, List.mem_map, List.mem_singleton] at hx
  rcases hx with ((⟨j, -, rfl⟩ | rfl) | ⟨c, -, rfl⟩) | rfl
  · simp only [braceBalance_append, (braceless_toString _).braceBalance_eq,
      (braceless_name _).braceBalance_eq, p.braceless_rangeText.braceBalance_eq]
    decide
  · decide
  · simp only [braceBalance_append, (braceless_toString _).braceBalance_eq,
      (braceless_name _).braceBalance_eq]
    decide
  · decide

/-- An instruction line has the braces of its template's text: the operands put in the slots
have none. -/
theorem braceBalance_instructionLines (b : Nat) : ∀ (o : Nat) (ts : List Template),
    (∀ t ∈ ts, t.WellFormed) →
      (instructionLines b o ts).map braceBalance = ts.map fun t => braceBalance t.text
  | _, [], _ => rfl
  | o, t :: ts, hwf => by
    have ht : t.WellFormed := hwf t (by simp)
    have hopen := Template.count_expand ht '\x7b' (by intro s; cases s <;> decide)
      (fun s => drawnElement b (o + t.slots.idxOf s)) (fun s => (braceless_drawnElement b _).1)
    have hclose := Template.count_expand ht '\x7d' (by intro s; cases s <;> decide)
      (fun s => drawnElement b (o + t.slots.idxOf s)) (fun s => (braceless_drawnElement b _).2)
    simp only [instructionLines, List.map_cons,
      braceBalance_instructionLines b _ ts (fun u hu => hwf u (by simp [hu]))]
    simp only [braceBalance, opening, closing, hopen, hclose]

/-! ### Depths -/

/-- **Each line of a block at the depth of its place.** When every instruction balances its
braces, a block written from depth zero is its indented form and leaves depth zero. -/
theorem rendered_refBlock (p : Plan) (hbal : ∀ x ∈ instructionLines p.config.buffers p.config.loopNests
      (templates p.entries), braceBalance x = 0) (k : Nat) :
    Listing.rendered Listing.defaultIndent 0 (p.refBlock k) = p.indentedBlock k ∧
      Listing.depthAfter 0 (p.refBlock k) = 0 := by
  have hsubmit : Listing.rendered Listing.defaultIndent 0 [submitLine] = [Listing.render Listing.defaultIndent 0 submitLine] ∧
      Listing.depthAfter 0 [submitLine] = 1 := by
    simp [Listing.rendered, Listing.depthAfter, Listing.lineDepth_of_nonneg,
      Listing.nextDepth_of_nonneg, braceBalance_submitLine]
  have hbind := Listing.rendered_level Listing.defaultIndent 1 p.bindingLines p.braceBalance_bindingLines
  have hhead : Listing.rendered Listing.defaultIndent 1 [p.rangeLine, p.regionLine k] =
        [Listing.render Listing.defaultIndent 1 p.rangeLine, Listing.render Listing.defaultIndent 1 (p.regionLine k)] ∧
      Listing.depthAfter 1 [p.rangeLine, p.regionLine k] = 2 := by
    simp [Listing.rendered, Listing.depthAfter, Listing.lineDepth_of_nonneg, Listing.nextDepth_of_nonneg,
      braceBalance_rangeLine, braceBalance_regionLine]
  have hsums := Listing.rendered_level Listing.defaultIndent 2 p.sumLines p.braceBalance_sumLines
  have hloops := Listing.rendered_opening Listing.defaultIndent 2 p.loopLine p.braceBalance_loopLine p.config.loopNests
  have hbody := Listing.rendered_level Listing.defaultIndent (2 + p.config.loopNests) _ hbal
  have hclose := Listing.rendered_closing Listing.defaultIndent 2 (x := "\x7d") (by decide) p.config.loopNests
  have htail : Listing.rendered Listing.defaultIndent 2 ["\x7d); // parallel_for", "\x7d); // submit", "", ""] =
        [Listing.render Listing.defaultIndent 1 "\x7d); // parallel_for", Listing.render Listing.defaultIndent 0 "\x7d); // submit", "", ""] ∧
      Listing.depthAfter 2 ["\x7d); // parallel_for", "\x7d); // submit", "", ""] = 0 := by
    have h1 : braceBalance "\x7d); // parallel_for" = -1 := by decide
    have h2 : braceBalance "\x7d); // submit" = -1 := by decide
    have h3 : braceBalance "" = 0 := by decide
    simp [Listing.rendered, Listing.depthAfter, Listing.lineDepth_of_close h1, Listing.nextDepth_of_close h1,
      Listing.lineDepth_of_close h2 0, Listing.nextDepth_of_close h2 0, Listing.render,
      Listing.nextDepth_of_nonneg, h3]
  simp only [refBlock, indentedBlock, List.append_assoc, Listing.rendered_append, Listing.depthAfter_append,
    hsubmit.1, hsubmit.2, hbind.1, hbind.2, hhead.1, hhead.2, hsums.1, hsums.2, hloops.1, hloops.2,
    hbody.1, hbody.2, hclose.1, hclose.2, htail.1, htail.2]
  exact ⟨trivial, trivial⟩

/-- Blocks that each bring the depth from zero back to zero are written one after another as
they are written alone. -/
theorem rendered_flatMap (f : Nat → List String) :
    ∀ (ks : List Nat), (∀ k ∈ ks, Listing.depthAfter 0 (f k) = 0) →
      Listing.rendered Listing.defaultIndent 0 (ks.flatMap f) =
        ks.flatMap (fun k => Listing.rendered Listing.defaultIndent 0 (f k)) ∧
      Listing.depthAfter 0 (ks.flatMap f) = 0
  | [], _ => ⟨rfl, rfl⟩
  | k :: ks, h => by
    have ih := rendered_flatMap f ks fun k' hk' => h k' (by simp [hk'])
    simp only [List.flatMap_cons, Listing.rendered_append, Listing.depthAfter_append, h k (by simp), ih.1,
      ih.2, and_self]

theorem render_zero (x : String) : Listing.render Listing.defaultIndent 0 x = x := by
  unfold Listing.render
  split <;> simp_all

/-! ### Braces of the whole artifact -/

theorem mem_templates {es : List (Template × Nat)} {t : Template} (h : t ∈ templates es) :
    ∃ e ∈ es, 0 < e.2 ∧ t = e.1 := by
  simp only [templates, List.mem_flatMap, List.mem_replicate] at h
  obtain ⟨e, he, hn, rfl⟩ := h
  exact ⟨e, he, Nat.pos_of_ne_zero hn, rfl⟩

theorem wellFormed_templates {es : List (Template × Nat)} (hwf : ∀ e ∈ es, e.1.WellFormed) :
    ∀ t ∈ templates es, t.WellFormed := by
  intro t ht
  obtain ⟨e, he, -, rfl⟩ := mem_templates ht
  exact hwf e he

/-- With every template in use balanced, every instruction line is. -/
theorem braceBalance_instructionLines_of_balanced (p : Plan) (hwf : ∀ e ∈ p.entries, e.1.WellFormed)
    (hused : ∀ e ∈ p.entries, 0 < e.2 → opening e.1.text = closing e.1.text) :
    ∀ x ∈ instructionLines p.config.buffers p.config.loopNests (templates p.entries),
      braceBalance x = 0 := by
  intro x hx
  have hmem := List.mem_map_of_mem (f := braceBalance) hx
  rw [braceBalance_instructionLines _ _ _ (wellFormed_templates hwf)] at hmem
  obtain ⟨t, ht, heq⟩ := List.mem_map.mp hmem
  obtain ⟨e, he, hpos, rfl⟩ := mem_templates ht
  rw [← heq, braceBalance, hused e he hpos, sub_self]

/-- A measure added up over the instructions is each entry's measure, once per use. -/
theorem sum_map_templates {M : Type} [AddCommMonoid M] (f : Template → M) (es : List (Template × Nat)) :
    ((templates es).map f).sum = (es.map fun e => e.2 • f e.1).sum := by
  induction es with
  | nil => rfl
  | cons e es ih =>
    simp only [templates, List.flatMap_cons, List.map_append, List.sum_append, List.map_replicate,
      List.sum_replicate, List.map_cons, List.sum_cons] at ih ⊢
    rw [ih]

theorem sum_templates (es : List (Template × Nat)) :
    ((templates es).map fun t => braceBalance t.text).sum =
      (es.map fun e => (e.2 : Int) * braceBalance e.1.text).sum := by
  simp only [sum_map_templates, nsmul_eq_mul]

/-- A block has the balance of its instructions: the fixed lines close all they open. -/
theorem braceBalance_refBlock (p : Plan) (hwf : ∀ e ∈ p.entries, e.1.WellFormed) (k : Nat) :
    ((p.refBlock k).map braceBalance).sum =
      ((templates p.entries).map fun t => braceBalance t.text).sum := by
  have hbind : (p.bindingLines.map braceBalance).sum = 0 :=
    List.sum_eq_zero (by simpa using p.braceBalance_bindingLines)
  have hsums : (p.sumLines.map braceBalance).sum = 0 :=
    List.sum_eq_zero (by simpa using p.braceBalance_sumLines)
  have hloops : (((List.range p.config.loopNests).map p.loopLine).map braceBalance).sum =
      p.config.loopNests := by
    simp [List.map_map, Function.comp_def, braceBalance_loopLine, List.map_const']
  have hclose : ((List.replicate p.config.loopNests "\x7d").map braceBalance).sum = -p.config.loopNests := by
    simp only [List.map_replicate, List.sum_replicate, nsmul_eq_mul]
    rw [show braceBalance "\x7d" = -1 by decide]
    omega
  simp only [refBlock, List.map_append, List.sum_append, hbind, hsums, hloops, hclose,
    braceBalance_instructionLines _ _ _ (wellFormed_templates hwf), List.map_cons, List.map_nil, List.sum_cons, List.sum_nil,
    braceBalance_submitLine, braceBalance_rangeLine, braceBalance_regionLine]
  rw [show braceBalance "\x7d); // parallel_for" = -1 by decide,
    show braceBalance "\x7d); // submit" = -1 by decide, show braceBalance "" = 0 by decide]
  omega

/-- The balance of the whole listing: the instructions' balance, once per kernel. -/
theorem braceBalance_reference (p : Plan) (hwf : ∀ e ∈ p.entries, e.1.WellFormed) :
    (p.reference.map braceBalance).sum =
      p.config.kernels * (p.entries.map fun e => (e.2 : Int) * braceBalance e.1.text).sum := by
  have hpre : (p.refPreamble.map braceBalance).sum = 0 :=
    List.sum_eq_zero (by simpa using p.braceBalance_refPreamble)
  have hblocks : ∀ ks : List Nat, ((ks.flatMap p.refBlock).map braceBalance).sum =
      ks.length * (p.entries.map fun e => (e.2 : Int) * braceBalance e.1.text).sum := by
    intro ks
    induction ks with
    | nil => simp
    | cons k ks ih =>
      simp only [List.flatMap_cons, List.map_append, List.sum_append, ih, braceBalance_refBlock p hwf,
        sum_templates, List.length_cons]
      push_cast
      ring
  rw [reference, List.map_append, List.sum_append, hpre, hblocks, List.length_range']
  simp

/-- **Brace depths of the kernels artifact.** For validated options the kernels text has
`K` times the instructions' excess of `{` over `}` (each template's excess once per use), and
the default catalog's templates balance their braces. When every template the mix uses does,
the listing is at depth zero after the preamble and before and after every block, each line
of a block stands at the depth of its place, and the text has as many `{` as `}`. -/
theorem generate_brace_depths {o : Options} {cfg : Config} {p : Plan}
    (ho : Config.ofOptions o = .ok cfg) (hp : ofConfig cfg = .ok p) :
    braceBalance p.generate.kernelsText =
        cfg.kernels * (p.entries.map fun e => (e.2 : Int) * braceBalance e.1.text).sum ∧
      (∀ t ∈ Catalog.default.templates, opening t.text = closing t.text) ∧
      ((∀ e ∈ p.entries, 0 < e.2 → opening e.1.text = closing e.1.text) →
        ((Listing.empty Listing.defaultIndent).writeAll p.preamble).depth = 0 ∧
        (∀ k ≤ cfg.kernels,
          (p.synthesizeAll ((Listing.empty Listing.defaultIndent).writeAll p.preamble)
            (p.kernels.take k)).1.depth = 0) ∧
        p.generate.kernels = p.refPreamble ++ (List.range' 1 cfg.kernels).flatMap p.indentedBlock ∧
        opening p.generate.kernelsText = closing p.generate.kernelsText) := by
  obtain ⟨rfl, -, hwf⟩ := plan_ofOptions ho hp
  have hkernels := kernels_generate_eq_reference p hwf
  have hbal : braceBalance p.generate.kernelsText =
      p.config.kernels * (p.entries.map fun e => (e.2 : Int) * braceBalance e.1.text).sum := by
    rw [Artifacts.kernelsText, braceBalance_linesText, hkernels,
      Listing.braceBalance_rendered (show Braceless Listing.defaultIndent by decide),
      braceBalance_reference p hwf]
  refine ⟨hbal, by decide, fun hused => ?_⟩
  have hblock := rendered_refBlock p (braceBalance_instructionLines_of_balanced p hwf hused)
  have hpre := Listing.rendered_level Listing.defaultIndent 0 p.refPreamble p.braceBalance_refPreamble
  have hblocks := fun ks => rendered_flatMap p.refBlock ks fun k _ => (hblock k).2
  refine ⟨?_, ?_, ?_, ?_⟩
  · rw [Listing.depth_writeAll, preamble_eq]
    exact hpre.2
  · intro k _
    rw [synthesizeAll_fst, Listing.depth_writeAll, Listing.depth_writeAll, preamble_eq, kernels_eq,
      ← List.map_take, flatMap_blocks p hwf]
    simp only [Listing.depth_empty, hpre.2]
    exact (hblocks _).2
  · rw [hkernels, reference, Listing.rendered_append, hpre.1, hpre.2, (hblocks _).1]
    have hid : Listing.render Listing.defaultIndent 0 = id := funext render_zero
    simp only [hid, List.map_id, (hblock _).1]
  · have hzero : (p.entries.map fun e => (e.2 : Int) * braceBalance e.1.text).sum = 0 := by
      apply List.sum_eq_zero
      simp only [List.mem_map]
      rintro _ ⟨e, he, rfl⟩
      rcases Nat.eq_zero_or_pos e.2 with h0 | hpos
      · simp [h0]
      · rw [braceBalance, hused e he hpos, sub_self, mul_zero]
    rw [hzero, mul_zero, braceBalance] at hbal
    omega

/-- The default options validate and plan, and their kernels balance their braces. -/
theorem generate_brace_depths_default :
    ∃ cfg p, Config.ofOptions Options.default = .ok cfg ∧ ofConfig cfg = .ok p ∧
      opening p.generate.kernelsText = closing p.generate.kernelsText :=
  ⟨_, _, rfl, rfl, ((@generate_brace_depths Options.default _ _ rfl rfl).2.2 (by decide)).2.2.2⟩

end Plan
end KernelSynth
