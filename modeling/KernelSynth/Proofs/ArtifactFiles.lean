/-
# Artifact files read back as lines

An artifact goes to its file as its lines, each followed by a line feed
(`linesText`). Reading the file back splits its text at every line feed and
leaves out the empty piece after the last one (`readLines`). The text is
empty exactly when there are no lines, and otherwise ends in a line feed; it
reads back as its lines, each cut where it holds a line feed of its own
(`readLines_linesText`). So the lines come back as written exactly when none
of them holds a line feed, and the file has one line more for every line feed
inside a line.

A generated line holds a line feed only where a template's text does: names,
numerals, the scalar type and the fixed text of the declarations and blocks
have none, the operand put in a slot has none, and the indentation is spaces.
So the declarations always read back as written, and the kernels do exactly
when no template the mix uses holds a line feed. A template's text is checked
for its slots only, so a text that holds line feeds (as a block scalar of a
configuration file does, with its final one) is kept, and the kernels file
then has `K * Σ c_e * n_e` lines more than the listing, with `n_e` the line
feeds of entry `e`'s template and `c_e` its count.

Key definitions: `lineFeeds`, `pieces`, `readLines`.
Key theorems: `readLines_linesText`, `readLines_linesText_eq_self_iff`,
`Plan.lineFeeds_reference`, `Plan.generate_files_read_back`.
-/
import Mathlib
import KernelSynth.Proofs.Depth
import KernelSynth.Proofs.KernelTypes
import KernelSynth.Proofs.MixGrammar

namespace KernelSynth

/-! ### Reading lines back -/

/-- The line feeds a text holds. -/
def lineFeeds (x : String) : Nat := x.toList.count '\n'

/-- The pieces of a text between its line feeds. -/
def pieces (x : String) : List String := (x.toList.splitOn '\n').map String.ofList

/-- The lines of a file's text: its pieces between line feeds, without the empty piece after a
final line feed. -/
def readLines (text : String) : List String :=
  if (pieces text).getLast? = some "" then (pieces text).dropLast else pieces text

@[simp] theorem lineFeeds_append (a b : String) : lineFeeds (a ++ b) = lineFeeds a + lineFeeds b := by
  simp [lineFeeds]

theorem lineFeeds_toString (n : Nat) : lineFeeds (toString n) = 0 :=
  count_toString n (by decide)

@[simp] theorem lineFeeds_repr (n : Nat) : lineFeeds n.repr = 0 := lineFeeds_toString n

theorem toList_linesText_cons (l : String) (ls : List String) :
    (linesText (l :: ls)).toList = l.toList ++ '\n' :: (linesText ls).toList := by
  simp [linesText]

theorem linesText_eq_empty_iff (lines : List String) : linesText lines = "" ↔ lines = [] := by
  cases lines with
  | nil => exact ⟨fun _ => rfl, fun _ => rfl⟩
  | cons l ls =>
    refine ⟨fun h => ?_, fun h => nomatch h⟩
    have := congrArg String.toList h
    simp [toList_linesText_cons] at this

/-- Text written from lines ends in a line feed, unless there are none. -/
theorem exists_linesText_eq_append {lines : List String} (h : lines ≠ []) :
    ∃ t, linesText lines = t ++ "\n" := by
  obtain ⟨init, last, rfl⟩ := List.eq_nil_or_concat lines |>.resolve_left h
  exact ⟨linesText init ++ last, by simp [linesText, String.append_assoc]⟩

/-- Split at its line feeds, the text of lines is the pieces of each line in turn, and the
empty piece after the last line feed. -/
theorem splitOn_linesText (lines : List String) :
    (linesText lines).toList.splitOn '\n' = (lines.flatMap fun l => l.toList.splitOn '\n') ++ [[]] := by
  induction lines with
  | nil => rfl
  | cons l ls ih =>
    rw [toList_linesText_cons, List.splitOn_append_cons_self, ih, List.flatMap_cons, List.append_assoc]

theorem pieces_linesText (lines : List String) :
    pieces (linesText lines) = lines.flatMap pieces ++ [""] := by
  rw [pieces, splitOn_linesText, List.map_append, List.map_flatMap]
  rfl

/-- **Written lines read back, each cut at its own line feeds.** -/
theorem readLines_linesText (lines : List String) :
    readLines (linesText lines) = lines.flatMap pieces := by
  simp [readLines, pieces_linesText]

theorem length_pieces (x : String) : (pieces x).length = lineFeeds x + 1 := by
  simp [pieces, lineFeeds, Mix.length_splitOn]

theorem pieces_of_lineFeeds_eq_zero {x : String} (h : lineFeeds x = 0) : pieces x = [x] := by
  simp [pieces, List.splitOn_eq_singleton (List.count_eq_zero.mp h)]

/-- A file of written lines has a line for each, and one more for each line feed inside one. -/
theorem length_readLines_linesText (lines : List String) :
    (readLines (linesText lines)).length = lines.length + (lines.map lineFeeds).sum := by
  rw [readLines_linesText]
  induction lines with
  | nil => rfl
  | cons l ls ih =>
    simp only [List.flatMap_cons, List.length_append, ih, length_pieces, List.length_cons,
      List.map_cons, List.sum_cons]
    omega

theorem sum_lineFeeds_eq_zero_iff {xs : List String} :
    (xs.map lineFeeds).sum = 0 ↔ ∀ x ∈ xs, lineFeeds x = 0 := by
  simp [List.sum_eq_zero_iff]

/-- **Lines read back as written exactly when none holds a line feed.** -/
theorem readLines_linesText_eq_self_iff (lines : List String) :
    readLines (linesText lines) = lines ↔ ∀ l ∈ lines, lineFeeds l = 0 := by
  constructor
  · intro h
    have hlen := congrArg List.length h
    rw [length_readLines_linesText] at hlen
    exact sum_lineFeeds_eq_zero_iff.mp (by omega)
  · intro h
    rw [readLines_linesText]
    induction lines with
    | nil => rfl
    | cons l ls ih =>
      rw [List.flatMap_cons, pieces_of_lineFeeds_eq_zero (h l (by simp)),
        ih fun l' hl' => h l' (by simp [hl'])]
      rfl


/-! ### Line feeds of what a plan writes -/

/-- Rendering adds only the indent, so with an indent free of a character a line keeps its
count of it. -/
theorem count_render {c : Char} {indent : String} (hi : indent.toList.count c = 0) (d : Nat)
    (x : String) : (Listing.render indent d x).toList.count c = x.toList.count c := by
  unfold Listing.render
  split
  · rename_i hx
    rw [hx]
  · have hpad : (String.join (List.replicate d indent)).toList.count c = 0 := by
      induction d with
      | zero => rfl
      | succ d ih => rw [List.replicate_succ, String.join_cons, String.toList_append, List.count_append, hi, ih]
    rw [String.toList_append, List.count_append, hpad, Nat.zero_add]

theorem lineFeeds_rendered : ∀ (d : Nat) (xs : List String),
    (Listing.rendered Listing.defaultIndent d xs).map lineFeeds = xs.map lineFeeds
  | _, [] => rfl
  | d, x :: xs => by
    simp only [Listing.rendered, List.map_cons, lineFeeds_rendered _ xs, lineFeeds,
      count_render (show Listing.defaultIndent.toList.count '\n' = 0 by decide)]

@[simp] theorem lineFeeds_name (s : Scalar) : lineFeeds s.name = 0 := by
  cases s <;> decide

theorem lineFeeds_intercalate {sep : String} {ls : List String} (hs : lineFeeds sep = 0)
    (h : ∀ l ∈ ls, lineFeeds l = 0) : lineFeeds (sep.intercalate ls) = 0 :=
  count_intercalate sep ls hs h

@[simp] theorem lineFeeds_drawnElement (b q : Nat) : lineFeeds (drawnElement b q) = 0 := by
  simp +decide only [drawnElement, lineFeeds_append, lineFeeds_toString]

/-- An instruction line has the line feeds of its template's text: the operands put in the
slots have none. -/
theorem lineFeeds_instructionLines (b : Nat) : ∀ (o : Nat) (ts : List Template),
    (∀ t ∈ ts, t.WellFormed) →
      (instructionLines b o ts).map lineFeeds = ts.map fun t => lineFeeds t.text
  | _, [], _ => rfl
  | o, t :: ts, hwf => by
    have ht : t.WellFormed := hwf t (by simp)
    have hline := Template.count_expand ht '\n' (by intro s; cases s <;> decide)
      (fun s => drawnElement b (o + t.slots.idxOf s)) (fun s => lineFeeds_drawnElement b _)
    simp only [instructionLines, List.map_cons,
      lineFeeds_instructionLines b _ ts (fun u hu => hwf u (by simp [hu]))]
    simp only [lineFeeds, hline]

instance (t : Template) : Decidable t.WellFormed :=
  inferInstanceAs (Decidable (_ ∧ _))

namespace Plan

theorem lineFeeds_declarationOf (templated : Bool) (k : Nat) :
    lineFeeds (declarationOf templated ("kernel_" ++ toString k)) = 0 := by
  unfold declarationOf
  split <;> simp +decide

theorem lineFeeds_rangeText (p : Plan) : lineFeeds p.rangeText = 0 := by
  apply lineFeeds_intercalate (by decide)
  intro l hl
  rw [List.eq_of_mem_replicate hl]
  decide

theorem lineFeeds_refPreamble (p : Plan) : ∀ x ∈ p.refPreamble, lineFeeds x = 0 := by
  intro x hx
  simp only [refPreamble, List.mem_append, List.mem_map, List.mem_singleton] at hx
  rcases hx with ((⟨j, -, rfl⟩ | rfl) | ⟨c, -, rfl⟩) | rfl
  · simp +decide [lineFeeds_rangeText]
  · decide
  · simp +decide
  · decide

theorem lineFeeds_bindingLines (p : Plan) : ∀ x ∈ p.bindingLines, lineFeeds x = 0 := by
  intro x hx
  obtain ⟨j, -, rfl⟩ := List.mem_map.mp hx
  simp +decide

theorem lineFeeds_rangeLine (p : Plan) : lineFeeds p.rangeLine = 0 := by
  unfold rangeLine
  simp +decide only [lineFeeds_append, lineFeeds_toString, lineFeeds_rangeText]

theorem lineFeeds_regionLine (p : Plan) (k : Nat) : lineFeeds (p.regionLine k) = 0 := by
  unfold regionLine typeName
  split <;> simp +decide

theorem lineFeeds_sumLines (p : Plan) : ∀ x ∈ p.sumLines, lineFeeds x = 0 := by
  -- both sums add up names, each a word and a numeral
  have hsum : ∀ (js : List Nat) (f : Nat → String), (∀ j, lineFeeds (f j) = 0) →
      lineFeeds ("buffer_1_acc[gid] += " ++ " + ".intercalate (js.map f) ++ ";") = 0 := by
    intro js f hf
    have hjoin : lineFeeds (" + ".intercalate (js.map f)) = 0 := by
      apply lineFeeds_intercalate (by decide)
      simp only [List.mem_map]
      rintro _ ⟨j, -, rfl⟩
      exact hf j
    simp +decide only [lineFeeds_append, hjoin]
  intro x hx
  simp only [sumLines, List.mem_append] at hx
  rcases hx with hx | hx
  · split at hx
    · simp at hx
    · rw [List.mem_singleton.mp hx]
      exact hsum _ _ fun c => by simp +decide
  · rw [List.mem_singleton.mp hx]
    exact hsum _ _ fun j => by simp +decide

theorem lineFeeds_loopLine (p : Plan) (i : Nat) : lineFeeds (p.loopLine i) = 0 := by
  unfold loopLine
  simp +decide only [lineFeeds_append, lineFeeds_toString, lineFeeds_name, lineFeeds_drawnElement]

/-- A block holds the line feeds of its instructions: the lines around them hold none. -/
theorem lineFeeds_refBlock (p : Plan) (hwf : ∀ e ∈ p.entries, e.1.WellFormed) (k : Nat) :
    ((p.refBlock k).map lineFeeds).sum = ((templates p.entries).map fun t => lineFeeds t.text).sum := by
  have hloops : (((List.range p.config.loopNests).map p.loopLine).map lineFeeds).sum = 0 :=
    sum_lineFeeds_eq_zero_iff.mpr (by simp [lineFeeds_loopLine])
  have hclose : ((List.replicate p.config.loopNests "\x7d").map lineFeeds).sum = 0 :=
    sum_lineFeeds_eq_zero_iff.mpr fun x hx => by rw [List.eq_of_mem_replicate hx]; decide
  have hends : lineFeeds submitLine = 0 ∧ lineFeeds "\x7d); // parallel_for" = 0 ∧
      lineFeeds "\x7d); // submit" = 0 ∧ lineFeeds "" = 0 := by decide
  simp only [refBlock, List.map_append, List.sum_append, sum_lineFeeds_eq_zero_iff.mpr p.lineFeeds_bindingLines,
    sum_lineFeeds_eq_zero_iff.mpr p.lineFeeds_sumLines, hloops, hclose,
    lineFeeds_instructionLines _ _ _ (wellFormed_templates hwf), List.map_cons, List.map_nil,
    List.sum_cons, List.sum_nil, lineFeeds_rangeLine, lineFeeds_regionLine, hends]
  omega

/-- The line feeds of the whole listing: each template's, once per use in every kernel. -/
theorem lineFeeds_reference (p : Plan) (hwf : ∀ e ∈ p.entries, e.1.WellFormed) :
    (p.reference.map lineFeeds).sum =
      p.config.kernels * (p.entries.map fun e => e.2 * lineFeeds e.1.text).sum := by
  have hblocks : ∀ ks : List Nat, ((ks.flatMap p.refBlock).map lineFeeds).sum =
      ks.length * (p.entries.map fun e => e.2 * lineFeeds e.1.text).sum := by
    intro ks
    induction ks with
    | nil => simp
    | cons k ks ih =>
      simp only [List.flatMap_cons, List.map_append, List.sum_append, ih, lineFeeds_refBlock p hwf,
        sum_map_templates, smul_eq_mul, List.length_cons, Nat.succ_mul]
      omega
  rw [reference, List.map_append, List.sum_append, sum_lineFeeds_eq_zero_iff.mpr p.lineFeeds_refPreamble,
    hblocks, List.length_range', Nat.zero_add]

/-- The kernels artifact holds each template's line feeds once per use in every kernel. -/
theorem lineFeeds_kernels (p : Plan) (hwf : ∀ e ∈ p.entries, e.1.WellFormed) :
    (p.generate.kernels.map lineFeeds).sum =
      p.config.kernels * (p.entries.map fun e => e.2 * lineFeeds e.1.text).sum := by
  rw [kernels_generate_eq_reference p hwf, lineFeeds_rendered, lineFeeds_reference p hwf]

/-- Uses weighted by their counts add up to zero exactly when every entry in use counts zero. -/
theorem sum_uses_eq_zero_iff (es : List (Template × Nat)) (f : Template → Nat) :
    (es.map fun e => e.2 * f e.1).sum = 0 ↔ ∀ e ∈ es, 0 < e.2 → f e.1 = 0 := by
  simp only [List.sum_eq_zero_iff, List.mem_map, forall_exists_index, and_imp,
    forall_apply_eq_imp_iff₂, Nat.mul_eq_zero]
  exact forall₂_congr fun e _ => by omega

/-- With a kernel to write, the kernels hold no line feed exactly when no template the mix uses
does. -/
theorem kernels_lineFeeds_eq_zero_iff (p : Plan) (hwf : ∀ e ∈ p.entries, e.1.WellFormed)
    (hK : 0 < p.config.kernels) :
    (∀ l ∈ p.generate.kernels, lineFeeds l = 0) ↔
      ∀ e ∈ p.entries, 0 < e.2 → lineFeeds e.1.text = 0 := by
  rw [← sum_lineFeeds_eq_zero_iff, lineFeeds_kernels p hwf, Nat.mul_eq_zero,
    or_iff_right (Nat.pos_iff_ne_zero.mp hK)]
  exact sum_uses_eq_zero_iff p.entries fun t => lineFeeds t.text

/-- The kernels file has a line for each line of the kernels artifact and one more for each
line feed its templates put inside one. -/
theorem length_readLines_kernels (p : Plan) (hwf : ∀ e ∈ p.entries, e.1.WellFormed) :
    (readLines p.generate.kernelsText).length =
      p.generate.kernels.length +
        p.config.kernels * (p.entries.map fun e => e.2 * lineFeeds e.1.text).sum := by
  rw [Artifacts.kernelsText, length_readLines_linesText, lineFeeds_kernels p hwf]

theorem lineFeeds_declarations (p : Plan) : ∀ x ∈ p.generate.declarations, lineFeeds x = 0 := by
  intro x hx
  rw [generate_declarations, declarations_eq] at hx
  obtain ⟨k, -, rfl⟩ := List.mem_map.mp hx
  exact lineFeeds_declarationOf _ k

/-- The kernels artifact has the preamble's lines and then every block's. -/
theorem length_kernels (p : Plan) (hwf : ∀ e ∈ p.entries, e.1.WellFormed) :
    p.generate.kernels.length = p.config.buffers + p.config.captures + 2 +
      ((List.range' 1 p.config.kernels).map fun k => (p.refBlock k).length).sum := by
  rw [kernels_generate_eq_reference p hwf, Listing.length_rendered, reference, List.length_append,
    length_refPreamble, List.length_flatMap]

/-- The shapes count the lines of every block. -/
theorem sum_lines_shapes (p : Plan) (hwf : ∀ e ∈ p.entries, e.1.WellFormed) :
    (p.generate.shapes.map (·.lines)).sum =
      (((List.range' 1 p.config.kernels).map fun k => (p.refBlock k).length).sum : Nat) := by
  rw [shapes_generate p hwf, List.map_map, Nat.cast_list_sum, List.map_map]
  rfl

/-- **Artifact files read back as their lines, but for line feeds in templates.** For validated
options, each artifact's file text is empty exactly when it has no lines and otherwise ends in
a line feed, and it reads back as its lines, each cut at its own line feeds. The declarations
hold none and read back as written. The kernels hold each template's line feeds once per use
in every kernel, so they read back as written exactly when no template the mix uses holds a
line feed, and the kernels file has the preamble's `B + C + 2` lines, the lines of every
kernel's shape, and one more for each of those line feeds. -/
theorem generate_files_read_back {o : Options} {cfg : Config} {p : Plan}
    (ho : Config.ofOptions o = .ok cfg) (hp : ofConfig cfg = .ok p) :
    (p.generate.declarationsText = "" ↔ p.generate.declarations = []) ∧
      (p.generate.kernelsText = "" ↔ p.generate.kernels = []) ∧
      (p.generate.declarations ≠ [] → ∃ t, p.generate.declarationsText = t ++ "\n") ∧
      (p.generate.kernels ≠ [] → ∃ t, p.generate.kernelsText = t ++ "\n") ∧
      readLines p.generate.declarationsText = p.generate.declarations ∧
      readLines p.generate.kernelsText = p.generate.kernels.flatMap pieces ∧
      (readLines p.generate.kernelsText = p.generate.kernels ↔
        ∀ e ∈ p.entries, 0 < e.2 → lineFeeds e.1.text = 0) ∧
      ((readLines p.generate.kernelsText).length : Int) =
        cfg.buffers + cfg.captures + 2 + (p.generate.shapes.map (·.lines)).sum +
          ((cfg.kernels * (p.entries.map fun e => e.2 * lineFeeds e.1.text).sum : Nat) : Int) := by
  obtain ⟨rfl, -, hwf⟩ := plan_ofOptions ho hp
  have hK : 0 < p.config.kernels := by
    obtain ⟨-, hf, -, hk, -⟩ := Config.ofOptions_fields ho
    have := ((Config.faults_eq_nil_iff _ _).mp hf).1
    omega
  refine ⟨linesText_eq_empty_iff _, linesText_eq_empty_iff _, exists_linesText_eq_append,
    exists_linesText_eq_append, (readLines_linesText_eq_self_iff _).mpr (lineFeeds_declarations p),
    readLines_linesText _, ?_, ?_⟩
  · rw [Artifacts.kernelsText, readLines_linesText_eq_self_iff, kernels_lineFeeds_eq_zero_iff p hwf hK]
  · rw [length_readLines_kernels p hwf, length_kernels p hwf, sum_lines_shapes p hwf]
    push_cast
    ring

/-- The default options validate and plan, and their kernels file reads back as the kernels. -/
theorem generate_files_read_back_default :
    ∃ cfg p, Config.ofOptions Options.default = .ok cfg ∧ ofConfig cfg = .ok p ∧
      readLines p.generate.kernelsText = p.generate.kernels :=
  ⟨_, _, rfl, rfl, (@generate_files_read_back Options.default _ _ rfl rfl).2.2.2.2.2.2.1.mpr (by decide)⟩

/-- An operation whose text holds a line feed, used once by one kernel over one buffer: its
instruction line holds the line feed, and the kernels file reads back with one line more
than the kernels artifact has. -/
theorem kernels_file_cuts_template_line :
    ∃ cfg p, Config.ofOptions { Options.default with
        buffers := 1, captures := 0, loopNests := 0, mix := [⟨"two", 1⟩],
        operations := [("two", "OUT = IN1;\nOUT += IN1;")] } = .ok cfg ∧ ofConfig cfg = .ok p ∧
      readLines p.generate.kernelsText ≠ p.generate.kernels ∧
      (readLines p.generate.kernelsText).length = p.generate.kernels.length + 1 := by
  refine ⟨_, _, rfl, rfl, ?_⟩
  -- the file has one line more, so it cannot read back as the kernels
  refine (fun hlen => ⟨fun h => ?_, hlen⟩) ?_
  · rw [length_readLines_kernels _ ?hwf, Nat.add_left_cancel_iff]
    · decide
    · decide
  · rw [h] at hlen
    omega

end Plan

end KernelSynth
