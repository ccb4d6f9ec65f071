/-
# Kernel types: declared once each, launched in order

The declarations artifact declares one kernel type per kernel, `kernel_1` to
`kernel_K` in order: a class, or a class template over a type and an integer
when kernels are templated. A decimal numeral names one number only, so the
declarations are pairwise distinct. The parallel region of the `i`-th kernel
block of the kernels artifact is launched under the `i`-th declared type:
by its bare name, or, templated, with the configuration's scalar type and
dimensions as its two arguments. So every kernel type the kernels artifact
launches is declared exactly once, and in the same order.

The `i`-th block starts after the preamble (`B + C + 2` lines) and `i` blocks
before it, each of `B + 8 + [C > 0] + 2L + I` lines; its parallel region is
opened on its line `B + 2`, after the submission, the `B` accessor bindings and
the iteration range.

Key theorems: `toString_injective`, `Listing.getElem?_rendered`,
`Plan.getElem?_reference_region`, `Plan.kernel_types_declared`.
-/
import Mathlib
import KernelSynth.Proofs.Generate

namespace KernelSynth

/-- A decimal numeral names one number. -/
theorem toString_injective : Function.Injective (toString : Nat → String) := by
  intro a b h
  have hd := congrArg (fun s : String => Nat.ofDigitChars 10 s.toList 0) h
  simpa [Nat.toString_eq_ofList_toDigits] using hd

/-- Texts that differ only in a number between a fixed start and a fixed end name that
number. -/
theorem eq_of_append_toString_append {pre post : String} {a b : Nat}
    (h : pre ++ toString a ++ post = pre ++ toString b ++ post) : a = b := by
  have hl := congrArg String.toList h
  simp only [String.toList_append] at hl
  exact toString_injective (String.toList_inj.mp (List.append_cancel_left (List.append_cancel_right hl)))

namespace Listing

/-- Each line of a run is written at some depth. -/
theorem getElem?_rendered (indent : String) : ∀ (d j : Nat) (xs : List String) (x : String),
    xs[j]? = some x → ∃ e, (rendered indent d xs)[j]? = some (render indent e x)
  | _, _, [], _, h => by simp at h
  | d, 0, y :: ys, x, h => ⟨lineDepth d y, by simp_all [rendered]⟩
  | d, j + 1, y :: ys, x, h => by
    simpa [rendered] using getElem?_rendered indent (nextDepth d y) j ys x (by simpa using h)

/-- A line that is not empty is written after its indentation. -/
theorem render_of_ne_empty (indent : String) (d : Nat) {x : String} (hx : x ≠ "") :
    render indent d x = String.join (List.replicate d indent) ++ x := by
  unfold render
  rw [if_neg hx]

end Listing

/-- Lists whose pieces all have `n` elements: element `j` of piece `i` stands at `i * n + j`. -/
theorem getElem?_flatMap_of_length {α β : Type} {f : α → List β} {n : Nat}
    (hf : ∀ a, (f a).length = n) : ∀ (xs : List α) (i j : Nat), j < n →
      (xs.flatMap f)[i * n + j]? = xs[i]?.bind fun a => (f a)[j]?
  | [], _, _, _ => by simp
  | x :: xs, 0, j, hj => by
    rw [List.flatMap_cons, Nat.zero_mul, Nat.zero_add, List.getElem?_append_left (by rw [hf]; exact hj)]
    rfl
  | x :: xs, i + 1, j, hj => by
    rw [List.flatMap_cons, List.getElem?_append_right (by rw [hf]; nlinarith), hf,
      show (i + 1) * n + j - n = i * n + j by rw [Nat.succ_mul]; omega,
      getElem?_flatMap_of_length hf xs i j hj]
    rfl

namespace Plan

/-- Kernel `k` is declared as the `k`-th kernel type. -/
theorem declarations_eq (p : Plan) :
    p.declarations = (List.range' 1 p.config.kernels).map fun k =>
      declarationOf p.config.templated ("kernel_" ++ toString k) := by
  rw [declarations, kernels_eq, List.map_map]
  rfl

theorem generate_declarations (p : Plan) : p.generate.declarations = p.declarations := rfl

theorem declarationOf_injective (templated : Bool) :
    Function.Injective fun k : Nat => declarationOf templated ("kernel_" ++ toString k) := by
  intro a b h
  cases templated with
  | false =>
    have h' : "class " ++ "kernel_" ++ toString a ++ ";" = "class " ++ "kernel_" ++ toString b ++ ";" := by
      simpa only [declarationOf, Bool.false_eq_true, if_false, String.append_assoc] using h
    exact eq_of_append_toString_append h'
  | true =>
    have h' : "template <typename _TT, int _TN> class " ++ "kernel_" ++ toString a ++ ";" =
        "template <typename _TT, int _TN> class " ++ "kernel_" ++ toString b ++ ";" := by
      simpa only [declarationOf, if_true, String.append_assoc] using h
    exact eq_of_append_toString_append h'

theorem length_bindingLines (p : Plan) : p.bindingLines.length = p.config.buffers := by
  simp [bindingLines]

/-- Line `B + 2` of a block opens its parallel region. -/
theorem getElem?_refBlock_region (p : Plan) (k : Nat) :
    (p.refBlock k)[p.config.buffers + 2]? = some (p.regionLine k) := by
  have hb : p.bindingLines.length ≤ p.config.buffers + 1 := by rw [length_bindingLines]; omega
  unfold refBlock
  simp only [List.append_assoc, List.cons_append, List.nil_append]
  rw [show p.config.buffers + 2 = (p.config.buffers + 1) + 1 from rfl, List.getElem?_cons_succ,
    List.getElem?_append_right hb, length_bindingLines,
    show p.config.buffers + 1 - p.config.buffers = 1 by omega]
  rfl

/-- With well-formed templates every block has `B + 8` lines, one more with captures, two per
loop nest and one per instruction. -/
theorem length_refBlock (p : Plan) (hwf : ∀ e ∈ p.entries, e.1.WellFormed) (k : Nat) :
    (p.refBlock k).length =
      p.config.buffers + 8 + (if p.config.captures = 0 then 0 else 1) + 2 * p.config.loopNests +
        instructionCount p.entries := by
  rw [← length_block p ("kernel_" ++ toString k) p.freshRotation, block_eq p hwf k]

theorem length_refPreamble (p : Plan) :
    p.refPreamble.length = p.config.buffers + p.config.captures + 2 := by
  rw [← preamble_eq, length_preamble]

/-- The reference listing opens the parallel region of kernel `i + 1` after the preamble and
`i` blocks, on the block's line `B + 2`. -/
theorem getElem?_reference_region (p : Plan) (hwf : ∀ e ∈ p.entries, e.1.WellFormed) {i : Nat}
    (hi : i < p.config.kernels) :
    p.reference[p.config.buffers + p.config.captures + 2 +
        i * (p.config.buffers + 8 + (if p.config.captures = 0 then 0 else 1) +
          2 * p.config.loopNests + instructionCount p.entries) + (p.config.buffers + 2)]? =
      some (p.regionLine (i + 1)) := by
  have hblock := length_refBlock p hwf
  have hin : p.config.buffers + 2 <
      p.config.buffers + 8 + (if p.config.captures = 0 then 0 else 1) + 2 * p.config.loopNests +
        instructionCount p.entries := by omega
  rw [reference, Nat.add_assoc, List.getElem?_append_right (by rw [length_refPreamble]; omega),
    length_refPreamble, Nat.add_sub_cancel_left, getElem?_flatMap_of_length hblock _ i _ hin,
    List.getElem?_range' hi, Option.bind_some, getElem?_refBlock_region, Nat.one_mul,
    Nat.add_comm 1 i]

/-- The instructions of a resolved mix with no negative count are its counts added up. -/
theorem instructionCount_eq_sum {c : Catalog} {m : Mix} {es : List (Template × Nat)}
    (h : List.Forall₂ (fun e te => c.lookup? e.opcode = some te.1 ∧ te.2 = e.count.toNat) m es) :
    instructionCount es = (m.map fun e => e.count.toNat).sum := by
  induction h with
  | nil => rfl
  | cons hte _ ih => simp only [instructionCount, hte.2, ih, List.map_cons, List.sum_cons]

/-- **Every kernel type is declared once, in launch order.** For validated options the
declarations artifact has one line per kernel, pairwise distinct, the `i`-th declaring
`kernel_(i+1)` (as a class template over a type and an integer when kernels are templated), and
the `i`-th kernel block of the kernels artifact opens its parallel region, at whatever depth,
under that same name (with the scalar type and the dimensions as its two arguments when
templated). -/
theorem kernel_types_declared {o : Options} {cfg : Config} {p : Plan}
    (ho : Config.ofOptions o = .ok cfg) (hp : ofConfig cfg = .ok p) :
    let name := fun i : Nat => "kernel_" ++ toString (i + 1)
    let n := cfg.buffers + 8 + (if cfg.captures = 0 then 0 else 1) + 2 * cfg.loopNests +
      (cfg.mix.map fun e => e.count.toNat).sum
    p.generate.declarations.length = cfg.kernels ∧
      p.generate.declarations.Nodup ∧
      (∀ i < cfg.kernels, p.generate.declarations[i]? = some
        (if cfg.templated then "template <typename _TT, int _TN> class " ++ name i ++ ";"
         else "class " ++ name i ++ ";")) ∧
      ∀ i < cfg.kernels, ∃ depth,
        p.generate.kernels[cfg.buffers + cfg.captures + 2 + i * n + (cfg.buffers + 2)]? = some
          (String.join (List.replicate depth "  ") ++ "cgh.parallel_for<" ++
            (if cfg.templated then
              name i ++ "<" ++ cfg.scalar.name ++ ", " ++ toString cfg.dimensions ++ ">"
             else name i) ++
            ">(ndrange, [=](cl::sycl::id<" ++ toString cfg.dimensions ++ "> gid) \x7b") := by
  intro name n
  obtain ⟨rfl, hes, hwf⟩ := plan_ofOptions ho hp
  have hI := instructionCount_eq_sum hes
  rw [generate_declarations, declarations_eq]
  refine ⟨by simp, (List.nodup_range' ..).map (declarationOf_injective _), ?_, ?_⟩
  · intro i hi
    rw [List.getElem?_map, List.getElem?_range' hi]
    simp only [Option.map_some, declarationOf, Nat.one_mul, Nat.add_comm 1 i, name]
  · intro i hi
    have hline := getElem?_reference_region p hwf hi
    rw [hI] at hline
    obtain ⟨depth, hd⟩ := Listing.getElem?_rendered Listing.defaultIndent 0 _ p.reference _ hline
    refine ⟨depth, ?_⟩
    rw [kernels_generate_eq_reference p hwf, hd, Listing.render_of_ne_empty]
    · unfold regionLine typeName
      simp only [String.append_assoc, name, Listing.defaultIndent]
    · unfold regionLine
      intro h
      have := congrArg String.length h
      simp at this

/-- The default options validate and plan, with one declaration per kernel, none twice. -/
theorem kernel_types_declared_default :
    ∃ cfg p, Config.ofOptions Options.default = .ok cfg ∧ ofConfig cfg = .ok p ∧
      p.generate.declarations.length = cfg.kernels ∧ p.generate.declarations.Nodup :=
  ⟨_, _, rfl, rfl, (@kernel_types_declared Options.default _ _ rfl rfl).1,
    (@kernel_types_declared Options.default _ _ rfl rfl).2.1⟩

end Plan
end KernelSynth
