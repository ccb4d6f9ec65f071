/-
# Shape reports: when they fail, and when their sums are exact

A report of the shapes of a run fails exactly when some kernel counts hits
for another number of buffers than the first (`Report.ofShapes_eq_error_iff`).
Otherwise it counts the kernels, sums their lines and operands as 64-bit
words, which go round past `2^63`, and takes the first kernel's
instructions. The hits are summed buffer by buffer as doubles: while every
hit and every running total stays below `2^53` the sums are the whole
totals (`Report.sumHits_ofInt`), so the least and greatest are those of the
integer totals (`Report.ofShapes_min_max`). That holds in particular when
`K` kernels hit a buffer at most `M` times each and `K M` is below the bound
(`Report.hitsExact_of_bound`). Past the bound a hit may be rounded before it
is added, and a total below the bound comes out wrong.

A generated run never fails: every kernel draws the same `R` operands and
deals them alike over the `B` buffers, `R / B` to each and one more to each
of the first `R % B`. Over `K` kernels the greatest and least totals then
differ by `K`, or by nothing when `B` divides `R` (`Plan.report_generate`).

Key definitions: `Report.bufferCount`, `Report.bufferHits`, `Report.hitTotals`,
`Report.HitsExact`, `Report.spread`.
Key theorems: `Report.ofShapes_eq_error_iff`, `Report.sumHits_ofInt`,
`Report.ofShapes_min_max`, `Report.hitsExact_of_bound`, `Report.max_sub_min_spread`,
`Plan.report_generate`.
-/
import Mathlib
import KernelSynth.Report
import KernelSynth.Proofs.Generate
import KernelSynth.Proofs.WholeDoubles

namespace KernelSynth
namespace Report

open WholeDouble

/-! ### When there is a report -/

theorem addHits_of_length {sums : List Float} {hits : List Int} (h : sums.length = hits.length) :
    addHits sums hits = .ok (List.zipWith (fun s h => s + Float.ofInt h) sums hits) := by
  rw [addHits, if_pos h]

theorem addHits_of_length_ne {sums : List Float} {hits : List Int} (h : sums.length ≠ hits.length) :
    addHits sums hits = .error .bufferCountMismatch := by
  rw [addHits, if_neg h]

/-- Hits are summed unless some kernel counts them for another number of buffers than the
running sums hold; adding keeps the number of sums. -/
theorem sumHits_eq_error_iff : ∀ (sums : List Float) (shapes : List Shape),
    sumHits sums shapes = .error .bufferCountMismatch ↔ ∃ s ∈ shapes, s.bufferRefs.length ≠ sums.length
  | sums, [] => by simp [sumHits]
  | sums, s :: ss => by
    by_cases hs : sums.length = s.bufferRefs.length
    · have ih := sumHits_eq_error_iff (List.zipWith (fun s h => s + Float.ofInt h) sums s.bufferRefs) ss
      simp only [List.length_zipWith, hs, Nat.min_self] at ih
      simp only [sumHits, addHits_of_length hs, bind, Except.bind, ih, List.mem_cons, exists_eq_or_imp, hs,
        ne_eq, not_true_eq_false, false_or]
    · simp only [sumHits, addHits_of_length_ne hs, bind, Except.bind, List.mem_cons, exists_eq_or_imp, true_iff]
      exact Or.inl (Ne.symm hs)

/-- The number of buffers a run of shapes is reported on: the first kernel's. -/
def bufferCount (shapes : List Shape) : Nat := (shapes.head?.map (·.bufferRefs.length)).getD 0

/-- What a report holds: the count of kernels, their lines and operands summed as words, the
first kernel's instructions, and the least and greatest of the hits summed as doubles. -/
theorem ofShapes_eq_ok {shapes : List Shape} {r : Report} (h : ofShapes shapes = .ok r) :
    r.kernels = shapes.length ∧ r.totalLines = Word.sum (shapes.map (·.lines)) ∧
      r.operandRefs = Word.sum (shapes.map (·.operandRefs)) ∧
      r.instructions = (shapes.head?.map (·.instructions)).getD 0 ∧
      ∃ refs, sumHits (List.replicate (bufferCount shapes) 0) shapes = .ok refs ∧
        r.bufferRefMin = fmin refs ∧ r.bufferRefMax = fmax refs := by
  cases shapes with
  | nil =>
    cases h
    exact ⟨rfl, rfl, rfl, rfl, [], rfl, rfl, rfl⟩
  | cons first rest =>
    simp only [ofShapes] at h
    cases hs : sumHits (List.replicate first.bufferRefs.length 0) (first :: rest) with
    | error e =>
      rw [hs] at h
      cases h
    | ok refs =>
      rw [hs] at h
      cases h
      exact ⟨rfl, rfl, rfl, rfl, refs, hs, rfl, rfl⟩

/-- **A report fails exactly on a count of buffers unlike the first kernel's.** -/
theorem ofShapes_eq_error_iff (shapes : List Shape) :
    ofShapes shapes = .error .bufferCountMismatch ↔ ∃ s ∈ shapes, s.bufferRefs.length ≠ bufferCount shapes := by
  cases shapes with
  | nil => simp [ofShapes]
  | cons first rest =>
    have hsum := sumHits_eq_error_iff (List.replicate first.bufferRefs.length 0) (first :: rest)
    rw [List.length_replicate] at hsum
    simp only [ofShapes]
    cases hs : sumHits (List.replicate first.bufferRefs.length 0) (first :: rest) with
    | error e =>
      cases e
      rw [hs] at hsum
      simpa [bufferCount] using hsum
    | ok refs =>
      rw [hs] at hsum
      simp only [reduceCtorEq, false_iff] at hsum
      simpa [bufferCount, bind, Except.bind, pure, Except.pure] using hsum

/-- Without a report failure every kernel counts hits for as many buffers as the first. -/
theorem length_of_ofShapes_eq_ok {shapes : List Shape} {r : Report} (h : ofShapes shapes = .ok r) :
    ∀ s ∈ shapes, s.bufferRefs.length = bufferCount shapes := by
  intro s hs
  by_contra hne
  have herr := (ofShapes_eq_error_iff shapes).mpr ⟨s, hs, hne⟩
  rw [h] at herr
  cases herr

/-! ### Exact sums -/

/-- The hits of buffer `j` added over the kernels, as whole numbers. -/
def bufferHits (shapes : List Shape) (j : Nat) : Int := (shapes.map fun s => s.bufferRefs.getD j 0).sum

/-- The hits of each buffer added over the kernels, in buffer order. -/
def hitTotals (shapes : List Shape) : List Int := (List.range (bufferCount shapes)).map (bufferHits shapes)

/-- Every hit, and every running total of a buffer's hits, is below `2^53` in magnitude. -/
def HitsExact (shapes : List Shape) : Prop :=
  ∀ j, (∀ s ∈ shapes, Exact (s.bufferRefs.getD j 0)) ∧ ∀ m, Exact (bufferHits (shapes.take m) j)

/-- Adding one kernel's hits to whole running sums is exact while each stays below `2^53`. -/
theorem addHits_ofInt {n : Nat} (c : Nat → Int) {hits : List Int} (hl : hits.length = n)
    (hex : ∀ j < n, Exact (c j) ∧ Exact (hits.getD j 0) ∧ Exact (c j + hits.getD j 0)) :
    addHits ((List.range n).map fun j => Float.ofInt (c j)) hits =
      .ok ((List.range n).map fun j => Float.ofInt (c j + hits.getD j 0)) := by
  rw [addHits_of_length (by simp [hl])]
  congr 1
  apply List.ext_getElem (by simp [hl])
  intro j h₁ h₂
  have hj : j < n := by simpa using h₂
  obtain ⟨hc, hh, hch⟩ := hex j hj
  have hg : hits.getD j 0 = hits[j] := by simp [hl, hj]
  simp only [List.getElem_zipWith, List.getElem_map, List.getElem_range]
  rw [← hg, ofInt_add hc hh hch]

/-- **Summing hits stays exact.** From whole running sums `c`, the hits of kernels with `n`
buffers each add up buffer by buffer to the whole sums, while every hit and every running total
stays below `2^53`. -/
theorem sumHits_ofInt {n : Nat} : ∀ (shapes : List Shape) (c : Nat → Int),
    (∀ s ∈ shapes, s.bufferRefs.length = n) → (∀ j < n, ∀ s ∈ shapes, Exact (s.bufferRefs.getD j 0)) →
    (∀ j < n, ∀ m, Exact (c j + bufferHits (shapes.take m) j)) →
    sumHits ((List.range n).map fun j => Float.ofInt (c j)) shapes =
      .ok ((List.range n).map fun j => Float.ofInt (c j + bufferHits shapes j))
  | [], c, _, _, _ => by simp [sumHits, bufferHits]
  | s :: ss, c, hl, hh, hc => by
    -- one kernel's hits move into the running sums, which stay whole
    have hstep := addHits_ofInt c (hl s (by simp)) fun j hj =>
      ⟨by simpa [bufferHits] using hc j hj 0, hh j hj s (by simp), by simpa [bufferHits] using hc j hj 1⟩
    have ih := sumHits_ofInt ss (fun j => c j + s.bufferRefs.getD j 0)
      (fun t ht => hl t (by simp [ht])) (fun j hj t ht => hh j hj t (by simp [ht]))
      (fun j hj m => by simpa [bufferHits, Int.add_assoc] using hc j hj (m + 1))
    simp only [sumHits, hstep, bind, Except.bind, ih, bufferHits, List.map_cons, List.sum_cons, Int.add_assoc]

/-- A hit read at any buffer is a hit of the kernel, or zero. -/
theorem natAbs_getD_le {hits : List Int} {M : Nat} (hb : ∀ h ∈ hits, h.natAbs ≤ M) (j : Nat) :
    (hits.getD j 0).natAbs ≤ M := by
  rw [List.getD_eq_getElem?_getD]
  cases hj : hits[j]? with
  | none => simp
  | some h => exact hb h (List.mem_of_getElem? hj)

/-- Kernels with at most `M` hits on any buffer put at most `K M` on a buffer in all. -/
theorem natAbs_bufferHits_le {M : Nat} :
    ∀ (shapes : List Shape), (∀ s ∈ shapes, ∀ h ∈ s.bufferRefs, h.natAbs ≤ M) →
      ∀ j, (bufferHits shapes j).natAbs ≤ shapes.length * M
  | [], _, j => by simp [bufferHits]
  | s :: ss, hb, j => by
    have hs := natAbs_getD_le (hb s (by simp)) j
    have ih := natAbs_bufferHits_le ss (fun t ht => hb t (by simp [ht])) j
    simp only [bufferHits, List.map_cons, List.sum_cons] at ih ⊢
    calc (s.bufferRefs.getD j 0 + (ss.map fun s : Shape => s.bufferRefs.getD j 0).sum).natAbs
        ≤ (s.bufferRefs.getD j 0).natAbs + ((ss.map fun s : Shape => s.bufferRefs.getD j 0).sum).natAbs :=
          Int.natAbs_add_le _ _
      _ ≤ M + ss.length * M := Nat.add_le_add hs ih
      _ = (s :: ss).length * M := by rw [List.length_cons, Nat.succ_mul, Nat.add_comm]

/-- **Hits are exact while `K` kernels of at most `M` hits a buffer keep `K M` below `2^53`.** -/
theorem hitsExact_of_bound {shapes : List Shape} (M : Nat)
    (hb : ∀ s ∈ shapes, ∀ h ∈ s.bufferRefs, h.natAbs ≤ M) (hM : shapes.length * M < 2 ^ 53) :
    HitsExact shapes := by
  intro j
  refine ⟨fun s hs => ?_, fun m => ?_⟩
  · have hK : 0 < shapes.length := List.length_pos_of_mem hs
    have := natAbs_getD_le (hb s hs) j
    unfold Exact
    nlinarith
  · -- the first `m` kernels are no more than all of them
    have hm : (shapes.take m).length ≤ shapes.length := by
      rw [List.length_take]
      exact Nat.min_le_right _ _
    have := natAbs_bufferHits_le (shapes.take m) (fun s hs => hb s (List.mem_of_mem_take hs)) j
    unfold Exact
    calc (bufferHits (shapes.take m) j).natAbs ≤ (shapes.take m).length * M := this
      _ ≤ shapes.length * M := Nat.mul_le_mul_right _ hm
      _ < 2 ^ 53 := hM

/-! ### Least and greatest -/

/-- Keeping the smaller of two whole doubles keeps the double of the smaller number. -/
theorem ofInt_min_step {x y : Int} (hx : Exact x) (hy : Exact y) :
    (if Float.ofInt y < Float.ofInt x then Float.ofInt y else Float.ofInt x) = Float.ofInt (min x y) := by
  by_cases hyx : y < x
  · rw [if_pos ((ofInt_lt_ofInt hy hx).mpr hyx), min_eq_right hyx.le]
  · rw [if_neg (fun h => hyx ((ofInt_lt_ofInt hy hx).mp h)), min_eq_left (Int.not_lt.mp hyx)]

/-- Keeping the larger of two whole doubles keeps the double of the larger number. -/
theorem ofInt_max_step {x y : Int} (hx : Exact x) (hy : Exact y) :
    (if Float.ofInt x < Float.ofInt y then Float.ofInt y else Float.ofInt x) = Float.ofInt (max x y) := by
  by_cases hxy : x < y
  · rw [if_pos ((ofInt_lt_ofInt hx hy).mpr hxy), max_eq_right hxy.le]
  · rw [if_neg (fun h => hxy ((ofInt_lt_ofInt hx hy).mp h)), max_eq_left (Int.not_lt.mp hxy)]

/-- Running a choice between two whole doubles over a list runs the matching choice over the
numbers, as long as the choice keeps one of its two arguments. -/
theorem foldl_map_ofInt (sel : Float → Float → Float) (f : Int → Int → Int)
    (hsel : ∀ x y, Exact x → Exact y → sel (Float.ofInt x) (Float.ofInt y) = Float.ofInt (f x y))
    (hf : ∀ x y, f x y = x ∨ f x y = y) :
    ∀ (ys : List Int) (m : Int), Exact m → (∀ y ∈ ys, Exact y) →
      (ys.map Float.ofInt).foldl sel (Float.ofInt m) = Float.ofInt (ys.foldl f m)
  | [], _, _, _ => rfl
  | y :: ys, m, hm, hys => by
    have hy := hys y (by simp)
    -- the running choice is one of the numbers seen, so it stays exact
    have hfm : Exact (f m y) := (hf m y).elim (fun e => by rw [e]; exact hm) fun e => by rw [e]; exact hy
    rw [List.map_cons, List.foldl_cons, List.foldl_cons, hsel m y hm hy]
    exact foldl_map_ofInt sel f hsel hf ys _ hfm fun z hz => hys z (by simp [hz])

/-- The least of whole doubles is the double of the least number; zero when there are none. -/
theorem fmin_map_ofInt (xs : List Int) (h : ∀ x ∈ xs, Exact x) :
    fmin (xs.map Float.ofInt) = Float.ofInt (xs.min?.getD 0) := by
  cases xs with
  | nil => rfl
  | cons x xs =>
    rw [List.min?_cons', Option.getD_some, List.map_cons, fmin]
    exact foldl_map_ofInt _ min (fun _ _ hx hy => ofInt_min_step hx hy) min_choice xs x (h x (by simp))
      fun y hy => h y (by simp [hy])

/-- The greatest of whole doubles is the double of the greatest number; zero when there are
none. -/
theorem fmax_map_ofInt (xs : List Int) (h : ∀ x ∈ xs, Exact x) :
    fmax (xs.map Float.ofInt) = Float.ofInt (xs.max?.getD 0) := by
  cases xs with
  | nil => rfl
  | cons x xs =>
    rw [List.max?_cons', Option.getD_some, List.map_cons, fmax]
    exact foldl_map_ofInt _ max (fun _ _ hx hy => ofInt_max_step hx hy) max_choice xs x (h x (by simp))
      fun y hy => h y (by simp [hy])

/-- **With exact hits a report's least and greatest are those of the whole totals.** -/
theorem ofShapes_min_max {shapes : List Shape} {r : Report} (h : ofShapes shapes = .ok r)
    (hx : HitsExact shapes) :
    r.bufferRefMin = Float.ofInt ((hitTotals shapes).min?.getD 0) ∧
      r.bufferRefMax = Float.ofInt ((hitTotals shapes).max?.getD 0) := by
  obtain ⟨-, -, -, -, refs, hrefs, hmin, hmax⟩ := ofShapes_eq_ok h
  -- the sums start at zero, the double of the whole number zero
  have hzero : List.replicate (bufferCount shapes) (0 : Float) =
      (List.range (bufferCount shapes)).map fun _ => Float.ofInt 0 := by
    simp [zero_eq_ofInt]
  have hsum := sumHits_ofInt shapes (fun _ => 0) (length_of_ofShapes_eq_ok h)
    (fun j _ s hs => (hx j).1 s hs) (fun j _ m => by simpa using (hx j).2 m)
  rw [← hzero, hrefs] at hsum
  cases hsum
  have htot : ∀ x ∈ hitTotals shapes, Exact x := by
    intro x hx'
    obtain ⟨j, -, rfl⟩ := List.mem_map.mp hx'
    simpa using (hx j).2 shapes.length
  have hrefs' : ((List.range (bufferCount shapes)).map fun j => Float.ofInt (0 + bufferHits shapes j)) =
      (hitTotals shapes).map Float.ofInt := by
    simp [hitTotals]
  rw [hmin, hmax, hrefs']
  exact ⟨fmin_map_ofInt _ htot, fmax_map_ofInt _ htot⟩

/-! ### Kernels that hit the buffers alike -/

section Uniform

variable {shapes : List Shape} {hs : List Int}

theorem bufferHits_of_uniform (h : ∀ s ∈ shapes, s.bufferRefs = hs) (j : Nat) :
    bufferHits shapes j = shapes.length * hs.getD j 0 := by
  induction shapes with
  | nil => simp [bufferHits]
  | cons s ss ih =>
    have hs' : s.bufferRefs = hs := h s (by simp)
    have hrest := ih fun t ht => h t (by simp [ht])
    simp only [bufferHits, List.map_cons, List.sum_cons] at hrest ⊢
    rw [hrest, hs', List.length_cons]
    push_cast
    ring

theorem bufferCount_of_uniform (h : ∀ s ∈ shapes, s.bufferRefs = hs) (hne : shapes ≠ []) :
    bufferCount shapes = hs.length := by
  obtain ⟨s, ss, rfl⟩ := List.exists_cons_of_ne_nil hne
  simp [bufferCount, h s (by simp)]

/-- Kernels that hit the buffers alike always have a report. -/
theorem ofShapes_ok_of_uniform (h : ∀ s ∈ shapes, s.bufferRefs = hs) : ∃ r, ofShapes shapes = .ok r := by
  cases hr : ofShapes shapes with
  | ok r => exact ⟨r, rfl⟩
  | error e =>
    cases e
    obtain ⟨s, hs', hne⟩ := (ofShapes_eq_error_iff shapes).mp hr
    exact absurd (by rw [h s hs', bufferCount_of_uniform h (List.ne_nil_of_mem hs')]) hne

/-- Kernels that hit the buffers alike add up to their number times one kernel's hits. -/
theorem hitTotals_of_uniform (h : ∀ s ∈ shapes, s.bufferRefs = hs) (hne : shapes ≠ []) :
    hitTotals shapes = hs.map fun x => (shapes.length : Int) * x := by
  rw [hitTotals, bufferCount_of_uniform h hne]
  apply List.ext_getElem (by simp)
  intro j h₁ h₂
  simp only [List.getElem_map, List.getElem_range, bufferHits_of_uniform h]
  simp [List.getD_eq_getElem?_getD, List.getElem?_eq_getElem (by simpa using h₁)]

end Uniform

/-! ### Hits dealt evenly -/

/-- `R` draws dealt over `B` buffers: `R / B` to each and one more to each of the first
`R % B`. -/
def spread (R B : Nat) : List Int :=
  (List.range B).map fun j => ((R / B + if j < R % B then 1 else 0 : Nat) : Int)

theorem natAbs_le_of_mem_spread {R B : Nat} {h : Int} (hh : h ∈ spread R B) : h.natAbs ≤ R / B + 1 := by
  obtain ⟨j, -, rfl⟩ := List.mem_map.mp hh
  rw [Int.natAbs_natCast]
  split <;> omega

/-- Over `K` kernels dealing `R` draws over `B` buffers the least total is `K (R / B)`, on the
last buffer, and the greatest `K (R / B + 1)`, on the first, unless `B` divides `R`. -/
theorem min_max_spread (K R B : Nat) (hB : 0 < B) :
    ((spread R B).map ((K : Int) * ·)).min? = some ((K : Int) * ((R / B : Nat) : Int)) ∧
      ((spread R B).map ((K : Int) * ·)).max? =
        some ((K : Int) * ((R / B + if R % B = 0 then 0 else 1 : Nat) : Int)) := by
  have hK : (0 : Int) ≤ K := Int.natCast_nonneg K
  have hr : R % B < B := Nat.mod_lt R hB
  simp only [spread, List.map_map, Function.comp_def]
  constructor
  · rw [List.min?_eq_some_iff]
    refine ⟨List.mem_map.mpr ⟨B - 1, by simp; omega, by rw [if_neg (by omega)]; simp⟩, ?_⟩
    intro b hb
    obtain ⟨j, -, rfl⟩ := List.mem_map.mp hb
    apply Int.mul_le_mul_of_nonneg_left _ hK
    split <;> omega
  · rw [List.max?_eq_some_iff]
    refine ⟨List.mem_map.mpr ⟨0, by simp; omega, ?_⟩, ?_⟩
    · by_cases h0 : R % B = 0 <;> simp [h0]
    · intro b hb
      obtain ⟨j, -, rfl⟩ := List.mem_map.mp hb
      apply Int.mul_le_mul_of_nonneg_left _ hK
      split <;> split <;> omega

/-- **Evenly dealt hits differ by one per kernel at most.** Over `K` kernels dealing `R` draws
over `B` buffers, the greatest and least totals differ by `K`, or by nothing when `B` divides
`R`; as doubles too, while `K (R / B + 1)` stays below `2^53`. -/
theorem max_sub_min_spread (K R B : Nat) (hB : 0 < B) (hK : K * (R / B + 1) < 2 ^ 53) :
    Float.ofInt (((spread R B).map ((K : Int) * ·)).max?.getD 0) -
        Float.ofInt (((spread R B).map ((K : Int) * ·)).min?.getD 0) =
      Float.ofInt (if R % B = 0 then 0 else K) := by
  obtain ⟨hmin, hmax⟩ := min_max_spread K R B hB
  rw [hmin, hmax, Option.getD_some, Option.getD_some]
  have hd : (K : Int) * ((R / B + if R % B = 0 then 0 else 1 : Nat) : Int) - K * ((R / B : Nat) : Int) =
      if R % B = 0 then 0 else (K : Int) := by
    split <;> push_cast <;> ring
  have hle : ((R / B + if R % B = 0 then 0 else 1 : Nat) : Int) ≤ ((R / B + 1 : Nat) : Int) := by
    split <;> omega
  have hK' : ((K * (R / B + 1) : Nat) : Int) = (K : Int) * ((R / B + 1 : Nat) : Int) := by push_cast; ring
  have hmax' : Exact ((K : Int) * ((R / B + if R % B = 0 then 0 else 1 : Nat) : Int)) :=
    exact_of_le (by positivity) (by rw [hK']; exact Int.mul_le_mul_of_nonneg_left hle (by omega)) hK
  have hmin' : Exact ((K : Int) * ((R / B : Nat) : Int)) :=
    exact_of_le (by positivity) (by rw [hK']; exact Int.mul_le_mul_of_nonneg_left (by omega) (by omega)) hK
  have hdiff : Exact (if R % B = 0 then 0 else (K : Int)) := by
    split
    · exact exact_of_le (Int.le_refl 0) (by omega) hK
    · exact exact_of_le (by omega) (by rw [hK']; exact le_mul_of_one_le_right (by omega) (by exact_mod_cast Nat.le_add_left 1 (R / B))) hK
  rw [ofInt_sub hmax' hmin' (by rw [hd]; exact hdiff), hd]

end Report

namespace Plan

open Report WholeDouble

/-- **Generated kernels spread their hits evenly.** For validated options the report of a run
never fails, and while `K (R / B + 1)` stays below `2^53` its greatest and least hits per buffer
differ by `K` when `B` does not divide the `R` operands each kernel draws, and by nothing when it
does. -/
theorem report_generate {o : Options} {cfg : Config} {p : Plan}
    (ho : Config.ofOptions o = .ok cfg) (hp : ofConfig cfg = .ok p) :
    let R : Nat := cfg.loopNests + (p.entries.map fun e => e.2 * e.1.slots.length).sum
    ∃ r, ofShapes p.generate.shapes = .ok r ∧
      (cfg.kernels * (R / cfg.buffers + 1) < 2 ^ 53 →
        r.bufferRefMax - r.bufferRefMin = Float.ofInt (if R % cfg.buffers = 0 then 0 else cfg.kernels)) := by
  intro R
  obtain ⟨rfl, -, hwf⟩ := plan_ofOptions ho hp
  -- every kernel draws the same `R` operands and deals them alike over the buffers
  have huni : ∀ s ∈ p.generate.shapes, s.bufferRefs = spread R p.config.buffers := by
    intro s hs
    rw [shapes_generate p hwf] at hs
    obtain ⟨k, -, rfl⟩ := List.mem_map.mp hs
    rfl
  have hlen : p.generate.shapes.length = p.config.kernels := by simp [shapes_generate p hwf]
  obtain ⟨r, hr⟩ := ofShapes_ok_of_uniform huni
  refine ⟨r, hr, fun hbound => ?_⟩
  rcases Nat.eq_zero_or_pos p.config.kernels with hK | hK
  · -- no kernels: the report of nothing, all zeros
    rw [hK, List.length_eq_zero_iff] at hlen
    rw [hlen] at hr
    simp only [ofShapes, Except.ok.injEq] at hr
    subst hr
    have h0 : Exact 0 := by decide
    simp only [hK, Nat.cast_zero, ite_self]
    show Float.ofInt 0 - Float.ofInt 0 = _
    rw [ofInt_sub h0 h0 h0, Int.sub_zero]
  · -- no hit, and so no running total, is more than `R / B + 1` a kernel
    have hx : HitsExact p.generate.shapes :=
      hitsExact_of_bound _ (fun s hs h hh => natAbs_le_of_mem_spread (huni s hs ▸ hh)) (by rw [hlen]; exact hbound)
    obtain ⟨hmin, hmax⟩ := ofShapes_min_max hr hx
    rw [hmin, hmax, hitTotals_of_uniform huni (List.ne_nil_of_length_pos (by omega)), hlen]
    exact max_sub_min_spread _ _ _ p.config.buffers_pos hbound

end Plan

namespace Report

end Report
end KernelSynth
