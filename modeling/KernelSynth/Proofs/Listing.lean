/-
# Runs of lines at known depths

`Listing.rendered` writes a run of lines from a depth and `Listing.depthAfter`
is the depth the run leaves; a run appended to another starts from the depth
the first leaves. A line's braces decide its depth: a line that balances them
is written at the depth it finds and keeps it, a line that opens one more than
it closes is written there and raises the depth by one, and a line that closes
one more is written one level out and lowers it. Rendering only adds indent, so
when the indent is `Braceless` (it holds neither brace) the braces of the
written text are those of the lines. Numerals, and text joined from braceless
pieces, are braceless.

Key theorems: `Listing.rendered_append`, `Listing.rendered_level`,
`Listing.rendered_opening`, `Listing.rendered_closing`, `braceBalance_linesText`,
`Listing.braceBalance_rendered`.
-/
import Mathlib
import KernelSynth.Kernel.Synthesis

namespace KernelSynth

/-! ### Braces of text -/

@[simp] theorem opening_append (a b : String) : opening (a ++ b) = opening a + opening b := by
  simp [opening]

@[simp] theorem closing_append (a b : String) : closing (a ++ b) = closing a + closing b := by
  simp [closing]

theorem braceBalance_append (a b : String) :
    braceBalance (a ++ b) = braceBalance a + braceBalance b := by
  simp only [braceBalance, opening_append, closing_append]
  omega

/-- A numeral holds no character but digits. -/
theorem count_toDigits (n : Nat) (c : Char) (hc : c.isDigit = false) :
    (Nat.toDigits 10 n).count c = 0 := by
  rw [List.count_eq_zero]
  intro h
  have := Nat.isDigit_of_mem_toDigits (by decide) (by decide) h
  simp_all

theorem count_toString (n : Nat) {c : Char} (hc : c.isDigit = false) : (toString n).toList.count c = 0 := by
  simp [count_toDigits _ _ hc]

theorem count_intercalate_eq_zero (x : Char) (sep : List Char) (hs : sep.count x = 0) :
    ∀ (ls : List (List Char)), (∀ l ∈ ls, l.count x = 0) → (sep.intercalate ls).count x = 0
  | [], _ => rfl
  | [l], h => by simpa using h
  | l :: l' :: ls, h => by
    rw [List.intercalate_cons_cons, List.count_append, List.count_append, hs,
      h l (by simp), count_intercalate_eq_zero x sep hs (l' :: ls) (fun m hm => h m (by simp [hm]))]

theorem count_intercalate (sep : String) (ls : List String) {c : Char} (hs : sep.toList.count c = 0)
    (h : ∀ l ∈ ls, l.toList.count c = 0) : (sep.intercalate ls).toList.count c = 0 := by
  rw [String.toList_intercalate]
  apply count_intercalate_eq_zero c _ hs
  simp only [List.mem_map]
  rintro _ ⟨l, hl, rfl⟩
  exact h l hl

/-- Text with neither brace: written into a line, it leaves the line's balance as it is. -/
def Braceless (x : String) : Prop := opening x = 0 ∧ closing x = 0

instance (x : String) : Decidable (Braceless x) :=
  inferInstanceAs (Decidable (opening x = 0 ∧ closing x = 0))

theorem Braceless.braceBalance_eq {x : String} (h : Braceless x) : braceBalance x = 0 := by
  simp [braceBalance, h.1, h.2]

theorem braceless_append {a b : String} : Braceless (a ++ b) ↔ Braceless a ∧ Braceless b := by
  simp only [Braceless, opening_append, closing_append, Nat.add_eq_zero_iff]
  exact and_and_and_comm

theorem braceless_toString (n : Nat) : Braceless (toString n) :=
  ⟨count_toString n (by decide), count_toString n (by decide)⟩

theorem Braceless.intercalate {sep : String} {ls : List String} (hs : Braceless sep)
    (h : ∀ l ∈ ls, Braceless l) : Braceless (sep.intercalate ls) :=
  ⟨count_intercalate sep ls hs.1 fun l hl => (h l hl).1,
    count_intercalate sep ls hs.2 fun l hl => (h l hl).2⟩

/-- The characters of lines written one after another, each ended by a line feed, are theirs
and the line feeds. -/
theorem count_linesText {c : Char} (hc : c ≠ '\n') (lines : List String) :
    (linesText lines).toList.count c = (lines.map fun l => l.toList.count c).sum := by
  induction lines with
  | nil => rfl
  | cons x xs ih =>
    simp only [linesText, List.map_cons, String.join_cons, List.sum_cons] at ih ⊢
    rw [String.toList_append, String.toList_append, List.count_append, List.count_append, ih]
    simp [hc.symm]

/-- The balance of lines written one after another is the sum of theirs. -/
theorem braceBalance_linesText (lines : List String) :
    braceBalance (linesText lines) = (lines.map braceBalance).sum := by
  rw [braceBalance, opening, closing, count_linesText (by decide), count_linesText (by decide)]
  induction lines with
  | nil => rfl
  | cons x xs ih =>
    simp only [List.map_cons, List.sum_cons, Nat.cast_add] at ih ⊢
    rw [← ih, braceBalance, opening, closing]
    omega

namespace Listing

/-! ### Runs of lines -/

theorem rendered_append (indent : String) :
    ∀ (d : Nat) (xs ys : List String),
      rendered indent d (xs ++ ys) = rendered indent d xs ++ rendered indent (depthAfter d xs) ys
  | _, [], _ => rfl
  | d, x :: xs, ys => by
    simp only [List.cons_append, rendered, depthAfter, rendered_append indent _ xs ys]

theorem depthAfter_append : ∀ (d : Nat) (xs ys : List String),
    depthAfter d (xs ++ ys) = depthAfter (depthAfter d xs) ys
  | _, [], _ => rfl
  | d, x :: xs, ys => depthAfter_append (nextDepth d x) xs ys

theorem length_rendered (indent : String) : ∀ (d : Nat) (xs : List String),
    (rendered indent d xs).length = xs.length
  | _, [] => rfl
  | d, x :: xs => by simp [rendered, length_rendered indent _ xs]

theorem lineDepth_of_nonneg {x : String} (h : 0 ≤ braceBalance x) (d : Nat) : lineDepth d x = d := by
  simp [lineDepth, Int.toNat_eq_zero.mpr (by omega : -braceBalance x ≤ 0)]

theorem nextDepth_of_nonneg {x : String} (h : 0 ≤ braceBalance x) (d : Nat) :
    nextDepth d x = d + (braceBalance x).toNat := by
  rw [nextDepth, lineDepth_of_nonneg h]

/-- A line that closes one brace more than it opens is written one level out. -/
theorem lineDepth_of_close {x : String} (h : braceBalance x = -1) (d : Nat) : lineDepth (d + 1) x = d := by
  simp [lineDepth, h]

theorem nextDepth_of_close {x : String} (h : braceBalance x = -1) (d : Nat) : nextDepth (d + 1) x = d := by
  simp [nextDepth, lineDepth_of_close h, h]

/-- Lines that balance their braces are all written at the depth they find. -/
theorem rendered_level (indent : String) (d : Nat) :
    ∀ (xs : List String), (∀ x ∈ xs, braceBalance x = 0) →
      rendered indent d xs = xs.map (render indent d) ∧ depthAfter d xs = d
  | [], _ => ⟨rfl, rfl⟩
  | x :: xs, h => by
    have hx : braceBalance x = 0 := h x (by simp)
    have hn : nextDepth d x = d := by simp [nextDepth_of_nonneg (by omega : 0 ≤ braceBalance x), hx]
    obtain ⟨h1, h2⟩ := rendered_level indent d xs (fun y hy => h y (by simp [hy]))
    simp only [rendered, depthAfter, List.map_cons, lineDepth_of_nonneg (by omega : 0 ≤ braceBalance x),
      hn, h1, h2, and_self]

/-- Lines that each open one brace more than they close climb one level each. -/
theorem rendered_opening (indent : String) (d : Nat) (f : Nat → String)
    (h : ∀ i, braceBalance (f i) = 1) (n : Nat) :
    rendered indent d ((List.range n).map f) = (List.range n).map (fun i => render indent (d + i) (f i)) ∧
      depthAfter d ((List.range n).map f) = d + n := by
  induction n with
  | zero => exact ⟨rfl, rfl⟩
  | succ n ih =>
    have hf : 0 ≤ braceBalance (f n) := by rw [h n]; omega
    simp only [List.range_succ, List.map_append, List.map_cons, List.map_nil, rendered_append,
      depthAfter_append, ih.1, ih.2, rendered, depthAfter, lineDepth_of_nonneg hf,
      nextDepth_of_nonneg hf, h n]
    refine ⟨trivial, ?_⟩
    simp only [Int.toNat_one]
    omega

/-- Closing lines written from `d + n` step back out to `d`, the `j`-th at `d + n - 1 - j`. -/
theorem rendered_closing (indent : String) (d : Nat) {x : String} (h : braceBalance x = -1) (n : Nat) :
    rendered indent (d + n) (List.replicate n x) =
        (List.range n).map (fun j => render indent (d + n - 1 - j) x) ∧
      depthAfter (d + n) (List.replicate n x) = d := by
  induction n with
  | zero => exact ⟨rfl, rfl⟩
  | succ n ih =>
    have hs : d + (n + 1) = (d + n) + 1 := by omega
    simp only [List.replicate_succ, rendered, depthAfter, hs, lineDepth_of_close h,
      nextDepth_of_close h, ih.1, ih.2, List.range_succ_eq_map, List.map_cons, List.map_map]
    refine ⟨List.cons_eq_cons.mpr ⟨?_, ?_⟩, trivial⟩
    · congr 1
    · apply List.map_congr_left
      intro j _
      simp only [Function.comp_apply]
      congr 1
      omega

/-! ### Braces of written lines -/

/-- Rendering adds only the indent, so with a braceless indent a line keeps its balance. -/
theorem braceBalance_render {indent : String} (hi : Braceless indent) (d : Nat) (x : String) :
    braceBalance (render indent d x) = braceBalance x := by
  unfold render
  split
  · -- an empty line is written empty
    rename_i hx
    rw [hx]
  · rw [braceBalance_append, (show Braceless (String.join (List.replicate d indent)) from ?_).braceBalance_eq,
      zero_add]
    induction d with
    | zero => exact ⟨rfl, rfl⟩
    | succ d ih =>
      rw [List.replicate_succ, String.join_cons, braceless_append]
      exact ⟨hi, ih⟩

theorem braceBalance_rendered {indent : String} (hi : Braceless indent) :
    ∀ (d : Nat) (xs : List String), (rendered indent d xs).map braceBalance = xs.map braceBalance
  | _, [] => rfl
  | d, x :: xs => by
    simp only [rendered, List.map_cons, braceBalance_render hi, braceBalance_rendered hi _ xs]

end Listing
end KernelSynth
