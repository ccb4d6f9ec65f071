/-
# Rotations after many draws

Each draw moves a rotation one step, so a run of `n` draws is `advance`
iterated `n` times, and where the run ends is arithmetic on the position:
from position `i` over `b` accessors the rotation stands at `(i + n) % b`,
has counted `n` more draws, and has hit accessor `j` once more for every
`q < n` with `(i + q) % b = j`. Hits are counted one per draw, so they add
up to the draws. From a fresh rotation every accessor is hit `n / b` times
and the first `n % b` once more, so no two counts differ by more than one.

Key theorems: `Rotation.drawMany_eq`, `Rotation.current_iterate`,
`Rotation.hits_iterate`, `Rotation.sum_hits_iterate`, `Rotation.hits_iterate_start`,
`Rotation.drawMany_start`.
-/
import Mathlib
import KernelSynth.Rotation

namespace KernelSynth
namespace Rotation

@[simp] theorem accessors_advance (r : Rotation) : r.advance.accessors = r.accessors := rfl

@[simp] theorem index_advance (r : Rotation) :
    r.advance.index = (r.index + 1) % r.accessors.length := rfl

@[simp] theorem calls_advance (r : Rotation) : r.advance.calls = r.calls + 1 := rfl

@[simp] theorem hits_advance (r : Rotation) : r.advance.hits = r.hits.modify r.index (· + 1) := rfl

theorem current_eq_getD (r : Rotation) : r.current = r.accessors.getD r.index "" := by
  simp [current, List.getD_eq_getElem?_getD, r.index_lt]

/-! ### A run of draws -/

@[simp] theorem accessors_iterate (r : Rotation) (n : Nat) :
    (advance^[n] r).accessors = r.accessors := by
  induction n with
  | zero => rfl
  | succ n ih => rw [Function.iterate_succ_apply', accessors_advance, ih]

theorem calls_iterate (r : Rotation) (n : Nat) : (advance^[n] r).calls = r.calls + n := by
  induction n with
  | zero => rfl
  | succ n ih => rw [Function.iterate_succ_apply', calls_advance, ih, Nat.add_assoc]

theorem index_iterate (r : Rotation) (n : Nat) :
    (advance^[n] r).index = (r.index + n) % r.accessors.length := by
  induction n with
  | zero => exact (Nat.mod_eq_of_lt r.index_lt).symm
  | succ n ih =>
    rw [Function.iterate_succ_apply', index_advance, ih, accessors_iterate, Nat.mod_add_mod,
      Nat.add_assoc]

/-- The `n`-th draw of a run returns the accessor `n` places after the start, cyclically. -/
theorem current_iterate (r : Rotation) (n : Nat) :
    (advance^[n] r).current = r.accessors.getD ((r.index + n) % r.accessors.length) "" := by
  rw [current_eq_getD, index_iterate, accessors_iterate]

/-- Drawing `n` accessors is the run of `n` draws, each returning its current accessor. -/
theorem drawMany_eq (r : Rotation) (n : Nat) :
    r.drawMany n = ((List.range n).map fun q => (advance^[q] r).current, advance^[n] r) := by
  induction n generalizing r with
  | zero => rfl
  | succ n ih =>
    simp only [drawMany, ih, List.range_succ_eq_map, List.map_cons, List.map_map]
    -- both sides start with the current accessor and continue from `r.advance`
    rfl

/-! ### Hits -/

/-- Accessor `j` is hit once for every draw of the run that falls on it. -/
theorem hits_iterate (r : Rotation) (n : Nat) :
    (advance^[n] r).hits = (List.range r.accessors.length).map fun j =>
      r.hits.getD j 0 + Nat.count (fun q => (r.index + q) % r.accessors.length = j) n := by
  induction n with
  | zero =>
    apply List.ext_getElem (by simp [r.hits_length])
    intro j _ h
    simp [List.getD_eq_getElem?_getD, r.hits_length, List.length_range.symm ▸ List.length_map _ ▸ h]
  | succ n ih =>
    rw [Function.iterate_succ_apply', hits_advance, ih, index_iterate]
    apply List.ext_getElem (by simp)
    intro j _ _
    simp only [List.getElem_modify, List.getElem_map, List.getElem_range, Nat.count_succ]
    split <;> simp_all
    omega

/-- A draw adds one hit in all, so the hits of a run add up to its draws. -/
theorem sum_hits_iterate (r : Rotation) (n : Nat) :
    (advance^[n] r).hits.sum = r.hits.sum + n := by
  induction n with
  | zero => rfl
  | succ n ih =>
    have hi : (advance^[n] r).index < (advance^[n] r).hits.length := by
      rw [(advance^[n] r).hits_length]
      exact (advance^[n] r).index_lt
    have hsplit := List.modify_eq_take_cons_drop (f := (· + 1)) hi
    have hl := List.take_append_drop ((advance^[n] r).index) (advance^[n] r).hits
    rw [List.drop_eq_getElem_cons hi] at hl
    rw [Function.iterate_succ_apply', hits_advance, hsplit]
    rw [← hl, List.sum_append, List.sum_cons] at ih
    rw [List.sum_append, List.sum_cons]
    omega

/-- From a fresh rotation over `b` accessors, `n` draws hit each accessor `n / b` times and
the first `n % b` of them once more. -/
theorem hits_iterate_start (a : List String) (h : a ≠ []) (n : Nat) :
    (advance^[n] (start a h)).hits =
      (List.range a.length).map fun j => n / a.length + if j < n % a.length then 1 else 0 := by
  have hpos : 0 < a.length := List.length_pos_iff.mpr h
  rw [hits_iterate]
  apply List.map_congr_left
  intro j hj
  have hj : j < a.length := List.mem_range.mp hj
  have hcount : Nat.count (fun q => q % a.length = j) n = Nat.count (· ≡ j [MOD a.length]) n := by
    congr 1
    funext q
    simp [Nat.ModEq, Nat.mod_eq_of_lt hj]
  simp only [accessors_start, index_start, hits_start, Nat.zero_add, hcount,
    Nat.count_modEq_card n hpos j, Nat.mod_eq_of_lt hj]
  split <;> simp

/-- **Draws from a fresh rotation.** Over `N` accessors, the `t`-th of `n` draws returns
accessor `t % N`; after them the rotation stands at `n % N`, below `N`, has counted `n` draws,
and has hit accessor `j` `n / N` times and once more when `j < n % N`, so that the hits add up
to `n` and no two of them differ by more than one. -/
theorem drawMany_start (a : List String) (h : a ≠ []) (n : Nat) :
    ((start a h).drawMany n).1 =
        (List.range n).map (fun t => a.get ⟨t % a.length, Nat.mod_lt _ (List.length_pos_iff.mpr h)⟩) ∧
      ((start a h).drawMany n).2.index = n % a.length ∧
      ((start a h).drawMany n).2.index < a.length ∧
      ((start a h).drawMany n).2.calls = n ∧
      ((start a h).drawMany n).2.hits =
        (List.range a.length).map (fun j => n / a.length + if j < n % a.length then 1 else 0) ∧
      ((start a h).drawMany n).2.hits.sum = n ∧
      ∀ x ∈ ((start a h).drawMany n).2.hits, ∀ y ∈ ((start a h).drawMany n).2.hits, x ≤ y + 1 := by
  have hpos : 0 < a.length := List.length_pos_iff.mpr h
  have hhits := hits_iterate_start a h n
  rw [drawMany_eq]
  refine ⟨?_, ?_, ?_, ?_, hhits, ?_, ?_⟩
  · apply List.map_congr_left
    intro t _
    rw [current_iterate]
    simp [Nat.mod_lt _ hpos]
  · simp [index_iterate]
  · simpa using (advance^[n] (start a h)).index_lt
  · simp [calls_iterate]
  · simp [sum_hits_iterate]
  · -- every count is `n / N` or one more
    rw [hhits]
    intro x hx y hy
    obtain ⟨i, _, rfl⟩ := List.mem_map.mp hx
    obtain ⟨j, _, rfl⟩ := List.mem_map.mp hy
    split <;> split <;> omega

/-- Seven draws over three accessors go round twice and hit the first accessor once more. -/
theorem drawMany_start_seven :
    ["a", "b", "c"] ≠ [] ∧ ((start ["a", "b", "c"] (by simp)).drawMany 7).2.hits = [3, 2, 2] :=
  ⟨by simp, by rw [(drawMany_start ["a", "b", "c"] (by simp) 7).2.2.2.2.1]; rfl⟩

end Rotation
end KernelSynth
