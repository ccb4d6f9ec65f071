/-
# Signed 64-bit words

Counts and sums of counts are signed 64-bit words: a sum that passes the
greatest word goes round to the least. `wrap` maps an integer to the word
that holds it modulo 2^64, in the range from -2^63 to 2^63 - 1.

Powers and the plain sum are written by name (`Nat.pow`, `total`) so that
each definition reads the same whatever instances are in scope.

Key definitions: `Word.wrap`, `Word.sum`, `Word.total`.
Key theorems: `Word.wrap_of_mem`, `Word.sum_eq_wrap`.
-/

namespace KernelSynth
namespace Word

/-- The number of words, 2^64. -/
def modulus : Nat := Nat.pow 2 64

/-- The magnitude of the least word, 2^63: words run from its negation to one below it. -/
def bound : Int := Int.pow 2 63

/-- The word equal to an integer modulo 2^64. -/
def wrap (x : Int) : Int := x.bmod modulus

/-- The sum of integers, without going round. -/
def total : List Int → Int
  | [] => 0
  | x :: xs => x + total xs

@[simp] theorem total_nil : total [] = 0 := rfl

@[simp] theorem total_cons (x : Int) (xs : List Int) : total (x :: xs) = x + total xs := rfl

/-- The sum of words, going round at each step. -/
def sum (xs : List Int) : Int := xs.foldl (fun acc x => wrap (acc + x)) 0

/-- An integer that is already a word is kept. -/
theorem wrap_of_mem (x : Int) (lo : -bound ≤ x) (hi : x < bound) : wrap x = x := by
  exact Int.bmod_eq_of_le lo hi

theorem wrap_add_wrap (a b : Int) : wrap (wrap a + b) = wrap (a + b) :=
  Int.bmod_add_bmod

theorem foldl_wrap (xs : List Int) (a : Int) :
    xs.foldl (fun acc x => wrap (acc + x)) (wrap a) = wrap (a + total xs) := by
  induction xs generalizing a with
  | nil => simp [wrap]
  | cons x xs ih =>
    simp only [List.foldl_cons, total_cons]
    rw [wrap_add_wrap, ← Int.add_assoc]
    have := ih (a + x)
    rw [← this, show wrap (a + x) = wrap (wrap (a + x)) by simp [wrap]]

/-- Summing with wrapping at each step is the sum wrapped once. -/
theorem sum_eq_wrap (xs : List Int) : sum xs = wrap (total xs) := by
  have := foldl_wrap xs 0
  simp only [Int.zero_add] at this
  rw [show wrap 0 = 0 by decide] at this
  exact this

example : sum [bound - 1, 1] = -bound := by decide

end Word
end KernelSynth
