/-
# Operand rotation

A `Rotation` hands out accessors in a cycle: each draw returns the accessor
at the current position, moves the position one step forward (back to the
first after the last), counts the draw, and counts a hit for the accessor
drawn. A rotation needs at least one accessor; `start?` refuses an empty list.

Its state is the position, the number of draws and the hits per accessor, so
that kernels can report how often each buffer was touched.

Key definitions: `Rotation.start`, `Rotation.start?`, `Rotation.next`,
`Rotation.drawMany`.
Key theorems: `Rotation.calls_next`, `Rotation.index_next`, `Rotation.hits_next`,
`Rotation.accessors_next`.
-/

namespace KernelSynth

/-- A cycle over a non-empty list of accessors, with its position, draws and hits. -/
structure Rotation where
  accessors : List String
  index : Nat
  calls : Nat
  hits : List Nat
  index_lt : index < accessors.length
  hits_length : hits.length = accessors.length

namespace Rotation

/-- A fresh rotation at the first accessor, with no draws and no hits. -/
def start (accessors : List String) (h : accessors ≠ []) : Rotation where
  accessors := accessors
  index := 0
  calls := 0
  hits := List.replicate accessors.length 0
  index_lt := List.length_pos_iff.mpr h
  hits_length := List.length_replicate

/-- A fresh rotation, or none when there is no accessor to rotate over. -/
def start? (accessors : List String) : Option Rotation :=
  if h : accessors = [] then none else some (start accessors h)

/-- The accessor the next draw returns. -/
def current (r : Rotation) : String :=
  r.accessors.get ⟨r.index, r.index_lt⟩

/-- The rotation after one draw: one step further, one more draw, one more hit for the
accessor drawn. -/
def advance (r : Rotation) : Rotation where
  accessors := r.accessors
  index := (r.index + 1) % r.accessors.length
  calls := r.calls + 1
  hits := r.hits.modify r.index (· + 1)
  index_lt := Nat.mod_lt _ (Nat.lt_of_le_of_lt (Nat.zero_le _) r.index_lt)
  hits_length := by simp [r.hits_length]

/-- Draws an accessor: the current one, and the rotation after the draw. -/
def next (r : Rotation) : String × Rotation := (r.current, r.advance)

/-- Draws `n` accessors in order. -/
def drawMany (r : Rotation) : Nat → List String × Rotation
  | 0 => ([], r)
  | n + 1 =>
    let (rest, r') := r.advance.drawMany n
    (r.current :: rest, r')

@[simp] theorem accessors_next (r : Rotation) : r.next.2.accessors = r.accessors := rfl

@[simp] theorem calls_next (r : Rotation) : r.next.2.calls = r.calls + 1 := rfl

@[simp] theorem index_next (r : Rotation) :
    r.next.2.index = (r.index + 1) % r.accessors.length := rfl

@[simp] theorem hits_next (r : Rotation) : r.next.2.hits = r.hits.modify r.index (· + 1) := rfl

@[simp] theorem fst_next (r : Rotation) : r.next.1 = r.current := rfl

@[simp] theorem accessors_start (a : List String) (h : a ≠ []) : (start a h).accessors = a := rfl

@[simp] theorem calls_start (a : List String) (h : a ≠ []) : (start a h).calls = 0 := rfl

@[simp] theorem index_start (a : List String) (h : a ≠ []) : (start a h).index = 0 := rfl

@[simp] theorem hits_start (a : List String) (h : a ≠ []) :
    (start a h).hits = List.replicate a.length 0 := rfl

theorem accessors_drawMany (r : Rotation) (n : Nat) : (r.drawMany n).2.accessors = r.accessors := by
  induction n generalizing r with
  | zero => rfl
  | succ n ih => simp only [drawMany]; rw [ih]; rfl

theorem calls_drawMany (r : Rotation) (n : Nat) : (r.drawMany n).2.calls = r.calls + n := by
  induction n generalizing r with
  | zero => rfl
  | succ n ih => simp only [drawMany]; rw [ih]; simp [advance]; omega

theorem length_drawMany (r : Rotation) (n : Nat) : (r.drawMany n).1.length = n := by
  induction n generalizing r with
  | zero => rfl
  | succ n ih => simp [drawMany, ih]

end Rotation
end KernelSynth
