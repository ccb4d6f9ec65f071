/-
# Numbered identifiers

Kernels, buffers and captures are named by a prefix and a number from one:
`kernel_1`, `buffer_2`, `capture_3`. A buffer is read and written through an
accessor named after it with `_acc` appended.

Key definitions: `numbered`, `series`, `Buffer`, `NameSet`.
Key theorems: `length_series`, `getElem_series`.
-/

namespace KernelSynth

/-- The identifier `prefix_i`. -/
def numbered (pre : String) (i : Nat) : String := pre ++ "_" ++ toString i

/-- The identifiers `prefix_1` to `prefix_count`, none when the count is not positive. -/
def series (pre : String) (count : Int) : List String :=
  (List.range count.toNat).map fun i => numbered pre (i + 1)

/-- The prefix of kernel names. -/
def kernelPrefix : String := "kernel"

/-- The prefix of buffer names. -/
def bufferPrefix : String := "buffer"

/-- The prefix of capture names. -/
def capturePrefix : String := "capture"

/-- A buffer and the accessor the kernels reach it through. -/
structure Buffer where
  name : String
  accessor : String
  deriving Repr, DecidableEq

/-- The buffer of a name, with its accessor. -/
def Buffer.ofName (name : String) : Buffer := ⟨name, name ++ "_acc"⟩

/-- The buffers `buffer_1` to `buffer_count`. -/
def buffers (count : Int) : List Buffer := (series bufferPrefix count).map Buffer.ofName

/-- The names a generated source declares: kernels, buffers and captures. -/
structure NameSet where
  kernels : List String
  buffers : List Buffer
  captures : List String

/-- The names for the given counts of kernels, buffers and captures. -/
def NameSet.ofCounts (kernels buffers captures : Nat) : NameSet :=
  ⟨series kernelPrefix kernels, KernelSynth.buffers buffers, series capturePrefix captures⟩

@[simp] theorem length_series (pre : String) (count : Int) :
    (series pre count).length = count.toNat := by
  simp [series]

theorem getElem_series (pre : String) (count : Int) (i : Nat) (h : i < (series pre count).length) :
    (series pre count)[i] = numbered pre (i + 1) := by
  simp [series]

@[simp] theorem length_buffers (count : Int) : (buffers count).length = count.toNat := by
  simp [buffers]

end KernelSynth
