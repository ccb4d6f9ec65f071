/-
# Kernel shapes

The shape of a synthesized kernel says how big it came out: the lines it
took, its loop nests, its instructions, the operands drawn from the
rotation, and how many of those fell on each buffer, in buffer order.

Key definitions: `Shape`.
-/

namespace KernelSynth

/-- The size of one synthesized kernel. -/
structure Shape where
  name : String
  lines : Int
  loopNests : Int
  instructions : Int
  operandRefs : Int
  bufferRefs : List Int
  deriving DecidableEq, Repr

end KernelSynth
