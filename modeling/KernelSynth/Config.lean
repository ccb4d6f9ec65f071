/-
# Options and validated configurations

`Options` is what flags and configuration files fill in: loosely typed, with
defaults. `Config.ofOptions` validates them against the default catalog
extended by the options' own operations:

* if an extra operation is refused, those refusals are the whole answer;
* the number of buffers is pulled into 1 to 16384 and the dimensions into
  1 to 3, each change recorded as a `Clamp`;
* then, in this order, too few kernels, negative captures, negative loop
  nests, an unknown scalar type, and each mix entry with a negative count or
  an opcode the catalog lacks are reported, all of them together.

A configuration that passes holds the options' values, the clamped ones as
applied, and the whole mix, which the catalog then resolves entry by entry.

Key definitions: `Options`, `Options.default`, `Clamp`, `Config`,
`Config.ofOptions`.
Key theorems: `Config.clampInto_le`, `Config.le_clampInto`.
-/
import KernelSynth.Catalog
import KernelSynth.Mix
import KernelSynth.Scalar

namespace KernelSynth

/-- What flags and configuration files fill in, before validation. -/
structure Options where
  kernels : Int
  buffers : Int
  captures : Int
  dimensions : Int
  loopNests : Int
  scalar : String
  mix : Mix
  templated : Bool
  operations : List (String × String)
  deriving Repr

/-- One kernel, two buffers, four captures, one dimension, one loop nest, `float`, ten `mad`
instructions, no template, no extra operations. -/
def Options.default : Options where
  kernels := 1
  buffers := 2
  captures := 4
  dimensions := 1
  loopNests := 1
  scalar := "float"
  mix := [⟨"mad", 10⟩]
  templated := false
  operations := []

/-- A numeric option pulled into its range: which one, the value asked for, the value used. -/
structure Clamp where
  field : String
  requested : Int
  applied : Int
  deriving DecidableEq, Repr

/-- The fewest buffers. -/
def minBuffers : Nat := 1

/-- The most buffers. -/
def maxBuffers : Nat := 16384

/-- The fewest dimensions. -/
def minDimensions : Nat := 1

/-- The most dimensions. -/
def maxDimensions : Nat := 3

/-- A validated configuration. -/
structure Config where
  kernels : Nat
  buffers : Nat
  captures : Nat
  dimensions : Nat
  loopNests : Nat
  scalar : Scalar
  mix : Mix
  templated : Bool
  catalog : Catalog
  clamps : List Clamp
  buffers_pos : 0 < buffers

namespace Config

/-- A value pulled into `lo` to `hi`. -/
def clampInto (lo hi : Nat) (v : Int) : Nat :=
  if v < lo then lo else if (hi : Int) < v then hi else v.toNat

/-- The record of a clamp, when the value changed. -/
def clampRecord (field : String) (lo hi : Nat) (v : Int) : List Clamp :=
  if (clampInto lo hi v : Int) = v then [] else [⟨field, v, clampInto lo hi v⟩]

theorem le_clampInto (lo hi : Nat) (v : Int) (h : lo ≤ hi) : lo ≤ clampInto lo hi v := by
  unfold clampInto
  split
  · exact Nat.le_refl _
  · split
    · exact h
    · omega

theorem clampInto_le (lo hi : Nat) (v : Int) (h : lo ≤ hi) : clampInto lo hi v ≤ hi := by
  unfold clampInto
  split
  · exact h
  · split
    · exact Nat.le_refl _
    · omega

/-- The fault of a mix entry, if its count is negative or the catalog lacks its opcode. -/
def entryFault (c : Catalog) (e : MixEntry) : Option Fault :=
  if e.count < 0 then some (.malformedEntry ⟨e.render, .negative⟩)
  else match c.lookup? e.opcode with
    | some _ => none
    | none => some (.unknownOperation e.opcode)

/-- The faults of options against a catalog, in the order they are reported. -/
def faults (o : Options) (c : Catalog) : List Fault :=
  (if o.kernels < 1 then [.tooFewKernels o.kernels] else []) ++
  (if o.captures < 0 then [.negativeCaptures o.captures] else []) ++
  (if o.loopNests < 0 then [.negativeLoopNests o.loopNests] else []) ++
  (match Scalar.parse o.scalar with
    | .ok _ => []
    | .error f => [f]) ++
  o.mix.filterMap (entryFault c)

/-- Validates options: the configuration they describe, or every fault found. -/
def ofOptions (o : Options) : Except Failure Config :=
  match Catalog.default.extend o.operations with
  | .error fs => .error fs
  | .ok c =>
    match faults o c, Scalar.parse o.scalar with
    | [], .ok s =>
      .ok {
        kernels := o.kernels.toNat
        buffers := clampInto minBuffers maxBuffers o.buffers
        captures := o.captures.toNat
        dimensions := clampInto minDimensions maxDimensions o.dimensions
        loopNests := o.loopNests.toNat
        scalar := s
        mix := o.mix
        templated := o.templated
        catalog := c
        clamps := clampRecord "num_buffers" minBuffers maxBuffers o.buffers ++
          clampRecord "dimensions" minDimensions maxDimensions o.dimensions
        buffers_pos := le_clampInto minBuffers maxBuffers o.buffers (by decide) }
    | [], .error f => .error [f]
    | fs, _ => .error fs

end Config
end KernelSynth
