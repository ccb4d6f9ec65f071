/-
# Shape reports

A `Report` sums up the shapes of a run: how many kernels, their lines in
total and on average, the instructions of the first kernel, the operands
drawn by all of them, and how evenly the draws fell on the buffers. For the
last, the hits per buffer are added up over the kernels (as doubles, buffer
by buffer); their least, greatest, mean and sample standard deviation are
reported. Means add their doubles by eight running sums (`laneSum`), whose
order of additions decides the last bit. The deviation uses the corrected
two-pass sum: with `d = x - mean`
summed in order, `sqrt ((Σd² - (Σd)²/n) / (n - 1))`. With one buffer the mean
is its sum and the deviation zero; with no buffers, or no kernels, every
figure is zero.

All kernels must count hits for as many buffers as the first; otherwise
there is no report.

Counts are summed as 64-bit words. Each double of a report is written as
the shortest decimal that reads back as it (`Report.numeral`).

Key definitions: `Report`, `Report.ofShapes`, `Report.numeral`.
-/
import KernelSynth.Decimal.Shortest
import KernelSynth.Kernel.Shape
import KernelSynth.Word

namespace KernelSynth

/-- The summary of the shapes of a run. -/
structure Report where
  kernels : Int
  totalLines : Int
  meanLinesPerKernel : Float
  instructions : Int
  operandRefs : Int
  bufferRefMean : Float
  bufferRefStdDev : Float
  bufferRefMin : Float
  bufferRefMax : Float

/-- Why shapes cannot be summed up: a kernel counts hits for a different number of buffers
than the first. -/
inductive ReportFault where
  | bufferCountMismatch
  deriving DecidableEq, Repr

/-- The text of a report fault. -/
def ReportFault.message : ReportFault → String
  | .bufferCountMismatch => "floats: destination slice length does not match input"

namespace Report

/-- The report of no kernels: every figure zero. -/
def zero : Report := ⟨0, 0, 0, 0, 0, 0, 0, 0, 0⟩

/-- Adds one kernel's hits to the running sums, buffer by buffer. -/
def addHits (sums : List Float) (hits : List Int) : Except ReportFault (List Float) :=
  if sums.length = hits.length then .ok (List.zipWith (fun s h => s + Float.ofInt h) sums hits)
  else .error .bufferCountMismatch

/-- The hits per buffer added to running sums, kernel by kernel in order. -/
def sumHits : List Float → List Shape → Except ReportFault (List Float)
  | sums, [] => .ok sums
  | sums, s :: ss => do
    let sums' ← addHits sums s.bufferRefs
    sumHits sums' ss

/-- The sum of doubles, from the left. -/
def fsum (xs : List Float) : Float := xs.foldl (· + ·) 0

/-- The doubles at the places `lane`, `lane + 8`, `lane + 16`, ... of a list. -/
def lane (xs : List Float) (lane : Nat) : List Float :=
  (xs.zipIdx.filter fun p => p.2 % 8 = lane).map (·.1)

/-- The sum of doubles as eight running sums compute it. The longest prefix whose length is a
multiple of eight is dealt out in turn to eight sums, each kept from the left. The sums are
folded pairwise (0 with 6, 1 with 7, 2 with 4, 3 with 5); four more doubles, when at least four
are left, go to the first four sums; those fold into two (0 with 2, 1 with 3); two more, when
at least two are left, go to these two; the two are added, and a last double, if one is left,
is added to that. -/
def laneSum (xs : List Float) : Float :=
  let n := xs.length
  let body := xs.take (8 * (n / 8))
  let s := (List.range 8).map fun k => fsum (lane body k)
  let sumAt := fun (k : Nat) => s.getD k 0
  let rest := xs.drop (8 * (n / 8))
  let r := fun (k : Nat) => rest.getD k 0
  let (a0, a1, a2, a3) := (sumAt 0 + sumAt 6, sumAt 1 + sumAt 7, sumAt 2 + sumAt 4, sumAt 3 + sumAt 5)
  let (a0, a1, a2, a3, used) :=
    if 4 ≤ n % 8 then (a0 + r 0, a1 + r 1, a2 + r 2, a3 + r 3, 4) else (a0, a1, a2, a3, 0)
  let (b0, b1) := (a0 + a2, a1 + a3)
  let (b0, b1, used) :=
    if 2 ≤ n % 4 then (b0 + r used, b1 + r (used + 1), used + 2) else (b0, b1, used)
  let total := b0 + b1
  if n % 2 = 1 then total + r used else total

/-- The least of doubles, the first when none is smaller. -/
def fmin : List Float → Float
  | [] => 0
  | x :: xs => xs.foldl (fun m y => if y < m then y else m) x

/-- The greatest of doubles, the first when none is larger. -/
def fmax : List Float → Float
  | [] => 0
  | x :: xs => xs.foldl (fun m y => if m < y then y else m) x

/-- The mean of doubles: their sum by eight running sums, over their count. -/
def fmean (xs : List Float) : Float := laneSum xs / Float.ofNat xs.length

/-- The mean and the sample standard deviation, by the corrected two-pass sum. -/
def meanStdDev (xs : List Float) : Float × Float :=
  let mean := fmean xs
  let (ss, comp) := xs.foldl (fun (acc : Float × Float) x =>
    let d := x - mean
    (acc.1 + d * d, acc.2 + d)) (0, 0)
  let n := Float.ofNat xs.length
  (mean, Float.sqrt ((ss - comp * comp / n) / (n - 1)))

/-- The report of the shapes of a run, in kernel order. -/
def ofShapes (shapes : List Shape) : Except ReportFault Report :=
  match shapes with
  | [] => .ok zero
  | first :: _ => do
    let refs ← sumHits (List.replicate first.bufferRefs.length 0) shapes
    let lines := shapes.map fun s => Float.ofInt s.lines
    let (mean, dev) : Float × Float :=
      match refs with
      | [] => (0, 0)
      | [x] => (x, 0)
      | _ => meanStdDev refs
    pure {
      kernels := shapes.length
      totalLines := Word.sum (shapes.map (·.lines))
      meanLinesPerKernel := fmean lines
      instructions := first.instructions
      operandRefs := Word.sum (shapes.map (·.operandRefs))
      bufferRefMean := mean
      bufferRefStdDev := dev
      bufferRefMin := fmin refs
      bufferRefMax := fmax refs }

/-- How a double of a report is written: a decimal `mantissa · 10^-scale`, or a word for an
infinity or a NaN. -/
inductive Numeral where
  | decimal (mantissa : Int) (scale : Nat)
  | word (text : String)
  deriving DecidableEq, Repr

/-- A double written as its shortest decimal; `NaN`, `+Inf` and `-Inf` otherwise. -/
def numeral (x : Float) : Numeral :=
  match Decimal.shortest x with
  | some d =>
    let m : Int := if d.negative then -(d.digits : Int) else d.digits
    if 0 ≤ d.exponent then .decimal (m * Int.pow 10 d.exponent.toNat) 0
    else .decimal m (-d.exponent).toNat
  | none => if x != x then .word "NaN" else if 0 < x then .word "+Inf" else .word "-Inf"

end Report
end KernelSynth
