/-
# A listing after any sequence of calls

A call writes a line or a blank line. Each appends exactly one line and leaves
the lines before it as they were (`lines_perform`): a blank line and an empty
written line stay empty, and any other line is written after the indent once
per level of the depth it selects, which is the depth before it when the line
closes no more braces than it opens, and otherwise that depth lowered by the
excess, not below zero (`Call.appended`).

The depth after a call is the depth before it moved by the call's net braces
and cut at zero (`depth_perform`). From a fresh listing the depth is therefore
a walk reflected at zero: with `S k` the net braces of the first `k` calls, the
depth after `n` calls is the greatest `S n - S k` over `k ≤ n`
(`depth_performAll`), which is `S n` itself when no prefix leaves more braces
closed than opened.

Key definitions: `Listing.Call.net`, `Listing.netOf`, `Listing.Call.appended`.
Key theorems: `Listing.lines_perform`, `Listing.depth_perform`,
`Listing.depth_performAll`, `Listing.performAll_lines_depth`.
-/
import Mathlib
import KernelSynth.Listing

namespace KernelSynth
namespace Listing

/-! ### Net braces of calls -/

/-- The braces a call leaves open: a written line's opening braces less its closing ones, and
none for a blank line. -/
def Call.net : Call → Int
  | .write line => braceBalance line
  | .blank => 0

/-- The braces a run of calls leaves open. -/
def netOf (cs : List Call) : Int := (cs.map Call.net).sum

@[simp] theorem netOf_nil : netOf [] = 0 := rfl

@[simp] theorem netOf_append (cs ds : List Call) : netOf (cs ++ ds) = netOf cs + netOf ds := by
  simp [netOf]

@[simp] theorem netOf_singleton (c : Call) : netOf [c] = c.net := by
  simp [netOf]

/-! ### One call -/

/-- The line a call appends at depth `d`: nothing for a blank line or an empty one; any other
line after `indent` once per level of `d`, or of `d` lowered by the line's excess of closing
braces and cut at zero. -/
def Call.appended (indent : String) (d : Nat) : Call → String
  | .blank => ""
  | .write line =>
    if line = "" then ""
    else
      let level := if 0 ≤ braceBalance line then d else ((d : Int) + braceBalance line).toNat
      String.join (List.replicate level indent) ++ line

@[simp] theorem perform_write (l : Listing) (line : String) : l.perform (.write line) = l.write line :=
  rfl

@[simp] theorem perform_blank (l : Listing) : l.perform .blank = l.blank := rfl

@[simp] theorem indent_perform (l : Listing) (c : Call) : (l.perform c).indent = l.indent := by
  cases c <;> rfl

theorem lineDepth_eq (d : Nat) (line : String) :
    lineDepth d line = if 0 ≤ braceBalance line then d else ((d : Int) + braceBalance line).toNat := by
  unfold lineDepth
  split <;> omega

/-- A line moves the depth by its net braces, never below zero. -/
theorem nextDepth_eq (d : Nat) (line : String) :
    (nextDepth d line : Int) = max 0 (d + braceBalance line) := by
  unfold nextDepth lineDepth
  omega

/-- Each call appends exactly one line and leaves those before it as they were. -/
theorem lines_perform (l : Listing) (c : Call) :
    (l.perform c).lines.toList = l.lines.toList ++ [c.appended l.indent l.depth] := by
  cases c with
  | blank => simp [Call.appended]
  | write line => rw [perform_write, lines_write, render, Call.appended, lineDepth_eq]

/-- The depth after a call is the depth before it moved by the call's net braces, cut at zero. -/
theorem depth_perform (l : Listing) (c : Call) :
    ((l.perform c).depth : Int) = max 0 (l.depth + c.net) := by
  cases c with
  | blank => simp [Call.net]
  | write line => exact nextDepth_eq l.depth line

/-! ### Runs of calls -/

theorem performAll_concat (l : Listing) (cs : List Call) (c : Call) :
    l.performAll (cs ++ [c]) = (l.performAll cs).perform c := by
  simp [performAll, List.foldl_append]

@[simp] theorem indent_performAll (l : Listing) (cs : List Call) :
    (l.performAll cs).indent = l.indent := by
  induction cs using List.reverseRecOn with
  | nil => rfl
  | append_singleton cs c ih => rw [performAll_concat, indent_perform, ih]

/-- One line per call. -/
theorem size_performAll (l : Listing) (cs : List Call) :
    (l.performAll cs).lines.size = l.lines.size + cs.length := by
  induction cs using List.reverseRecOn with
  | nil => rfl
  | append_singleton cs c ih =>
    have h := congrArg List.length (lines_perform (l.performAll cs) c)
    simp only [Array.length_toList, List.length_append, List.length_singleton] at h
    rw [performAll_concat, h, ih, List.length_append, List.length_singleton, Nat.add_assoc]

/-- From a fresh listing, the depth after calls is the greatest drop `S n - S k` of their net
braces over a prefix of `k ≤ n` of them. The step: a new call shifts every earlier drop by its
net braces and adds the drop `0` of the whole run, while the depth moves by the same amount and
is cut at zero. -/
theorem depth_performAll (indent : String) (cs : List Call) :
    IsGreatest ((fun k => netOf cs - netOf (cs.take k)) '' Set.Iic cs.length)
      ((empty indent).performAll cs).depth := by
  induction cs using List.reverseRecOn with
  | nil => simp [performAll, IsGreatest, upperBounds]
  | append_singleton cs c ih =>
    obtain ⟨⟨k, hk, hdk⟩, hub⟩ := ih
    have hk : k ≤ cs.length := hk
    have hdk : netOf cs - netOf (cs.take k) = ((empty indent).performAll cs).depth := hdk
    -- a prefix of the longer run that stops within `cs` is a prefix of `cs`
    have htake : ∀ j ≤ cs.length, (cs ++ [c]).take j = cs.take j := fun j hj =>
      List.take_append_of_le_length hj
    have hlast : (cs ++ [c]).take (cs.length + 1) = cs ++ [c] := by simp
    rw [performAll_concat, depth_perform]
    refine ⟨?_, ?_⟩
    · by_cases hpos : 0 ≤ (((empty indent).performAll cs).depth : Int) + c.net
      · refine ⟨k, by simp only [Set.mem_Iic, List.length_append]; omega, ?_⟩
        simp only [htake k hk, netOf_append, netOf_singleton]
        omega
      · refine ⟨cs.length + 1, by simp, ?_⟩
        simp only [hlast]
        omega
    · rintro _ ⟨j, hj, rfl⟩
      have hj : j ≤ cs.length + 1 := by simpa using hj
      rcases Nat.lt_or_ge j (cs.length + 1) with hlt | hge
      · have hdrop : netOf cs - netOf (cs.take j) ≤ ((empty indent).performAll cs).depth :=
          hub ⟨j, Nat.lt_succ_iff.mp hlt, rfl⟩
        simp only [htake j (Nat.lt_succ_iff.mp hlt), netOf_append, netOf_singleton]
        omega
      · simp only [show j = cs.length + 1 by omega, hlast]
        omega

/-- When no prefix of the calls leaves more braces closed than opened, the depth is their net
braces. -/
theorem depth_performAll_of_nonneg (indent : String) (cs : List Call)
    (h : ∀ k ≤ cs.length, 0 ≤ netOf (cs.take k)) :
    (((empty indent).performAll cs).depth : Int) = netOf cs := by
  obtain ⟨⟨k, hk, hdk⟩, hub⟩ := depth_performAll indent cs
  have hdk : netOf cs - netOf (cs.take k) = ((empty indent).performAll cs).depth := hdk
  have hwhole : netOf cs ≤ ((empty indent).performAll cs).depth :=
    hub ⟨0, Nat.zero_le _, by simp⟩
  have hprefix := h k hk
  omega

/-- **A listing after any calls.** From a fresh listing with any indent: the depth after the
calls is the greatest drop of their net braces over a prefix, so their net braces when no prefix
is negative; there is one line per call; and each call appends one line, the one
`Call.appended` gives at the depth it finds, to the lines before it. -/
theorem performAll_lines_depth (indent : String) (cs : List Call) :
    IsGreatest ((fun k => netOf cs - netOf (cs.take k)) '' Set.Iic cs.length)
        ((empty indent).performAll cs).depth ∧
      ((∀ k ≤ cs.length, 0 ≤ netOf (cs.take k)) →
        (((empty indent).performAll cs).depth : Int) = netOf cs) ∧
      ((empty indent).performAll cs).lines.size = cs.length ∧
      ∀ c, ((empty indent).performAll (cs ++ [c])).lines.toList =
        ((empty indent).performAll cs).lines.toList ++
          [c.appended indent ((empty indent).performAll cs).depth] := by
  refine ⟨depth_performAll indent cs, depth_performAll_of_nonneg indent cs,
    by simp [size_performAll, empty], fun c => ?_⟩
  rw [performAll_concat, lines_perform, indent_performAll]
  rfl

/-- A line that opens a brace and one that closes it leave the depth where it started. -/
theorem performAll_lines_depth_open_close :
    (∀ k ≤ 2, 0 ≤ netOf ([Call.write "a \x7b", Call.write "\x7d"].take k)) ∧
      (((empty "  ").performAll [Call.write "a \x7b", Call.write "\x7d"]).depth : Int) =
        netOf [Call.write "a \x7b", Call.write "\x7d"] :=
  ⟨by decide, (performAll_lines_depth "  " [Call.write "a \x7b", Call.write "\x7d"]).2.1 (by decide)⟩

end Listing
end KernelSynth
