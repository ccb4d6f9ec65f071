/-
# What a session's shared rotation counts

A session keeps one listing and one rotation across its commands. Only three
commands draw from that rotation: `next` once, `expand` once per slot of the
catalog operation it writes, and `kernelShared` once per loop and per slot of
every instruction of its block (`Session.draws`). So after any commands the
shared rotation is the fresh one advanced by all their draws
(`rotation_after`): it has counted that many, stands at their number modulo
`B`, and has hit each buffer once for every draw that fell on it. A kernel
written with a fresh rotation leaves the shared one alone. Each kernel's
shape is read off its own block: the lines it added, its draws, and the hits
of those draws alone, which add up to them, whatever came before.

Key definitions: `Session.draws`, `Session.totalDraws`, `Session.after`.
Key theorems: `Session.rotation_perform`, `Session.getElem?_runAll`,
`Session.rotation_after`, `Session.shape_kernel`, `Session.shape_kernelShared`,
`Session.session_draws`.
-/
import Mathlib
import KernelSynth.Session
import KernelSynth.Proofs.Safety

namespace KernelSynth

open Rotation

namespace Plan

/-- A block written into a listing, as its lines, the rotation it leaves and its shape. -/
theorem synthesize_eq (p : Plan) (l : Listing) (kernel : String) (r : Rotation) :
    p.synthesize l kernel r =
      (l.writeAll (p.block kernel r).1, (p.block kernel r).2,
        { name := kernel
          lines := (p.block kernel r).1.length
          loopNests := p.config.loopNests
          instructions := instructionCount p.entries
          operandRefs := ((p.block kernel r).2.calls : Int) - r.calls
          bufferRefs := hitsAdded r.hits (p.block kernel r).2.hits }) := rfl

/-- The hits a run of draws adds: for each accessor, the draws of the run that fall on it. -/
theorem hitsAdded_iterate (r : Rotation) (n : Nat) :
    hitsAdded r.hits (advance^[n] r).hits = (List.range r.accessors.length).map fun j =>
      (Nat.count (fun q => (r.index + q) % r.accessors.length = j) n : Int) := by
  rw [hits_iterate]
  apply List.ext_getElem (by simp [hitsAdded, r.hits_length])
  intro j h1 _
  have hj : j < r.hits.length := by simpa [hitsAdded, r.hits_length] using h1
  simp [hitsAdded, List.getD_eq_getElem?_getD, hj]

/-- The hits a run of draws adds add up to its draws. -/
theorem sum_hitsAdded (r : Rotation) (n : Nat) :
    (hitsAdded r.hits (advance^[n] r).hits).sum = n := by
  have hsum := sum_hits_iterate r n
  have hlen : (advance^[n] r).hits.length = r.hits.length := by
    rw [(advance^[n] r).hits_length, r.hits_length, accessors_iterate]
  -- the differences of two lists of one length add up to the difference of their sums
  have hsub : ∀ (xs ys : List Nat), xs.length = ys.length →
      (List.zipWith (fun (a b : Nat) => (a : Int) - b) xs ys).sum = (xs.sum : Int) - ys.sum := by
    intro xs ys h
    induction xs generalizing ys with
    | nil => cases ys <;> simp_all
    | cons x xs ih =>
      cases ys with
      | nil => simp at h
      | cons y ys =>
        simp only [List.zipWith_cons_cons, List.sum_cons, ih ys (by simpa using h)]
        push_cast
        ring
  rw [hitsAdded, hsub _ _ hlen, hsum]
  push_cast
  ring

end Plan

namespace Session

/-! ### The draws of each command -/

/-- The draws a command makes from the shared rotation: one for `next`, one per slot of the
catalog operation `expand` writes, and a whole block's for `kernelShared`; the others draw
nothing. -/
def draws (p : Plan) : Command → Nat
  | .kernelShared _ => p.operandDraws
  | .next => 1
  | .expand opcode =>
    match p.config.catalog.lookup opcode with
    | .ok t => t.slots.length
    | .error _ => 0
  | _ => 0

/-- The draws of commands carried out in turn. -/
def totalDraws (p : Plan) (cs : List Command) : Nat := (cs.map (draws p)).sum

@[simp] theorem totalDraws_nil (p : Plan) : totalDraws p [] = 0 := rfl

theorem totalDraws_append (p : Plan) (cs ds : List Command) :
    totalDraws p (cs ++ ds) = totalDraws p cs + totalDraws p ds := by
  simp [totalDraws]

@[simp] theorem totalDraws_singleton (p : Plan) (c : Command) : totalDraws p [c] = draws p c := by
  simp [totalDraws]

/-- The session after commands carried out in turn. -/
def after (s : Session) (cs : List Command) : Session := cs.foldl (fun s c => (s.run c).1) s

theorem after_append (s : Session) (cs ds : List Command) :
    s.after (cs ++ ds) = (s.after cs).after ds := by
  simp [after, List.foldl_append]

theorem after_singleton (s : Session) (c : Command) : s.after [c] = (s.perform c).1 := rfl

/-- No command changes the plan. -/
@[simp] theorem plan_perform (s : Session) (c : Command) : (s.perform c).1.plan = s.plan := by
  cases c <;> simp only [perform]
  case expand opcode => split <;> rfl

/-- **One step.** A command advances the shared rotation by exactly its draws. -/
theorem rotation_perform (s : Session) (c : Command) :
    (s.perform c).1.rotation = advance^[draws s.plan c] s.rotation := by
  cases c with
  | kernelShared name => exact Plan.block_rotation s.plan name s.rotation
  | next => rfl
  | expand opcode =>
    cases h : s.plan.config.catalog.lookup opcode with
    | ok t =>
      simp only [perform, draws, h]
      exact Plan.instruction_rotation t s.rotation
    | error f => simp [perform, draws, h]
  | preamble | kernel _ | write _ | blank | declaration _ => rfl

/-- The `i`-th step of a run is the step of the `i`-th command, from the session the commands
before it leave. -/
theorem getElem?_runAll (s : Session) (cs : List Command) (i : Nat) :
    (s.runAll cs)[i]? = cs[i]?.map fun c => ((s.after (cs.take i)).run c).2 := by
  induction cs generalizing s i with
  | nil => simp [runAll]
  | cons c cs ih =>
    cases i with
    | zero => simp [runAll, after]
    | succ i => simp [runAll, ih, after]

@[simp] theorem plan_after (s : Session) (cs : List Command) : (s.after cs).plan = s.plan := by
  induction cs using List.reverseRecOn with
  | nil => rfl
  | append_singleton cs c ih => rw [after_append, after_singleton, plan_perform, ih]

/-- **A run.** After any commands the shared rotation is the one before, advanced by all
their draws. -/
theorem rotation_after (s : Session) (cs : List Command) :
    (s.after cs).rotation = advance^[totalDraws s.plan cs] s.rotation := by
  induction cs using List.reverseRecOn with
  | nil => rfl
  | append_singleton cs c ih =>
    rw [after_append, after_singleton, rotation_perform, plan_after, ih, totalDraws_append,
      totalDraws_singleton, Nat.add_comm, Function.iterate_add_apply]

/-! ### The record of a step -/

theorem calls_run (s : Session) (c : Command) :
    (s.run c).2.calls = (s.perform c).1.rotation.calls := rfl

theorem index_run (s : Session) (c : Command) :
    (s.run c).2.index = (s.perform c).1.rotation.index := rfl

theorem hits_run (s : Session) (c : Command) :
    (s.run c).2.hits = (s.perform c).1.rotation.hits := rfl

theorem lines_run (s : Session) (c : Command) :
    (s.run c).2.lines =
      ((s.perform c).1.listing.lines.extract s.listing.lines.size
        (s.perform c).1.listing.lines.size).toList := rfl

theorem perform_kernel (s : Session) (name : String) :
    s.perform (.kernel name) =
      ({ s with listing := s.listing.writeAll (s.plan.block name s.plan.freshRotation).1 },
        .shape (s.plan.synthesize s.listing name s.plan.freshRotation).2.2) := rfl

theorem perform_kernelShared (s : Session) (name : String) :
    s.perform (.kernelShared name) =
      ({ s with
          listing := s.listing.writeAll (s.plan.block name s.rotation).1
          rotation := (s.plan.block name s.rotation).2 },
        .shape (s.plan.synthesize s.listing name s.rotation).2.2) := rfl

theorem outcome_run (s : Session) (c : Command) : (s.run c).2.outcome = (s.perform c).2 := rfl

/-- Writing lines adds exactly as many lines to the listing. -/
theorem length_added_writeAll (l : Listing) (lines : List String) :
    ((l.writeAll lines).lines.extract l.lines.size (l.writeAll lines).lines.size).toList.length =
      lines.length := by
  simp [Listing.size_writeAll]

/-- A kernel written with a fresh rotation: the lines it added are its shape's lines, and the
shape counts the draws of the block alone, from the first accessor. -/
theorem shape_kernel (s : Session) (name : String) :
    ∃ sh, (s.run (.kernel name)).2.outcome = .shape sh ∧
      ((s.run (.kernel name)).2.lines.length : Int) = sh.lines ∧
      sh.operandRefs = s.plan.operandDraws ∧
      sh.bufferRefs = (List.range s.plan.config.buffers).map (fun j =>
        (Nat.count (fun q => q % s.plan.config.buffers = j) s.plan.operandDraws : Int)) ∧
      sh.bufferRefs.sum = s.plan.operandDraws := by
  refine ⟨_, by rw [outcome_run, perform_kernel], ?_, ?_, ?_, ?_⟩
  · rw [lines_run, perform_kernel, length_added_writeAll, Plan.synthesize_eq]
  · rw [Plan.synthesize_eq, Plan.block_rotation, calls_iterate]
    simp [Plan.freshRotation]
  · rw [Plan.synthesize_eq, Plan.block_rotation, Plan.hitsAdded_iterate]
    simp [Plan.freshRotation, Plan.length_accessors]
  · rw [Plan.synthesize_eq, Plan.block_rotation]
    exact Plan.sum_hitsAdded _ _

/-- A kernel written with the shared rotation: the lines it added are its shape's lines, and
the shape counts only the draws of the block, from where the shared rotation stood. -/
theorem shape_kernelShared (s : Session) (name : String) :
    ∃ sh, (s.run (.kernelShared name)).2.outcome = .shape sh ∧
      ((s.run (.kernelShared name)).2.lines.length : Int) = sh.lines ∧
      sh.operandRefs = s.plan.operandDraws ∧
      sh.bufferRefs = (List.range s.rotation.accessors.length).map (fun j =>
        (Nat.count (fun q => (s.rotation.index + q) % s.rotation.accessors.length = j)
          s.plan.operandDraws : Int)) ∧
      sh.bufferRefs.sum = s.plan.operandDraws := by
  refine ⟨_, by rw [outcome_run, perform_kernelShared], ?_, ?_, ?_, ?_⟩
  · rw [lines_run, perform_kernelShared]
    exact congrArg _ (length_added_writeAll _ _)
  · rw [Plan.synthesize_eq, Plan.block_rotation, calls_iterate]
    push_cast
    ring
  · rw [Plan.synthesize_eq, Plan.block_rotation, Plan.hitsAdded_iterate]
  · rw [Plan.synthesize_eq, Plan.block_rotation]
    exact Plan.sum_hitsAdded _ _

/-! ### Sessions from the start -/

theorem plan_start (p : Plan) : (start p).plan = p := rfl

theorem rotation_start_after (p : Plan) (cs : List Command) :
    ((start p).after cs).rotation = advance^[totalDraws p cs] p.freshRotation :=
  rotation_after (start p) cs

/-- **A shared rotation counts every draw of a session.** Take any commands before a command
`c` and any after it. The step recorded for `c` has the shared rotation after all the draws up
to and including `c`'s, `n` of them: it has counted `n` draws, stands at `n % B`, and has hit
buffer `j` once for every draw `q < n` with `q % B = j`. A kernel with a fresh rotation draws
nothing from the shared one. Either kind of kernel adds as many lines as its shape says and
reports its `R` draws; its hits count only those draws, from the first buffer for a fresh
rotation and from where the shared one stood otherwise, and add up to `R`. -/
theorem session_draws (p : Plan) (pre : List Command) (c : Command) (post : List Command) :
    ∃ step, ((start p).runAll (pre ++ c :: post))[pre.length]? = some step ∧
      step.calls = totalDraws p (pre ++ [c]) ∧
      step.index = totalDraws p (pre ++ [c]) % p.config.buffers ∧
      step.hits = (List.range p.config.buffers).map (fun j =>
        Nat.count (fun q => q % p.config.buffers = j) (totalDraws p (pre ++ [c]))) ∧
      (∀ name, c = .kernel name →
        totalDraws p (pre ++ [c]) = totalDraws p pre ∧
        ∃ sh, step.outcome = .shape sh ∧ (step.lines.length : Int) = sh.lines ∧
          sh.operandRefs = p.operandDraws ∧
          sh.bufferRefs = (List.range p.config.buffers).map (fun j =>
            (Nat.count (fun q => q % p.config.buffers = j) p.operandDraws : Int)) ∧
          sh.bufferRefs.sum = p.operandDraws) ∧
      (∀ name, c = .kernelShared name →
        ∃ sh, step.outcome = .shape sh ∧ (step.lines.length : Int) = sh.lines ∧
          sh.operandRefs = p.operandDraws ∧
          sh.bufferRefs = (List.range p.config.buffers).map (fun j =>
            (Nat.count (fun q => (totalDraws p pre + q) % p.config.buffers = j) p.operandDraws :
              Int)) ∧
          sh.bufferRefs.sum = p.operandDraws) := by
  set s := (start p).after pre with hs
  have hplan : s.plan = p := by rw [hs, plan_after, plan_start]
  have hrot : s.rotation = advance^[totalDraws p pre] p.freshRotation := rotation_start_after p pre
  have hacc : s.rotation.accessors.length = p.config.buffers := by
    rw [hrot, accessors_iterate]
    exact Plan.length_accessors p
  have hidx : s.rotation.index = totalDraws p pre % p.config.buffers := by
    rw [hrot, index_iterate]
    simp [Plan.freshRotation, Plan.length_accessors]
  -- the rotation after `c`, and so every count the step records
  have hafter : (s.perform c).1.rotation = advance^[totalDraws p (pre ++ [c])] p.freshRotation := by
    rw [rotation_perform, hrot, hplan, totalDraws_append, totalDraws_singleton, Nat.add_comm,
      Function.iterate_add_apply]
  have hstep : ((start p).runAll (pre ++ c :: post))[pre.length]? = some (s.run c).2 := by
    rw [getElem?_runAll]
    simp [hs]
  refine ⟨_, hstep, ?_, ?_, ?_, ?_, ?_⟩
  · rw [calls_run, hafter, calls_iterate]
    simp [Plan.freshRotation]
  · rw [index_run, hafter, index_iterate]
    simp [Plan.freshRotation, Plan.length_accessors]
  · rw [hits_run, hafter, hits_iterate]
    simp [Plan.freshRotation, Plan.length_accessors]
  · rintro name rfl
    obtain ⟨sh, hout, hlines, hrefs, hbuf, hsum⟩ := shape_kernel s name
    rw [hplan] at hrefs hbuf hsum
    exact ⟨by simp [totalDraws_append, draws], sh, hout, hlines, hrefs, hbuf, hsum⟩
  · rintro name rfl
    obtain ⟨sh, hout, hlines, hrefs, hbuf, hsum⟩ := shape_kernelShared s name
    rw [hplan] at hrefs hsum hbuf
    rw [hacc, hidx] at hbuf
    refine ⟨sh, hout, hlines, hrefs, ?_, hsum⟩
    rw [hbuf]
    simp [Nat.add_mod]

end Session
end KernelSynth
