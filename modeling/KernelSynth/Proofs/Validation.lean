/-
# What validation accepts and reports

`Config.ofOptions` first extends the default catalog by the options' own
operations and answers with that failure alone if the extension fails.
Otherwise it accepts exactly the options with at least one kernel, no
negative captures or loop nests, a known scalar type, and mix entries that
all have a count of zero or more and an opcode the extended catalog holds.
What it refuses it reports whole and in order: each numeric bound broken
(kernels, captures, loop nests), the unknown type, then each bad mix entry,
as a malformed entry when its count is negative and else as an unknown
operation. What it accepts it keeps as given, but for the buffers and
dimensions, which are clamped, each clamp recorded with the value asked for
and the value used.

Key theorems: `Config.clampInto_eq`, `Config.faults_eq_nil_iff`, `Config.exists_ofOptions_eq_ok`,
`Config.ofOptions_eq_error`, `Config.ofOptions_fields`, `Config.ofOptions_spec`.
-/
import Mathlib
import KernelSynth.Proofs.Catalog

namespace KernelSynth

theorem Scalar.parse_eq_error {text : String} {f : Fault} (h : Scalar.parse text = .error f) :
    f = .unknownScalar text := by
  unfold Scalar.parse at h
  split at h
  · cases h
  · cases h
    rfl

namespace Config

/-- A clamp into `lo` to `hi` is the value raised to `lo`, then lowered to `hi`. -/
theorem clampInto_eq (lo hi : Nat) (v : Int) (h : lo ≤ hi) :
    (clampInto lo hi v : Int) = min (max v lo) hi := by
  unfold clampInto
  split
  · omega
  · split <;> omega

/-- The fault of a mix entry: a malformed entry when its count is negative, otherwise an
unknown operation when the catalog lacks its opcode. -/
theorem entryFault_eq (c : Catalog) (e : MixEntry) :
    entryFault c e =
      if e.count < 0 then some (.malformedEntry ⟨e.render, .negative⟩)
      else if c.lookup? e.opcode = none then some (.unknownOperation e.opcode) else none := by
  unfold entryFault
  split
  · rfl
  · cases c.lookup? e.opcode <;> rfl

/-- The faults of options, in the order they are reported: the numeric bounds, the type,
then each mix entry. -/
theorem faults_eq (o : Options) (c : Catalog) :
    faults o c =
      (if o.kernels < 1 then [Fault.tooFewKernels o.kernels] else []) ++
      (if o.captures < 0 then [Fault.negativeCaptures o.captures] else []) ++
      (if o.loopNests < 0 then [Fault.negativeLoopNests o.loopNests] else []) ++
      (if (Scalar.parse o.scalar).isOk then [] else [Fault.unknownScalar o.scalar]) ++
      o.mix.filterMap fun e =>
        if e.count < 0 then some (Fault.malformedEntry ⟨e.render, .negative⟩)
        else if c.lookup? e.opcode = none then some (Fault.unknownOperation e.opcode) else none := by
  have hentries : o.mix.filterMap (entryFault c) = o.mix.filterMap fun e =>
      if e.count < 0 then some (Fault.malformedEntry ⟨e.render, .negative⟩)
      else if c.lookup? e.opcode = none then some (Fault.unknownOperation e.opcode) else none := by
    congr 1
    funext e
    exact entryFault_eq c e
  unfold faults
  rw [hentries]
  cases hp : Scalar.parse o.scalar with
  | ok s => rfl
  | error f =>
    rw [Scalar.parse_eq_error hp]
    rfl

/-- No fault is found exactly when every check passes. -/
theorem faults_eq_nil_iff (o : Options) (c : Catalog) :
    faults o c = [] ↔
      1 ≤ o.kernels ∧ 0 ≤ o.captures ∧ 0 ≤ o.loopNests ∧ (Scalar.parse o.scalar).isOk = true ∧
        ∀ e ∈ o.mix, 0 ≤ e.count ∧ ∃ t, c.lookup? e.opcode = some t := by
  have hentry : ∀ e : MixEntry, ((if e.count < 0 then some (Fault.malformedEntry ⟨e.render, .negative⟩)
      else if c.lookup? e.opcode = none then some (Fault.unknownOperation e.opcode) else none) = none ↔
        0 ≤ e.count ∧ ∃ t, c.lookup? e.opcode = some t) := by
    intro e
    by_cases hn : e.count < 0
    · simp [hn]
    · have h0 : 0 ≤ e.count := by omega
      cases hl : c.lookup? e.opcode <;> simp [hn, h0]
  simp only [faults_eq, List.append_eq_nil_iff, List.filterMap_eq_nil_iff, hentry, ite_eq_right_iff,
    ite_eq_left_iff, reduceCtorEq, imp_false, not_lt, not_not, and_assoc]

/-! ### Validation -/

/-- A refused extension of the catalog is the whole answer. -/
theorem ofOptions_of_extend_error {o : Options} {fs : Failure}
    (h : Catalog.default.extend o.operations = .error fs) : ofOptions o = .error fs := by
  simp [ofOptions, h]

/-- With the catalog extended, options with faults are refused with all of them. -/
theorem ofOptions_eq_error {o : Options} {c : Catalog} (h : Catalog.default.extend o.operations = .ok c)
    (hf : faults o c ≠ []) : ofOptions o = .error (faults o c) := by
  cases hfs : faults o c with
  | nil => exact absurd hfs hf
  | cons f fs => simp only [ofOptions, h, hfs]

/-- With the catalog extended and no fault found, the options are accepted. -/
theorem exists_ofOptions_eq_ok {o : Options} {c : Catalog}
    (h : Catalog.default.extend o.operations = .ok c) (hf : faults o c = []) :
    ∃ cfg, ofOptions o = .ok cfg := by
  -- no fault means the type name parses
  obtain ⟨s, hs⟩ : ∃ s, Scalar.parse o.scalar = .ok s := by
    cases hp : Scalar.parse o.scalar with
    | ok s => exact ⟨s, rfl⟩
    | error f =>
      have := ((faults_eq_nil_iff o c).mp hf).2.2.2.1
      simp [hp, Except.isOk, Except.toBool] at this
  simp only [ofOptions, h, hf, hs]
  exact ⟨_, rfl⟩

/-- What an accepted configuration holds: the extended catalog, the options' values as given,
the buffers and dimensions clamped, and a record of each clamp. -/
theorem ofOptions_fields {o : Options} {cfg : Config} (h : ofOptions o = .ok cfg) :
    Catalog.default.extend o.operations = .ok cfg.catalog ∧ faults o cfg.catalog = [] ∧
      Scalar.parse o.scalar = .ok cfg.scalar ∧
      cfg.kernels = o.kernels.toNat ∧ cfg.captures = o.captures.toNat ∧
      cfg.loopNests = o.loopNests.toNat ∧ cfg.mix = o.mix ∧ cfg.templated = o.templated ∧
      cfg.buffers = clampInto minBuffers maxBuffers o.buffers ∧
      cfg.dimensions = clampInto minDimensions maxDimensions o.dimensions ∧
      cfg.clamps = clampRecord "num_buffers" minBuffers maxBuffers o.buffers ++
        clampRecord "dimensions" minDimensions maxDimensions o.dimensions := by
  unfold ofOptions at h
  split at h
  · cases h
  · rename_i c hc
    split at h
    · rename_i s hf hs
      cases h
      exact ⟨hc, hf, hs, rfl, rfl, rfl, rfl, rfl, rfl, rfl, rfl⟩
    · cases h
    · cases h

/-- An accepted configuration's catalog holds only templates read from their text. -/
theorem wellFormed_catalog {o : Options} {cfg : Config} (h : ofOptions o = .ok cfg) :
    cfg.catalog.WellFormed :=
  Catalog.wellFormed_extend Catalog.wellFormed_default (ofOptions_fields h).1

/-- An accepted configuration's mix has no negative count and names only operations its
catalog holds. -/
theorem mix_ofOptions {o : Options} {cfg : Config} (h : ofOptions o = .ok cfg) :
    ∀ e ∈ cfg.mix, 0 ≤ e.count ∧ ∃ t, cfg.catalog.lookup? e.opcode = some t := by
  obtain ⟨-, hf, -, -, -, -, hmix, -⟩ := ofOptions_fields h
  rw [hmix]
  exact ((faults_eq_nil_iff o cfg.catalog).mp hf).2.2.2.2

/-- Validation as a whole: a refused catalog extension is the answer; otherwise the options are
accepted exactly when every check passes, a refusal lists every fault in order, and an accepted
configuration keeps the values given, with the buffers and dimensions clamped and each clamp
recorded, buffers first. -/
theorem ofOptions_spec (o : Options) :
    (∀ fs, Catalog.default.extend o.operations = .error fs → ofOptions o = .error fs) ∧
    ∀ c, Catalog.default.extend o.operations = .ok c →
      ((∃ cfg, ofOptions o = .ok cfg) ↔
          1 ≤ o.kernels ∧ 0 ≤ o.captures ∧ 0 ≤ o.loopNests ∧ (Scalar.parse o.scalar).isOk = true ∧
            ∀ e ∈ o.mix, 0 ≤ e.count ∧ ∃ t, c.lookup? e.opcode = some t) ∧
      (∀ fs, ofOptions o = .error fs →
        fs = (if o.kernels < 1 then [Fault.tooFewKernels o.kernels] else []) ++
          (if o.captures < 0 then [Fault.negativeCaptures o.captures] else []) ++
          (if o.loopNests < 0 then [Fault.negativeLoopNests o.loopNests] else []) ++
          (if (Scalar.parse o.scalar).isOk then [] else [Fault.unknownScalar o.scalar]) ++
          o.mix.filterMap fun e =>
            if e.count < 0 then some (Fault.malformedEntry ⟨e.render, .negative⟩)
            else if c.lookup? e.opcode = none then some (Fault.unknownOperation e.opcode) else none) ∧
      (∀ cfg, ofOptions o = .ok cfg →
        cfg.catalog = c ∧ (cfg.kernels : Int) = o.kernels ∧ (cfg.captures : Int) = o.captures ∧
          (cfg.loopNests : Int) = o.loopNests ∧ cfg.templated = o.templated ∧ cfg.mix = o.mix ∧
          Scalar.parse o.scalar = .ok cfg.scalar ∧
          (cfg.buffers : Int) = min (max o.buffers 1) 16384 ∧
          (cfg.dimensions : Int) = min (max o.dimensions 1) 3 ∧
          cfg.clamps =
            (if (cfg.buffers : Int) = o.buffers then [] else [⟨"num_buffers", o.buffers, cfg.buffers⟩]) ++
            (if (cfg.dimensions : Int) = o.dimensions then [] else
              [⟨"dimensions", o.dimensions, cfg.dimensions⟩])) := by
  refine ⟨fun fs h => ofOptions_of_extend_error h, fun c hc => ⟨?_, ?_, ?_⟩⟩
  · constructor
    · rintro ⟨cfg, h⟩
      obtain ⟨hc', hf, -⟩ := ofOptions_fields h
      rw [hc] at hc'
      cases hc'
      exact (faults_eq_nil_iff o cfg.catalog).mp hf
    · intro hok
      exact exists_ofOptions_eq_ok hc ((faults_eq_nil_iff o c).mpr hok)
  · intro fs h
    by_cases hf : faults o c = []
    · -- no fault: the options are accepted, not refused
      obtain ⟨cfg, hcfg⟩ := exists_ofOptions_eq_ok hc hf
      rw [hcfg] at h
      cases h
    · rw [ofOptions_eq_error hc hf] at h
      cases h
      exact faults_eq o c
  · intro cfg h
    obtain ⟨hc', hf, hs, hk, hcap, hl, hm, ht, hb, hd, hcl⟩ := ofOptions_fields h
    rw [hc] at hc'
    cases hc'
    obtain ⟨hk1, hcap0, hl0, -⟩ := (faults_eq_nil_iff o cfg.catalog).mp hf
    have hb' := clampInto_eq minBuffers maxBuffers o.buffers (by decide)
    have hd' := clampInto_eq minDimensions maxDimensions o.dimensions (by decide)
    refine ⟨rfl, by omega, by omega, by omega, ht, hm, hs, ?_, ?_, ?_⟩
    · rw [hb, hb']; rfl
    · rw [hd, hd']; rfl
    · rw [hcl, hb, hd]
      rfl

end Config
end KernelSynth
