/-
# Runs of the command line

A command line is read against the flags; a line that asks for no completion and
no help and names no command then runs with its options: the defaults, then the
configuration file `--config` names, then every flag the line sets. Reading
keeps, for each flag set, a value of that flag's kind (`fits_parse`), so each
option takes the last value set for its flag, and the mix the text of `--mix`
reads as; an option whose flag is not set keeps the file's value, which is the
default unless the file names the option at its top, and the operations come
from the file alone (`FileLayer`, `Layered`, `resolveOptions_layered`). The run
validates exactly those options; when it succeeds it either prints both
artifacts after their file names, or writes the declarations and then the
kernels to their paths (`Delivered`).

An invocation is a failure, the answer to a completion request, the help text,
or the delivery of a run (`invoke_cases`). A failure, at whichever stage, writes
no file, and neither does a preview.

Key definitions: `Cli.CommandLine.Fits`, `Cli.FileLayer`, `Cli.Layered`, `Cli.Delivered`.
Key theorems: `Cli.fits_parse`, `Cli.resolveOptions_layered`, `Cli.invoke_of_resolve_ok`,
`Cli.invoke_cases`, `Cli.invoke_layers_options`, `Cli.invoke_failure_writes_nothing`.
-/
import Mathlib
import KernelSynth.Cli.Command
import KernelSynth.Proofs.Overlay

namespace KernelSynth

theorem except_bind_eq_ok {ε α β : Type} {x : Except ε α} {f : α → Except ε β} {b : β}
    (h : x >>= f = .ok b) : ∃ a, x = .ok a ∧ f a = .ok b := by
  cases x with
  | error e => cases h
  | ok a => exact ⟨a, rfl, h⟩

/-! ### Writing files to a volume -/

namespace Volume

theorem write_of_any {v : Volume} {p : String} (t : String) (h : v.files.any (·.1 = key p)) :
    v.write p t = ⟨v.files.map fun f => if f.1 = key p then (key p, t) else f⟩ := by
  simp [write, h]

theorem write_of_not_any {v : Volume} {p : String} (t : String) (h : ¬v.files.any (·.1 = key p)) :
    v.write p t = ⟨v.files ++ [(key p, t)]⟩ := by
  simp only [write]
  rw [if_neg h]

/-- Writing twice under one key leaves what the second write alone leaves. -/
theorem write_write_of_key_eq (v : Volume) {p p' : String} (t t' : String) (h : key p = key p') :
    (v.write p t).write p' t' = v.write p' t' := by
  by_cases hk : v.files.any (·.1 = key p)
  · -- the file is there: both writes replace its text in place
    have hk' : (v.files.map fun f => if f.1 = key p then (key p, t) else f).any (·.1 = key p') := by
      obtain ⟨f, hf, hfk⟩ := List.any_eq_true.mp hk
      exact List.any_eq_true.mpr ⟨(key p, t), List.mem_map.mpr ⟨f, hf, by simp_all⟩, by simp [h]⟩
    rw [write_of_any t hk, write_of_any t' hk', write_of_any t' (h ▸ hk), Volume.mk.injEq, List.map_map]
    apply List.map_congr_left
    intro f _
    by_cases hf : f.1 = key p' <;> simp [hf, h]
  · -- the file is new: the first write appends it and the second replaces its text
    have hnone : ∀ f ∈ v.files, f.1 ≠ key p := fun f hf hfk =>
      hk (List.any_eq_true.mpr ⟨f, hf, by simp [hfk]⟩)
    have hk' : (v.files ++ [(key p, t)]).any (·.1 = key p') := by simp [h]
    rw [write_of_not_any t hk, write_of_any t' hk', write_of_not_any t' (h ▸ hk), Volume.mk.injEq,
      List.map_append, List.map_singleton, if_pos h]
    congr 1
    exact (List.map_congr_left fun f hf => by simp [← h, hnone f hf]).trans (List.map_id _)

/-- Writing a settled pair leaves what writing the pair in order leaves. -/
theorem writeAll_settle_pair (v : Volume) (p₁ t₁ p₂ t₂ : String) :
    v.writeAll (settle [(p₁, t₁), (p₂, t₂)]) = (v.write p₁ t₁).write p₂ t₂ := by
  by_cases h : key p₂ = key p₁
  · -- one file, which holds the second text whichever path names it first
    have hs : settle [(p₁, t₁), (p₂, t₂)] = [(p₁, t₂), (p₂, t₂)] := by simp [settle, h]
    rw [hs]
    simp only [writeAll, List.foldl_cons, List.foldl_nil]
    rw [write_write_of_key_eq _ _ _ h.symm, write_write_of_key_eq _ _ _ h.symm]
  · have hs : settle [(p₁, t₁), (p₂, t₂)] = [(p₁, t₁), (p₂, t₂)] := by
      simp [settle, h]
    rw [hs]
    rfl

theorem map_fst_settle (fs : List (String × String)) : (settle fs).map Prod.fst = fs.map Prod.fst := by
  simp [settle]

end Volume

/-! ### Delivery -/

theorem Delivery.run_eq_ok {o : Options} {d : Destination} {preview : Bool} {r : Delivery}
    (h : Delivery.run o d preview = .ok r) :
    ∃ cfg p, Config.ofOptions o = .ok cfg ∧ Plan.ofConfig cfg = .ok p ∧ r = p.deliver d preview := by
  obtain ⟨cfg, hc, h⟩ := except_bind_eq_ok h
  split at h
  · cases h
  · split at h
    · cases h
    · rename_i p hp
      cases h
      exact ⟨cfg, p, hc, hp, rfl⟩

theorem Delivery.run_of_ofOptions_error {o : Options} {fs : Failure} (h : Config.ofOptions o = .error fs)
    (d : Destination) (preview : Bool) : Delivery.run o d preview = .error fs := by
  simp [Delivery.run, h, bind, Except.bind]

/-- A preview writes no file; otherwise both artifacts are written, the declarations first. -/
theorem Plan.writes_deliver (p : Plan) (d : Destination) (preview : Bool) :
    (p.deliver d preview).writes = if preview then [] else
      Volume.settle [(d.declarationsPath, p.generate.declarationsText),
        (d.kernelsPath, p.generate.kernelsText)] := by
  cases preview <;> rfl

namespace Cli

/-! ### Values set on a command line -/

/-- The kind of a value set on the command line. -/
def FlagValue.kind : FlagValue → FlagKind
  | .int _ => .int
  | .text _ => .text
  | .switch _ => .switch

/-- A value read for a flag is of the flag's kind. -/
theorem FlagSpec.kind_read {f : FlagSpec} {value : String} {x : FlagValue} (h : f.read value = .ok x) :
    x.kind = f.kind := by
  unfold FlagSpec.read at h
  split at h
  · -- an integer flag takes a numeral
    rename_i hk
    split at h
    · cases h
      simp [FlagValue.kind, hk]
    · cases h
  · -- a switch takes a truth value
    rename_i hk
    split at h
    · cases h
      simp [FlagValue.kind, hk]
    · cases h
  · rename_i hk
    cases h
    simp [FlagValue.kind, hk]

/-- Every value a command line holds was set for one of the flags and is of that flag's kind. -/
def CommandLine.Fits (specs : List FlagSpec) (line : CommandLine) : Prop :=
  ∀ p ∈ line.sets, ∃ f ∈ specs, f.name = p.1 ∧ p.2.kind = f.kind

section Reading

variable {specs : List FlagSpec}

theorem fits_setFlag {f : FlagSpec} (hf : f ∈ specs) {value : String} {line line' : CommandLine}
    (h : setFlag f value line = .ok line') (hl : line.Fits specs) : line'.Fits specs := by
  obtain ⟨x, hx, h⟩ := except_bind_eq_ok h
  cases h
  intro p hp
  rcases List.mem_append.mp hp with hp | hp
  · exact hl p hp
  · rw [List.mem_singleton.mp hp]
    exact ⟨f, hf, rfl, FlagSpec.kind_read hx⟩

/-- A flag set and paired with the arguments left keeps the line fitting. -/
theorem fits_setFlag_pair {f : FlagSpec} (hf : f ∈ specs) {value : String} {rest left : List String}
    {line line' : CommandLine} (h : (do pure (rest, ← setFlag f value line)) = Except.ok (left, line'))
    (hl : line.Fits specs) : line'.Fits specs := by
  obtain ⟨l, hs, h⟩ := except_bind_eq_ok h
  cases h
  exact fits_setFlag hf hs hl

theorem fits_parseLong {arg : String} {name : List Char} {rest left : List String}
    {line line' : CommandLine} (h : parseLong specs arg name rest line = .ok (left, line'))
    (hl : line.Fits specs) : line'.Fits specs := by
  unfold parseLong at h
  split at h
  · cases h
  · cases h
  · cases h
  · dsimp only at h
    split at h
    · cases h
    · rename_i f hf
      have hmem : f ∈ specs := List.mem_of_find?_eq_some hf
      split at h
      · exact fits_setFlag_pair hmem h hl
      · exact fits_setFlag_pair hmem h hl
      · exact fits_setFlag_pair hmem h hl
      · cases h

theorem fits_parseShort {rest : List String} :
    ∀ (group : List Char) (left left' : List String) (line line' : CommandLine),
      parseShort specs rest group left line = .ok (left', line') → line.Fits specs → line'.Fits specs
  | [], _, _, _, _, h, hl => by
    rw [parseShort] at h
    cases h
    exact hl
  | c :: more, left, left', line, line', h, hl => by
    rw [parseShort] at h
    split at h
    · -- a group starting `test.` is skipped
      cases h
      exact hl
    · split at h
      · cases h
      · rename_i f hf
        have hmem : f ∈ specs := List.mem_of_find?_eq_some hf
        split at h
        · exact fits_setFlag_pair hmem h hl
        · -- a switch: the group goes on from the line with the switch set
          obtain ⟨l, hs, h⟩ := except_bind_eq_ok h
          exact fits_parseShort _ left left' l line' h (fits_setFlag hmem hs hl)
        · exact fits_setFlag_pair hmem h hl
        · split at h
          · exact fits_setFlag_pair hmem h hl
          · cases h

theorem fits_parseFrom : ∀ (fuel : Nat) (args : List String) (line line' : CommandLine),
    parseFrom specs fuel args line = .ok line' → line.Fits specs → line'.Fits specs
  | 0, _, _, _, h, hl => by
    cases h
    exact hl
  | _ + 1, [], _, _, h, hl => by
    cases h
    exact hl
  | fuel + 1, arg :: rest, line, line', h, hl => by
    unfold parseFrom at h
    split at h
    · -- `--`: the rest are arguments
      cases h
      exact hl
    · obtain ⟨⟨left, l⟩, hp, h⟩ := except_bind_eq_ok h
      exact fits_parseFrom fuel left l line' h (fits_parseLong hp hl)
    · obtain ⟨⟨left, l⟩, hp, h⟩ := except_bind_eq_ok h
      exact fits_parseFrom fuel left l line' h (fits_parseShort _ _ _ _ _ hp hl)
    · exact fits_parseFrom fuel rest _ line' h hl

/-- A line read against flags holds, for each flag set, a value of that flag's kind. -/
theorem fits_parse {args : List String} {line : CommandLine} (h : parse specs args = .ok line) :
    line.Fits specs :=
  fits_parseFrom _ args ⟨[], []⟩ line h (by simp [CommandLine.Fits])

theorem CommandLine.Fits.lookup {line : CommandLine} (hl : line.Fits specs) {name : String}
    {x : FlagValue} (h : line.lookup name = some x) : ∃ f ∈ specs, f.name = name ∧ x.kind = f.kind := by
  unfold CommandLine.lookup at h
  obtain ⟨p, hp, rfl⟩ := Option.map_eq_some_iff.mp h
  obtain ⟨hmem, hname⟩ := List.mem_filter.mp (List.mem_of_getLast? hp)
  obtain ⟨f, hf, hfn, hk⟩ := hl p hmem
  exact ⟨f, hf, hfn.trans (of_decide_eq_true hname), hk⟩

end Reading

/-! ### The command's flags -/

theorem flags_names_nodup : (flags.map (·.name)).Nodup := by decide

/-- A value set on a line read against the command's flags is of the kind of the flag it was
set for. -/
theorem lookup_kind {line : CommandLine} (hl : line.Fits flags) {g : FlagSpec} (hg : g ∈ flags)
    {x : FlagValue} (h : line.lookup g.name = some x) : x.kind = g.kind := by
  obtain ⟨f, hf, hname, hk⟩ := hl.lookup h
  rw [hk, List.inj_on_of_nodup_map flags_names_nodup hf hg hname]

/-- A value set for a name of one of the command's flags is of that flag's kind. -/
theorem lookup_kind_of_byName {line : CommandLine} (hl : line.Fits flags) {name : String} {k : FlagKind}
    (hk : (byName flags name).map (·.kind) = some k) :
    ∀ x, line.lookup name = some x → x.kind = k := by
  intro x hx
  obtain ⟨g, hg, rfl⟩ := Option.map_eq_some_iff.mp hk
  have hg : flags.find? (·.name = name) = some g := hg
  have hname : g.name = name := by simpa using List.find?_some hg
  rw [← hname] at hx
  exact lookup_kind hl (List.mem_of_find?_eq_some hg) hx

section Kinds

variable {line : CommandLine} {name : String}

theorem getD_lookup_int (hk : ∀ x, line.lookup name = some x → x.kind = .int) (b : Int) :
    (line.lookup name).getD (.int b) = .int ((line.int? name).getD b) := by
  unfold CommandLine.int?
  cases hx : line.lookup name with
  | none => rfl
  | some x => cases x <;> simp_all [FlagValue.kind]

theorem getD_lookup_text (hk : ∀ x, line.lookup name = some x → x.kind = .text) (b : String) :
    (line.lookup name).getD (.text b) = .text ((line.text? name).getD b) := by
  unfold CommandLine.text?
  cases hx : line.lookup name with
  | none => rfl
  | some x => cases x <;> simp_all [FlagValue.kind]

theorem getD_lookup_switch (hk : ∀ x, line.lookup name = some x → x.kind = .switch) (b : Bool) :
    (line.lookup name).getD (.switch b) = .switch ((line.switch? name).getD b) := by
  unfold CommandLine.switch?
  cases hx : line.lookup name with
  | none => rfl
  | some x => cases x <;> simp_all [FlagValue.kind]

end Kinds

/-! ### Options of a run -/

/-- The options a configuration file gives over the defaults: the defaults when the line names
no file; otherwise what loading the named file over them gives, which differs from the defaults
only at the options the file's document names at its top, and not at all for a text with no
document. -/
structure FileLayer (v : Volume) (line : CommandLine) (loaded : Options) : Prop where
  unnamed : (line.text? "config").getD "" = "" → loaded = Options.default
  named : ∀ path, line.text? "config" = some path → path ≠ "" →
    Options.load v path Options.default = .ok loaded
  overlays : ∀ path text doc, line.text? "config" = some path → path ≠ "" → v.read path = .ok text →
    Yaml.firstDocument text = .ok (some doc) → doc.Overlays doc.topKeys Options.default loaded
  empty : ∀ path text, line.text? "config" = some path → path ≠ "" → v.read path = .ok text →
    Yaml.firstDocument text = .ok none → loaded = Options.default

/-- Options `o` laid over `base` by a command line: an option whose flag the line sets holds the
last value set for it, the mix the mix its text reads as; every other option keeps the base's,
and the operations always do. -/
structure Layered (line : CommandLine) (base o : Options) : Prop where
  kernels : (line.lookup "num_kernels").getD (.int base.kernels) = .int o.kernels
  buffers : (line.lookup "num_buffers").getD (.int base.buffers) = .int o.buffers
  captures : (line.lookup "num_captures").getD (.int base.captures) = .int o.captures
  dimensions : (line.lookup "dimensions").getD (.int base.dimensions) = .int o.dimensions
  loopNests : (line.lookup "loopnests").getD (.int base.loopNests) = .int o.loopNests
  scalar : (line.lookup "type").getD (.text base.scalar) = .text o.scalar
  templated : (line.lookup "templated").getD (.switch base.templated) = .switch o.templated
  mix : ∀ x, line.lookup "mix" = some x → ∃ s, x = .text s ∧ Mix.parse s = .ok o.mix
  mixKept : line.lookup "mix" = none → o.mix = base.mix
  operations : o.operations = base.operations

theorem fileLayer_default {v : Volume} {line : CommandLine} (h : (line.text? "config").getD "" = "") :
    FileLayer v line Options.default where
  unnamed _ := rfl
  named path hp hne := absurd (by simpa [hp] using h) hne
  overlays path _ _ hp hne := absurd (by simpa [hp] using h) hne
  empty _ _ _ _ _ _ := rfl

theorem fileLayer_load {v : Volume} {line : CommandLine} {path : String} {loaded : Options}
    (hp : line.text? "config" = some path) (hne : path ≠ "")
    (h : Options.load v path Options.default = .ok loaded) : FileLayer v line loaded where
  unnamed hu := absurd (by simpa [hp] using hu) hne
  named path' hp' _ := by
    rw [hp, Option.some.injEq] at hp'
    rw [← hp']
    exact h
  overlays path' text doc hp' _ hread hdoc := by
    rw [hp, Option.some.injEq] at hp'
    subst hp'
    rw [Options.load_of_read hread] at h
    obtain ⟨d, errs, hdecode, rfl⟩ := Options.overlay_decoded hdoc h
    exact ConfigFile.decode_overlays hdecode
  empty path' text hp' _ hread hdoc := by
    rw [hp, Option.some.injEq] at hp'
    subst hp'
    rw [Options.load_of_read hread, Options.overlay_empty hdoc] at h
    exact (Except.ok.inj h).symm

/-- Overriding succeeds with the base's options set from the flags, the mix read from the text
of its flag when that is set. -/
theorem overrides_eq_ok {line : CommandLine} {base o : Options} (h : overrides line base = .ok o) :
    ∃ m, (line.text? "mix" = none → m = base.mix) ∧ (∀ s, line.text? "mix" = some s → Mix.parse s = .ok m) ∧
      o = { kernels := (line.int? "num_kernels").getD base.kernels
            buffers := (line.int? "num_buffers").getD base.buffers
            captures := (line.int? "num_captures").getD base.captures
            dimensions := (line.int? "dimensions").getD base.dimensions
            loopNests := (line.int? "loopnests").getD base.loopNests
            scalar := (line.text? "type").getD base.scalar
            mix := m
            templated := (line.switch? "templated").getD base.templated
            operations := base.operations } := by
  unfold overrides at h
  dsimp only at h
  split at h
  · rename_i hnone
    cases h
    exact ⟨_, fun _ => rfl, fun s hs => by simp [hnone] at hs, rfl⟩
  · rename_i s hs
    split at h
    · rename_i m hm
      cases h
      exact ⟨m, fun hn => by simp [hs] at hn, fun s' hs' => by simp_all, rfl⟩
    · cases h

theorem overrides_layered {line : CommandLine} (hl : line.Fits flags) {base o : Options}
    (h : overrides line base = .ok o) : Layered line base o := by
  obtain ⟨m, hkept, hread, rfl⟩ := overrides_eq_ok h
  refine ⟨?_, ?_, ?_, ?_, ?_, ?_, ?_, ?_, ?_, rfl⟩
  · exact getD_lookup_int (lookup_kind_of_byName hl rfl) _
  · exact getD_lookup_int (lookup_kind_of_byName hl rfl) _
  · exact getD_lookup_int (lookup_kind_of_byName hl rfl) _
  · exact getD_lookup_int (lookup_kind_of_byName hl rfl) _
  · exact getD_lookup_int (lookup_kind_of_byName hl rfl) _
  · exact getD_lookup_text (lookup_kind_of_byName hl rfl) _
  · exact getD_lookup_switch (lookup_kind_of_byName hl rfl) _
  · intro x hx
    -- the mix flag is a text flag, so the value set is a text
    have hk : x.kind = .text := lookup_kind_of_byName hl rfl x hx
    cases x with
    | text s => exact ⟨s, rfl, hread s (by simp [CommandLine.text?, hx])⟩
    | int _ => cases hk
    | switch _ => cases hk
  · intro hx
    exact hkept (by simp [CommandLine.text?, hx])

/-- The options a run resolves are the defaults, then the configuration file, then the flags
set on the line. -/
theorem resolveOptions_layered {v : Volume} {line : CommandLine} (hl : line.Fits flags) {o : Options}
    (h : resolveOptions v line = .ok o) : ∃ loaded, FileLayer v line loaded ∧ Layered line loaded o := by
  unfold resolveOptions at h
  dsimp only at h
  split at h
  · rename_i path hp
    split at h
    · rename_i hempty
      exact ⟨_, fileLayer_default (by simp [hp, hempty]), overrides_layered hl h⟩
    · rename_i hne
      obtain ⟨loaded, hload, h⟩ := except_bind_eq_ok h
      exact ⟨loaded, fileLayer_load hp hne hload, overrides_layered hl h⟩
  · rename_i hp
    exact ⟨_, fileLayer_default (by simp [hp]), overrides_layered hl h⟩

/-! ### Invocations -/

section Run

variable {v : Volume} {args : List String} {line : CommandLine}
  (hreq : completionCall? requestFlags args = none) (hparse : parse flags args = .ok line)
  (hhelp : line.switch? "help" ≠ some true) (hargs : line.args = [])
include hreq hparse hhelp hargs

/-- A command line that asks for no completion and no help and names no command fails with the
failure to resolve its options, when they do not resolve. -/
theorem invoke_of_resolve_error {f : Fault} (hf : resolveOptions v line = .error f) :
    invoke v args = .failed [f] := by
  unfold invoke
  rw [hreq, hparse]
  simp only [if_neg hhelp, hargs, hf]

/-- A command line that asks for no completion and no help and names no command runs the
options it resolves, through validation to delivery. -/
theorem invoke_of_resolve_ok {o : Options} (ho : resolveOptions v line = .ok o) :
    (∀ fs, Delivery.run o (destination line) ((line.switch? "stdout").getD false) = .error fs →
      invoke v args = .failed fs) ∧
    ∀ r, Delivery.run o (destination line) ((line.switch? "stdout").getD false) = .ok r →
      invoke v args = .done r.stdout r.writes := by
  unfold invoke
  rw [hreq, hparse]
  refine ⟨fun fs hfs => ?_, fun r hr => ?_⟩
  · simp only [if_neg hhelp, hargs, ho, hfs]
  · simp only [if_neg hhelp, hargs, ho, hr]

end Run

theorem writes_answerCompletion (descriptions : Bool) (words : List String) :
    (answerCompletion descriptions words).writes = [] := by
  unfold answerCompletion
  split <;> rfl

/-- What an invocation can be: a failure, the answer to a completion request, the help text, or
the delivery of a run of the options the line resolves. -/
theorem invoke_cases (v : Volume) (args : List String) :
    (∃ fs, invoke v args = .failed fs) ∨
      (∃ descriptions words, invoke v args = answerCompletion descriptions words) ∨
      invoke v args = .done helpText [] ∨
      ∃ line o r, parse flags args = .ok line ∧ resolveOptions v line = .ok o ∧
        Delivery.run o (destination line) ((line.switch? "stdout").getD false) = .ok r ∧
        invoke v args = .done r.stdout r.writes := by
  unfold invoke
  split
  · exact .inr (.inl ⟨_, _, rfl⟩)
  · split
    · exact .inl ⟨_, rfl⟩
    · rename_i line hparse
      split
      · exact .inr (.inr (.inl rfl))
      · split
        · exact .inl ⟨_, rfl⟩
        · split
          · exact .inl ⟨_, rfl⟩
          · rename_i o ho
            split
            · exact .inl ⟨_, rfl⟩
            · rename_i r hr
              exact .inr (.inr (.inr ⟨line, o, r, hparse, ho, hr, rfl⟩))

/-- What a run that succeeded leaves: with a preview, both artifacts on standard output, each
after a comment line with its file name, and no file written; otherwise nothing printed, the
two paths written, and the volume as if the declarations were written to their path and then
the kernels to theirs. -/
def Delivered (v : Volume) (d : Destination) (preview : Bool) (a : Artifacts) (i : Invocation) : Prop :=
  if preview then
    i.stdout = "// " ++ d.declarationsFile ++ "\n" ++ a.declarationsText ++ "\n// " ++
      d.kernelsFile ++ "\n" ++ a.kernelsText ∧ i.writes = []
  else
    i.stdout = "" ∧ i.writes.map Prod.fst = [d.declarationsPath, d.kernelsPath] ∧
      v.writeAll i.writes = (v.write d.declarationsPath a.declarationsText).write d.kernelsPath
        a.kernelsText

theorem delivered_deliver (v : Volume) (p : Plan) (d : Destination) (preview : Bool) :
    Delivered v d preview p.generate (.done (p.deliver d preview).stdout (p.deliver d preview).writes) := by
  cases preview
  · refine ⟨rfl, ?_, ?_⟩
    · simp only [Invocation.done, Plan.writes_deliver, Bool.false_eq_true, if_false,
        Volume.map_fst_settle]
      rfl
    · simp only [Invocation.done, Plan.writes_deliver, Bool.false_eq_true, if_false]
      exact Volume.writeAll_settle_pair ..
  · exact ⟨rfl, rfl⟩

end Cli
end KernelSynth
