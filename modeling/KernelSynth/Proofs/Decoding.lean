/-
# What decoding steps give

Decoding a document runs in `DecodeM`: it reads the document, updates the decoder (the errors
met, the aliases open, the keys a merge has set) and may stop. `wp doc x Q s` says that every
run of `x` from `s` that ends does so with a result and state meeting `Q`; a run that stops
meets every postcondition, so these are statements about the runs that end, the ones that give
options. `Yields doc x P` puts `P` on the result alone, from every state.

The scalar places give what `Document.stringAt` and `Document.intAt` read off a node through
its alias. A merge applies the mapping or mappings it names one after another, so a relation
that is reflexive and transitive and holds of each application holds of the merge
(`mergeInto_yields`); the fields of a record likewise (`fieldsInto_yields`,
`recordInto_yields`).

The keys a merge has set are decoder state, and `KeepsMerge doc P x` says how `x` leaves them.
The scalar places, the counting of aliases, type errors and the check for keys written twice
leave them as they were; a merge puts them back when it ends; the fields of a record leave no
merge under way when there was none (`fieldsInto_unmerged`). A mapping whose keys are distinct
scalars has no key written twice (`duplicateKeys_false`).

Key definitions: `Yaml.wp`, `Yaml.Yields`, `Yaml.Document.stringAt`, `Yaml.KeepsMerge`.
Key theorems: `Yaml.wp_forIn`, `Yaml.wp_forIn_seen`, `Yaml.viaAlias_yields`,
`Yaml.stringInto_yields`, `Yaml.mergeInto_yields`, `Yaml.recordInto_yields`, `Yaml.viaAlias_wp`,
`Yaml.mergeInto_keepsMerge`, `Yaml.fieldsInto_unmerged`, `Yaml.duplicateKeys_false`.
-/
import Mathlib
import KernelSynth.ConfigFile

namespace KernelSynth
namespace Yaml

/-- Every run of `x` on `doc` from `s` that ends meets `Q` with its result and state; a run
that stops meets it by default. -/
def wp (doc : Document) (x : DecodeM α) (Q : α → Decoder → Prop) (s : Decoder) : Prop :=
  match (x.run doc).run s with
  | .ok (a, s') => Q a s'
  | .error _ => True

/-- Every run of `x` on `doc` that ends, from any state, has a result meeting `P`. -/
def Yields (doc : Document) (x : DecodeM α) (P : α → Prop) : Prop :=
  ∀ s, wp doc x (fun a _ => P a) s

variable {doc : Document} {α β γ : Type} {Q : α → Decoder → Prop} {s : Decoder}

@[simp] theorem wp_pure (a : α) : wp doc (pure a) Q s = Q a s := rfl

@[simp] theorem wp_bind (x : DecodeM β) (f : β → DecodeM α) :
    wp doc (x >>= f) Q s = wp doc x (fun b s' => wp doc (f b) Q s') s := by
  unfold wp
  simp only [ReaderT.run_bind, StateT.run_bind]
  cases (x.run doc).run s <;> rfl

@[simp] theorem wp_map (x : DecodeM β) (f : β → α) :
    wp doc (f <$> x) Q s = wp doc x (fun b s' => Q (f b) s') s := by
  unfold wp
  simp only [ReaderT.run_map, StateT.run_map]
  cases (x.run doc).run s <;> rfl

@[simp] theorem wp_get {Q : Decoder → Decoder → Prop} : wp doc get Q s = Q s s := rfl
@[simp] theorem wp_set {Q : Unit → Decoder → Prop} (s' : Decoder) :
    wp doc (set s') Q s = Q () s' := rfl
@[simp] theorem wp_modify {Q : Unit → Decoder → Prop} (f : Decoder → Decoder) :
    wp doc (modify f) Q s = Q () (f s) := rfl
@[simp] theorem wp_read {Q : Document → Decoder → Prop} : wp doc read Q s = Q doc s := rfl
@[simp] theorem wp_throw (e : Stop) : wp doc (throw e : DecodeM α) Q s := trivial
@[simp] theorem wp_halt (h : Halt) : wp doc (halt h : DecodeM α) Q s := trivial

@[simp] theorem wp_ite (c : Prop) [Decidable c] (x y : DecodeM α) :
    wp doc (if c then x else y) Q s = if c then wp doc x Q s else wp doc y Q s := by
  split <;> rfl

@[simp] theorem wp_nodeAt {Q : Node → Decoder → Prop} (i : Nat) :
    wp doc (nodeAt i) Q s = Q (doc.node i) s := rfl

@[simp] theorem wp_shortTagAt {Q : String → Decoder → Prop} (i : Nat) :
    wp doc (shortTagAt i) Q s = Q (doc.shortTagOf i) s := rfl

theorem wp_mono {x : DecodeM α} {Q' : α → Decoder → Prop} (h : wp doc x Q s)
    (hq : ∀ a s', Q a s' → Q' a s') : wp doc x Q' s := by
  unfold wp at *
  split at h <;> simp_all

theorem Yields.wp {x : DecodeM α} {P : α → Prop} (h : Yields doc x P) (hq : ∀ a s', P a → Q a s') :
    wp doc x Q s :=
  wp_mono (h s) hq

theorem yields_true (x : DecodeM α) : Yields doc x fun _ => True := by
  intro s
  unfold wp
  split <;> trivial

theorem wp_and {x : DecodeM α} {Q₁ Q₂ : α → Decoder → Prop} (h₁ : wp doc x Q₁ s)
    (h₂ : wp doc x Q₂ s) :
    wp doc x (fun a s' => Q₁ a s' ∧ Q₂ a s') s := by
  unfold wp at *
  split at h₁ <;> simp_all

theorem wp_forIn {l : List β} {init : γ} {f : β → γ → DecodeM (ForInStep γ)}
    (I : γ → Decoder → Prop) (h0 : I init s)
    (hf : ∀ x ∈ l, ∀ b s, I b s → wp doc (f x b) (fun r s' => I r.value s') s) :
    wp doc (forIn l init f) I s := by
  induction l generalizing init s with
  | nil => exact h0
  | cons x l ih =>
    simp only [List.forIn_cons, wp_bind]
    refine wp_mono (hf x (List.mem_cons_self ..) init s h0) fun r s' hr => ?_
    cases r with
    | done b => exact hr
    | yield b => exact ih hr (fun y hy => hf y (List.mem_cons_of_mem _ hy))

theorem yields_forIn {l : List β} {init : γ} {f : β → γ → DecodeM (ForInStep γ)} (I : γ → Prop)
    (h0 : I init) (hf : ∀ x ∈ l, ∀ b, I b → Yields doc (f x b) fun r => I r.value) :
    Yields doc (forIn l init f) I :=
  fun _ => wp_forIn (fun b _ => I b) h0 fun x hx b s hb => hf x hx b hb s

theorem wp_forIn_seen {l : List β} {init : γ} {f : β → γ → DecodeM (ForInStep γ)}
    (I : List β → γ → Decoder → Prop) (h0 : I [] init s)
    (hf : ∀ pre x post, l = pre ++ x :: post → ∀ b s, I pre b s →
      wp doc (f x b) (fun r s' => ∃ b', r = .yield b' ∧ I (pre ++ [x]) b' s') s) :
    wp doc (forIn l init f) (I l) s := by
  suffices h : ∀ pre rest b s, l = pre ++ rest → I pre b s → wp doc (forIn rest b f) (I l) s from
    h [] l init s rfl h0
  intro pre rest
  induction rest generalizing pre with
  | nil => intro b s hl hb; simpa [hl] using hb
  | cons x rest ih =>
    intro b s hl hb
    simp only [List.forIn_cons, wp_bind]
    refine wp_mono (hf pre x rest hl b s hb) fun r s' hr => ?_
    obtain ⟨b', rfl, hb'⟩ := hr
    exact ih (pre ++ [x]) b' s' (by simp [hl]) hb'

theorem yields_forIn_seen {l : List β} {init : γ} {f : β → γ → DecodeM (ForInStep γ)}
    (I : List β → γ → Prop) (h0 : I [] init)
    (hf : ∀ pre x post, l = pre ++ x :: post → ∀ b, I pre b →
      Yields doc (f x b) fun r => ∃ b', r = .yield b' ∧ I (pre ++ [x]) b') :
    Yields doc (forIn l init f) (I l) :=
  fun _ => wp_forIn_seen (fun pre b _ => I pre b) h0
    fun pre x post hl b s hb => hf pre x post hl b hb s

/-- The node an index names through an alias: the alias's target, or the node itself. -/
def Document.target (doc : Document) (i : Nat) : Nat :=
  if (doc.node i).kind = .alias then (doc.node i).target else i

theorem countNode_merged : wp doc countNode (fun _ s' => s'.merged = s.merged) s := by
  simp only [countNode, wp_bind, wp_modify, wp_get, wp_ite, wp_halt, wp_pure]
  split <;> simp

/-- Through an alias, what holds of the result and the merge under way carries over: an alias
only counts nodes and tracks the aliases open. -/
theorem viaAlias_wp {i : Nat} {k : Nat → DecodeM α} {Q : α → Option (List Atom) → Prop}
    (h : ∀ s', s'.merged = s.merged → wp doc (k (doc.target i)) (fun r s'' => Q r s''.merged) s') :
    wp doc (viaAlias i k) (fun r s' => Q r s'.merged) s := by
  simp only [viaAlias, wp_bind, wp_nodeAt]
  refine wp_mono countNode_merged fun _ s' hs' => ?_
  by_cases ha : (doc.node i).kind = .alias
  · have ht : (doc.node i).target = doc.target i := by simp [Document.target, ha]
    simp only [ha, if_true, wp_bind, wp_get, wp_ite, wp_halt, wp_modify, ht]
    split
    · trivial
    · refine wp_mono countNode_merged fun _ s'' hs'' => ?_
      exact wp_mono (h s'' (hs''.trans hs')) fun a _ ha => ha
  · have ht : doc.target i = i := by simp [Document.target, ha]
    simp only [ha, if_false]
    rw [← ht]
    exact h s' hs'

theorem viaAlias_yields {i : Nat} {k : Nat → DecodeM α} {P : α → Prop}
    (h : Yields doc (k (doc.target i)) P) : Yields doc (viaAlias i k) P :=
  fun _ => viaAlias_wp (Q := fun r _ => P r) fun s' _ => h s'

theorem scalarValue_yields (n : Node) :
    Yields doc (scalarValue n) fun r => n.scalarValue? = .ok r := by
  intro s
  cases h : n.scalarValue? <;> simp [scalarValue, h]

/-- What a string place reads off a scalar: its text, whether set, or `cur` for a null or a
scalar that does not resolve. -/
def Node.stringOr (n : Node) (cur : String) : Bool × String :=
  match n.scalarValue? with
  | .ok (_, .null) => (false, cur)
  | .ok (_, .text t) => (true, t)
  | .ok _ => (true, n.value)
  | .error _ => (false, cur)

/-- What a string place reads at a node of the document, through its alias: nothing from a
collection. -/
def Document.stringAt (doc : Document) (i : Nat) (cur : String) : Bool × String :=
  let n := doc.node (doc.target i)
  if n.kind = .scalar then n.stringOr cur else (false, cur)

theorem stringOf_yields (n : Node) (cur : String) :
    Yields doc (stringOf n cur) fun r => r = n.stringOr cur := by
  intro s
  simp only [stringOf, wp_bind]
  refine (scalarValue_yields n).wp fun r s' hv => ?_
  obtain ⟨tag, v⟩ := r
  cases v <;> simp [Node.stringOr, hv]

theorem stringInto_yields (i : Nat) (cur : String) :
    Yields doc (stringInto i cur) fun r => r = doc.stringAt i cur := by
  unfold stringInto scalarInto
  apply viaAlias_yields
  intro s
  simp only [wp_bind, wp_nodeAt]
  by_cases hk : (doc.node (doc.target i)).kind = .scalar
  · simp only [hk, if_true]
    exact (stringOf_yields _ cur).wp fun r _ h => by simp [Document.stringAt, hk, h]
  · simp only [hk, if_false, wp_bind]
    exact (yields_true _).wp fun _ _ _ => by simp [Document.stringAt, hk]

/-- What an integer place reads off a scalar: an integer, or a float that is a word; else
`cur`. -/
def Node.intOr (n : Node) (cur : Int) : Bool × Int :=
  match n.scalarValue? with
  | .ok (_, .int k) => (true, k)
  | .ok (_, .float x) =>
    match x.toWord? with
    | some w => (true, w)
    | none => (false, cur)
  | _ => (false, cur)

/-- What an integer place reads at a node of the document, through its alias. -/
def Document.intAt (doc : Document) (i : Nat) (cur : Int) : Bool × Int :=
  let n := doc.node (doc.target i)
  if n.kind = .scalar then n.intOr cur else (false, cur)

theorem intOf_yields (n : Node) (cur : Int) :
    Yields doc (intOf n cur) fun r => r = n.intOr cur := by
  intro s
  simp only [intOf, wp_bind]
  refine (scalarValue_yields n).wp fun r s' hv => ?_
  obtain ⟨tag, v⟩ := r
  cases v with
  | float x =>
    cases hx : x.toWord? with
    | none =>
      simp only [hx, wp_bind]
      exact (yields_true _).wp fun _ _ _ => by simp [Node.intOr, hv, hx]
    | some w => simp [Node.intOr, hv, hx]
  | bool | uint | timestamp | text =>
    simp only [wp_bind]
    exact (yields_true _).wp fun _ _ _ => by simp [Node.intOr, hv]
  | null | int => simp [Node.intOr, hv]

theorem intInto_yields (i : Nat) (cur : Int) :
    Yields doc (intInto i cur) fun r => r = doc.intAt i cur := by
  unfold intInto scalarInto
  apply viaAlias_yields
  intro s
  simp only [wp_bind, wp_nodeAt]
  by_cases hk : (doc.node (doc.target i)).kind = .scalar
  · simp only [hk, if_true]
    exact (intOf_yields _ cur).wp fun r _ h => by simp [Document.intAt, hk, h]
  · simp only [hk, if_false, wp_bind]
    exact (yields_true _).wp fun _ _ _ => by simp [Document.intAt, hk]

/-- The mappings a merge key's value names: each item of a sequence, or the value itself. -/
def Document.mergeTargets (doc : Document) (source : Nat) : List Nat :=
  if (doc.node source).kind = .sequence then (doc.node source).children else [source]

theorem mergeInto_yields {R : α → α → Prop} (hrefl : ∀ x, R x x)
    (htrans : ∀ x y z, R x y → R y z → R x z) {parent : Node} {source : Nat}
    {apply : Nat → α → DecodeM α}
    (happly : ∀ t ∈ doc.mergeTargets source, (doc.node (doc.target t)).kind = .mapping →
      ∀ x, Yields doc (apply t x) (R x))
    (cur : α) : Yields doc (mergeInto parent source apply cur) (R cur) := by
  intro s
  simp only [mergeInto, wp_bind]
  refine (yields_true _).wp fun saved s _ => ?_
  simp only [wp_nodeAt]
  have hself : (doc.node source).kind ≠ .sequence → source ∈ doc.mergeTargets source := fun h => by
    simp [Document.mergeTargets, h]
  split
  · rename_i hk
    have hmap : (doc.node (doc.target source)).kind = .mapping := by simp [Document.target, hk]
    rw [wp_bind]
    exact (happly source (hself (by simp [hk])) hmap cur).wp fun out s' h => by simpa using h
  · rename_i hk
    simp only [wp_bind, wp_nodeAt, wp_ite, wp_halt]
    split
    · trivial
    · rename_i hmap
      have hmap : (doc.node (doc.target source)).kind = .mapping := by
        simpa [Document.target, hk] using hmap
      exact (happly source (hself (by simp [hk])) hmap cur).wp fun out s' h => by simpa using h
  · rename_i hk
    rw [wp_bind]
    refine (yields_forIn (R cur) (hrefl cur) fun item hitem out hout => ?_).wp
      fun out s' h => by simpa using h
    have ht : item ∈ doc.mergeTargets source := by simpa [Document.mergeTargets, hk] using hitem
    intro s
    simp only [wp_bind, wp_nodeAt, wp_ite, wp_halt]
    split_ifs with ha hm hm
    all_goals first
      | trivial
      | exact (happly item ht (by simpa [Document.target, ha] using hm) out).wp
          fun out' s' h => htrans _ _ _ hout h
  · rw [wp_bind]
    trivial

theorem Document.stringAt_eq (doc : Document) (j : Nat) (cur : String) :
    doc.stringAt j cur = if (doc.stringAt j "").1 then doc.stringAt j "" else (false, cur) := by
  simp only [Document.stringAt, Node.stringOr]
  by_cases hk : (doc.node (doc.target j)).kind = .scalar
  · simp only [hk, if_true]
    cases (doc.node (doc.target j)).scalarValue? with
    | error => rfl
    | ok r => obtain ⟨tag, v⟩ := r; cases v <;> rfl
  · simp [hk]

theorem Document.intAt_eq (doc : Document) (j : Nat) (cur : Int) :
    doc.intAt j cur = if (doc.intAt j 0).1 then doc.intAt j 0 else (false, cur) := by
  simp only [Document.intAt, Node.intOr]
  by_cases hk : (doc.node (doc.target j)).kind = .scalar
  · simp only [hk, if_true]
    cases (doc.node (doc.target j)).scalarValue? with
    | error => rfl
    | ok r =>
      obtain ⟨tag, v⟩ := r
      cases v with
      | float x => cases hx : x.toWord? <;> simp [hx]
      | _ => rfl
  · simp [hk]

open ConfigFile in
theorem fieldsInto_yields {R : α → α → Prop} (hrefl : ∀ x, R x x)
    (htrans : ∀ x y z, R x y → R y z → R x z) {typeName : String} {names : List String}
    {setField : String → Nat → α → DecodeM α} {n : Node}
    (hset : ∀ p ∈ pairs n.children, isMergeKey (doc.node p.1) = false → ∀ name,
      doc.stringAt p.1 "" = (true, name) → name ∈ names →
      ∀ x, Yields doc (setField name p.2 x) (R x))
    (cur : α) :
    Yields doc (fieldsInto typeName names setField n cur) fun r =>
      R cur r.1 ∧
        ∀ t, r.2 = some t → ∃ k, (k, t) ∈ pairs n.children ∧ isMergeKey (doc.node k) = true := by
  intro s
  simp only [fieldsInto, wp_bind, wp_get, wp_modify]
  refine (yields_forIn (fun b => R cur b.2.1 ∧ ∀ t, b.2.2.2 = some t →
      ∃ k, (k, t) ∈ pairs n.children ∧ isMergeKey (doc.node k) = true) ⟨hrefl cur, by simp⟩ ?_).wp ?_
  · rintro ⟨k, v⟩ hkv ⟨merged, out, done, source⟩ ⟨hout, hsource⟩ s
    simp only [wp_bind, wp_nodeAt, wp_ite, wp_pure, wp_get]
    split
    · exact ⟨hout, fun t ht => ⟨k, by simpa [← Option.some.inj ht] using hkv, ‹_›⟩⟩
    rename_i hmerge
    refine (stringInto_yields k "").wp fun r s' hr => ?_
    rcases r with ⟨_ | _, name⟩
    · exact ⟨hout, hsource⟩
    split_ifs with hok hskip hname hdone hknown
    · exact absurd hok (by simp)
    · exact ⟨hout, hsource⟩
    · exact (yields_true _).wp fun _ _ _ => ⟨hout, hsource⟩
    · have hset' := hset (k, v) hkv (by simpa using hmerge) name hr.symm (by simpa using hname) out
      exact hset'.wp fun out' _ h => ⟨htrans _ _ _ hout h, hsource⟩
    · exact (yields_true _).wp fun _ _ _ => ⟨hout, hsource⟩
    · exact ⟨hout, hsource⟩
  · intro b s' hb
    exact hb

open ConfigFile in
theorem recordInto_yields {R : α → α → Prop} (hrefl : ∀ x, R x x)
    (htrans : ∀ x y z, R x y → R y z → R x z) {typeName : String} {names : List String}
    {setField : String → Nat → α → DecodeM α} {again : Nat → α → DecodeM α} {i : Nat}
    (hset : (doc.node (doc.target i)).kind = .mapping →
      ∀ p ∈ pairs (doc.node (doc.target i)).children, isMergeKey (doc.node p.1) = false →
      ∀ name, doc.stringAt p.1 "" = (true, name) → name ∈ names →
      ∀ x, Yields doc (setField name p.2 x) (R x))
    (hagain : (doc.node (doc.target i)).kind = .mapping →
      ∀ p ∈ pairs (doc.node (doc.target i)).children, isMergeKey (doc.node p.1) = true →
      ∀ t ∈ doc.mergeTargets p.2, ∀ x, Yields doc (again t x) (R x))
    (cur : α) :
    Yields doc (recordInto typeName names setField again i cur) fun r => R cur r.2 := by
  unfold recordInto
  apply viaAlias_yields
  intro s
  simp only [wp_bind, wp_nodeAt]
  split
  · rename_i hmap
    simp only [wp_bind, wp_ite, wp_pure]
    refine (yields_true _).wp fun dup s _ => ?_
    cases dup
    · refine (fieldsInto_yields hrefl htrans (hset hmap) cur).wp fun r s' h => ?_
      obtain ⟨out, source⟩ := r
      obtain ⟨hout, hsource⟩ := h
      cases source with
      | none => exact hout
      | some t =>
        obtain ⟨k, hk, hmerge⟩ := hsource t rfl
        simp only [wp_bind, wp_pure]
        exact (mergeInto_yields hrefl htrans
          (fun t' ht' _ => hagain hmap (k, t) hk hmerge t' ht') out).wp
          fun r _ h => htrans _ _ _ hout h
    · exact hrefl cur
  · simp only [wp_bind, wp_ite, wp_pure]
    refine (yields_true _).wp fun _ s _ => ?_
    split
    · exact (yields_true _).wp fun _ _ _ => hrefl cur
    · exact hrefl cur
  · simp only [wp_bind, wp_pure]
    exact (yields_true _).wp fun _ _ _ => hrefl cur
  · exact hrefl cur

/-! ## The merge under way -/

/-- How a decoding step leaves the keys a merge has set: `P before after` for every run of it
that ends. -/
def KeepsMerge (doc : Document) (P : Option (List Atom) → Option (List Atom) → Prop)
    (x : DecodeM α) : Prop :=
  ∀ s, wp doc x (fun _ s' => P s.merged s'.merged) s

/-- No merge under way after, when there was none before. -/
def Unmerged (m m' : Option (List Atom)) : Prop := m = none → m' = none

instance : Std.Refl Unmerged := ⟨fun _ => id⟩

instance : Trans Unmerged Unmerged Unmerged := ⟨fun h h' hm => h' (h hm)⟩

section
variable {P : Option (List Atom) → Option (List Atom) → Prop}

theorem KeepsMerge.pure [Std.Refl P] (a : α) : KeepsMerge doc P (Pure.pure a : DecodeM α) :=
  fun s => Std.Refl.refl s.merged

theorem KeepsMerge.bind [Trans P P P] {x : DecodeM β} {f : β → DecodeM α} (hx : KeepsMerge doc P x)
    (hf : ∀ b, KeepsMerge doc P (f b)) : KeepsMerge doc P (x >>= f) := fun s => by
  rw [wp_bind]
  exact wp_mono (hx s) fun b s' h => wp_mono (hf b s') fun _ _ h' => Trans.trans h h'

theorem KeepsMerge.forIn [Std.Refl P] [Trans P P P] {l : List β} {init : γ}
    {f : β → γ → DecodeM (ForInStep γ)} (hf : ∀ x ∈ l, ∀ b, KeepsMerge doc P (f x b)) :
    KeepsMerge doc P (forIn l init f) := fun s =>
  wp_forIn (fun _ s' => P s.merged s'.merged) (Std.Refl.refl _) fun x hx b s' h =>
    wp_mono (hf x hx b s') fun _ _ h' => Trans.trans h h'

theorem KeepsMerge.of_eq [Std.Refl P] {x : DecodeM α} (h : KeepsMerge doc Eq x) :
    KeepsMerge doc P x :=
  fun s => wp_mono (h s) fun _ _ h' => h' ▸ Std.Refl.refl _

theorem KeepsMerge.nodeAt [Std.Refl P] (i : Nat) : KeepsMerge doc P (nodeAt i) :=
  fun s => Std.Refl.refl s.merged

theorem KeepsMerge.shortTagAt [Std.Refl P] (i : Nat) : KeepsMerge doc P (shortTagAt i) :=
  fun s => Std.Refl.refl s.merged

end

/-- A step leaves no merge under way when every run of it from a state without one ends
without one. -/
theorem KeepsMerge.unmerged {x : DecodeM α}
    (h : ∀ s, s.merged = none → wp doc x (fun _ s' => s'.merged = none) s) :
    KeepsMerge doc Unmerged x :=
  fun s => if hs : s.merged = none then wp_mono (h s hs) fun _ _ h' _ => h'
    else (yields_true x).wp fun _ _ _ h => absurd h hs

theorem recordError_keepsMerge (text : String) : KeepsMerge doc Eq (recordError text) :=
  fun _ => rfl

theorem typeError_keepsMerge (n : Node) (tag typeName : String) :
    KeepsMerge doc Eq (typeError n tag typeName) :=
  fun _ => rfl

theorem duplicateKeys_keepsMerge (n : Node) : KeepsMerge doc Eq (duplicateKeys n) := by
  unfold duplicateKeys
  refine .bind (.forIn fun i _ b => .bind (fun _ => rfl) fun ni => .bind (.forIn fun j _ b => ?_)
    fun _ => .pure _) fun _ => .pure _
  intro s
  simp only [wp_bind, wp_nodeAt, wp_ite, wp_pure]
  split
  · exact recordError_keepsMerge _ s
  · trivial

theorem KeepsMerge.viaAlias {P : Option (List Atom) → Option (List Atom) → Prop} {i : Nat}
    {k : Nat → DecodeM α} (hk : KeepsMerge doc P (k (doc.target i))) :
    KeepsMerge doc P (viaAlias i k) := fun s =>
  viaAlias_wp (Q := fun _ m => P s.merged m) fun s' hs' => hs' ▸ hk s'

theorem collectionMisfit_keepsMerge (n : Node) (typeName : String) :
    KeepsMerge doc Eq (collectionMisfit n typeName) := by
  unfold collectionMisfit
  split
  · refine .bind (duplicateKeys_keepsMerge n) fun dup => ?_
    split
    · exact typeError_keepsMerge _ _ _
    · exact .pure _
  · exact typeError_keepsMerge _ _ _
  · exact .pure _

theorem scalarValue_keepsMerge (n : Node) : KeepsMerge doc Eq (scalarValue n) := fun s => by
  cases h : n.scalarValue? <;> simp [scalarValue, h]

theorem intOf_keepsMerge (n : Node) (cur : Int) : KeepsMerge doc Eq (intOf n cur) := by
  unfold intOf
  refine .bind (scalarValue_keepsMerge n) fun r => ?_
  split
  split
  on_goal 3 => split
  all_goals first | exact .pure _ | exact .bind (typeError_keepsMerge _ _ _) fun _ => .pure _

theorem stringOf_keepsMerge (n : Node) (cur : String) : KeepsMerge doc Eq (stringOf n cur) := by
  unfold stringOf
  refine .bind (scalarValue_keepsMerge n) fun r => ?_
  split
  split <;> exact .pure _

theorem boolOf_keepsMerge (n : Node) (cur : Bool) : KeepsMerge doc Eq (boolOf n cur) := by
  unfold boolOf
  refine .bind (scalarValue_keepsMerge n) fun r => ?_
  split
  split
  on_goal 3 => split_ifs
  all_goals first | exact .pure _ | exact .bind (typeError_keepsMerge _ _ _) fun _ => .pure _

theorem scalarInto_keepsMerge {convert : Node → α → DecodeM (Bool × α)}
    (hconvert : ∀ n x, KeepsMerge doc Eq (convert n x)) (typeName : String) (i : Nat) (cur : α) :
    KeepsMerge doc Eq (scalarInto convert typeName i cur) := by
  unfold scalarInto
  refine .viaAlias (.bind (.nodeAt _) fun n => ?_)
  split
  · exact hconvert n cur
  · exact .bind (collectionMisfit_keepsMerge _ _) fun _ => .pure _

theorem intInto_keepsMerge (i : Nat) (cur : Int) : KeepsMerge doc Eq (intInto i cur) :=
  scalarInto_keepsMerge intOf_keepsMerge _ i cur

theorem stringInto_keepsMerge (i : Nat) (cur : String) : KeepsMerge doc Eq (stringInto i cur) :=
  scalarInto_keepsMerge stringOf_keepsMerge _ i cur

theorem boolInto_keepsMerge (i : Nat) (cur : Bool) : KeepsMerge doc Eq (boolInto i cur) :=
  scalarInto_keepsMerge boolOf_keepsMerge _ i cur

/-- Starting a merge gives the keys set before it. -/
theorem seedKeys_saved (parent : Node) : wp doc (seedKeys parent) (fun r _ => r = s.merged) s := by
  simp only [seedKeys, wp_bind, wp_get]
  split
  · simp only [wp_bind, wp_read, wp_modify]
    exact (yields_true _).wp fun _ _ _ => rfl
  · rfl

/-- A merge puts back the keys set before it, whatever the mappings merged do. -/
theorem mergeInto_keepsMerge (parent : Node) (source : Nat) (apply : Nat → α → DecodeM α) (cur : α) :
    KeepsMerge doc Eq (mergeInto parent source apply cur) := fun s => by
  simp only [mergeInto, wp_bind]
  refine wp_mono (seedKeys_saved parent) fun saved s' hsaved => ?_
  simp only [wp_nodeAt]
  split
  · simp only [wp_bind, wp_modify, wp_pure]
    exact (yields_true _).wp fun _ _ _ => hsaved.symm
  · simp only [wp_bind, wp_nodeAt, wp_ite, wp_halt, wp_modify, wp_pure]
    split
    · trivial
    · exact (yields_true _).wp fun _ _ _ => hsaved.symm
  · simp only [wp_bind, wp_modify, wp_pure]
    exact (yields_true _).wp fun _ _ _ => hsaved.symm
  · simp only [wp_bind, wp_halt]

open ConfigFile in
/-- The fields of a mapping leave no merge under way when the fields set leave none: the keys
it claims are only kept while a merge is under way. -/
theorem fieldsInto_unmerged {typeName : String} {names : List String}
    {setField : String → Nat → α → DecodeM α}
    (hset : ∀ name v x, KeepsMerge doc Unmerged (setField name v x)) (n : Node) (cur : α) :
    KeepsMerge doc Unmerged (fieldsInto typeName names setField n cur) := by
  refine .unmerged fun s hs => ?_
  simp only [fieldsInto, wp_bind, wp_get, wp_modify]
  refine wp_mono (wp_forIn (fun b s' => b.1 = none ∧ s'.merged = none) ⟨hs, rfl⟩ ?_)
    fun b s' h => by simpa using h.1
  rintro ⟨k, v⟩ _ ⟨merged, out, done, source⟩ s' ⟨hmerged, hs'⟩
  dsimp only at hmerged
  subst hmerged
  simp only [wp_bind, wp_nodeAt, wp_ite, wp_pure, wp_get]
  split
  · exact ⟨rfl, hs'⟩
  refine wp_mono (stringInto_keepsMerge k "" s') fun r s'' hr => ?_
  have hs'' : s''.merged = none := hr ▸ hs'
  obtain ⟨ok, name⟩ := r
  simp only [claimKey]
  split_ifs
  all_goals first
    | exact ⟨rfl, hs''⟩
    | exact wp_mono (hset name v out s'') fun _ _ h => ⟨rfl, h hs''⟩

open ConfigFile in
theorem recordInto_unmerged {typeName : String} {names : List String}
    {setField : String → Nat → α → DecodeM α}
    (hset : ∀ name v x, KeepsMerge doc Unmerged (setField name v x)) (again : Nat → α → DecodeM α)
    (i : Nat) (cur : α) :
    KeepsMerge doc Unmerged (recordInto typeName names setField again i cur) := by
  unfold recordInto
  refine .viaAlias (.bind (.nodeAt _) fun n => ?_)
  split
  · refine .bind (.of_eq (duplicateKeys_keepsMerge n)) fun dup => ?_
    split
    · exact .pure _
    · refine .bind (fieldsInto_unmerged hset n cur) fun r => ?_
      split
      split
      · exact .bind (.of_eq (mergeInto_keepsMerge _ _ _ _)) fun _ => .pure _
      · exact .pure _
  · refine .bind (.of_eq (scalarValue_keepsMerge n)) fun r => ?_
    split
    dsimp only
    split
    · exact .bind (.of_eq (typeError_keepsMerge _ _ _)) fun _ => .pure _
    · exact .pure _
  · exact .bind (.of_eq (typeError_keepsMerge _ _ _)) fun _ => .pure _
  · exact .pure _

/-- A key met after the first place of another in a list whose images are distinct has another
image. -/
theorem ne_of_mem_drop_idxOf {l : List Nat} {f : Nat → β} (h : (l.map f).Nodup) {i j : Nat}
    (hi : i ∈ l) (hj : j ∈ l.drop (l.idxOf i + 1)) : f i ≠ f j := by
  have hlt : l.idxOf i < l.length := List.idxOf_lt_length_of_mem hi
  have htake : i ∈ l.take (l.idxOf i + 1) :=
    List.mem_take_iff_getElem.mpr ⟨l.idxOf i, by omega, List.getElem_idxOf hlt⟩
  rw [← List.take_append_drop (l.idxOf i + 1) l, List.map_append, List.nodup_append] at h
  exact h.2.2 (f i) (List.mem_map_of_mem htake) (f j) (List.mem_map_of_mem hj)

/-- A mapping whose keys are distinct scalars has no key written twice. -/
theorem duplicateKeys_false {n : Node}
    (h : (((pairs n.children).map (·.1)).map fun k => ((doc.node k).kind, (doc.node k).value)).Nodup) :
    wp doc (duplicateKeys n) (fun r _ => r = false) s := by
  simp only [duplicateKeys, wp_bind]
  refine wp_mono (wp_forIn (fun b _ => b = false) rfl fun i hi b s' hb => ?_) fun b _ hb => hb
  simp only [wp_bind, wp_nodeAt]
  refine wp_mono (wp_forIn (fun b _ => b = false) hb fun j hj b' s'' hb' => ?_) fun b _ hb => hb
  have hne := ne_of_mem_drop_idxOf h hi hj
  simp only [wp_bind, wp_nodeAt, wp_ite, wp_pure]
  rw [if_neg]
  · exact hb'
  · simpa [Prod.ext_iff] using hne

end Yaml
end KernelSynth
