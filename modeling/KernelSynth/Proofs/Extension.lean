/-
# Extending a catalog by a map of operations

A map of operations is a list of opcode and text pairs with no opcode twice.
Extending a catalog by one is a right-biased union of two finite maps, with
every new entry read by `Template.ofText` on the way:

* it fails exactly when some operation is refused, and then it reports the
  refused operations' faults in ascending byte order of their opcodes;
* the order the map is given in does not matter;
* on success an opcode of the map looks up the template read from its text,
  any other opcode looks up what it did before (an unknown operation if it
  was in neither), and the opcodes are the sorted union of the old ones and
  the map's, each once.

Catalogs are values, so the catalog extended answers as it did before.

Texts are ordered by their bytes (`Text.byteLt`). That is a strict total
order on the texts the library decodes (`Text.Canonical`): two distinct such
texts have distinct bytes. The catalogs a program can reach, the default one
and its extensions by such maps (`Catalog.Reachable`), keep their opcodes in
strictly ascending byte order (`Catalog.Ordered`), and inserting a template
keeps them so.

Key definitions: `Text.Canonical`, `Catalog.refusal`, `Catalog.Ordered`,
`Catalog.Reachable`.
Key theorems: `Catalog.lookup?_insert`, `Catalog.Ordered.insert`,
`Catalog.byOpcode_eq_of_perm`, `Catalog.gather_snd`, `Catalog.Reachable.ordered`,
`Catalog.extend_overrides`.
-/
import Mathlib
import KernelSynth.Catalog

namespace KernelSynth
namespace Text

/-- A text in the one form the library gives each run of bytes: read back from its own bytes,
it is itself. -/
def Canonical (s : String) : Prop := ofBytes (bytes s) = s

theorem Canonical.eq_of_bytes_eq {a b : String} (ha : Canonical a) (hb : Canonical b)
    (h : bytes a = bytes b) : a = b := by
  rw [← ha, ← hb, h]

@[simp] theorem bytesLt_self : ∀ l : List Nat, bytesLt l l = false
  | [] => rfl
  | a :: l => by simp [bytesLt, bytesLt_self l]

theorem bytesLt_trans : ∀ {a b c : List Nat}, bytesLt a b → bytesLt b c → bytesLt a c
  | [], [], _, h, _ => by simp [bytesLt] at h
  | [], _ :: _, [], _, h => by simp [bytesLt] at h
  | [], _ :: _, _ :: _, _, _ => rfl
  | _ :: _, [], _, h, _ => by simp [bytesLt] at h
  | _ :: _, _ :: _, [], _, h => by simp [bytesLt] at h
  | x :: a, y :: b, z :: c, h1, h2 => by
    unfold bytesLt at h1 h2 ⊢
    by_cases hxy : x = y
    · subst hxy
      by_cases hxz : x = z
      · subst hxz
        simp only [if_true] at h1 h2 ⊢
        exact bytesLt_trans h1 h2
      · simp only [if_true, hxz, if_false, decide_eq_true_eq] at h1 h2 ⊢
        exact h2
    · simp only [hxy, if_false, decide_eq_true_eq] at h1
      by_cases hyz : y = z
      · subst hyz
        simp [hxy, h1]
      · simp only [hyz, if_false, decide_eq_true_eq] at h2
        have hxz : x ≠ z := by omega
        simp only [hxz, if_false, decide_eq_true_eq]
        omega

/-- Of two different runs of bytes, one comes before the other. -/
theorem bytesLt_or_bytesLt : ∀ {a b : List Nat}, a ≠ b → bytesLt a b ∨ bytesLt b a
  | [], [], h => absurd rfl h
  | [], _ :: _, _ => .inl rfl
  | _ :: _, [], _ => .inr rfl
  | x :: a, y :: b, h => by
    by_cases hxy : x = y
    · subst hxy
      have hab : a ≠ b := fun e => h (e ▸ rfl)
      simpa [bytesLt] using bytesLt_or_bytesLt hab
    · have hyx : y ≠ x := Ne.symm hxy
      simp only [bytesLt, hxy, hyx, if_false, decide_eq_true_eq]
      omega

@[simp] theorem byteLt_self (a : String) : byteLt a a = false := bytesLt_self _

theorem byteLt_trans {a b c : String} : byteLt a b → byteLt b c → byteLt a c := bytesLt_trans

theorem byteLt_asymm {a b : String} (h : byteLt a b) : byteLt b a = false := by
  cases h' : byteLt b a
  · rfl
  · simpa using byteLt_trans h h'

theorem ne_of_byteLt {a b : String} (h : byteLt a b) : a ≠ b := by
  rintro rfl
  simp at h

/-- Of two different texts of the library's form, one comes before the other. -/
theorem Canonical.byteLt_or_byteLt {a b : String} (ha : Canonical a) (hb : Canonical b)
    (h : a ≠ b) : byteLt a b ∨ byteLt b a :=
  bytesLt_or_bytesLt fun e => h (ha.eq_of_bytes_eq hb e)

end Text

namespace Catalog

/-! ### Inserting a template -/

theorem find?_place (t : Template) (x : String) : ∀ ts : List Template,
    (place t ts).find? (·.opcode = x) = if t.opcode = x then some t else ts.find? (·.opcode = x)
  | [] => by simp [place]
  | u :: us => by
    unfold place
    by_cases hlt : Text.byteLt t.opcode u.opcode
    · rw [if_pos hlt, List.find?_cons]
      by_cases hx : t.opcode = x <;> simp [hx]
    · by_cases heq : t.opcode = u.opcode
      · -- `t` replaces `u`, which had the same opcode
        rw [if_neg hlt, if_pos heq, List.find?_cons, List.find?_cons, heq]
        by_cases hx : u.opcode = x <;> simp [hx]
      · rw [if_neg hlt, if_neg heq, List.find?_cons, find?_place t x us, List.find?_cons]
        by_cases hu : u.opcode = x
        · have ht : t.opcode ≠ x := fun e => heq (e.trans hu.symm)
          simp [hu, ht]
        · simp [hu]

/-- A template inserted is found under its opcode, and every other opcode finds what it found
before. -/
theorem lookup?_insert (c : Catalog) (t : Template) (x : String) :
    (c.insert t).lookup? x = if t.opcode = x then some t else c.lookup? x :=
  find?_place t x c.templates

theorem mem_map_place (t : Template) (x : String) : ∀ ts : List Template,
    x ∈ (place t ts).map (·.opcode) ↔ x = t.opcode ∨ x ∈ ts.map (·.opcode)
  | [] => by simp [place]
  | u :: us => by
    unfold place
    by_cases hlt : Text.byteLt t.opcode u.opcode
    · rw [if_pos hlt]
      simp
    · by_cases heq : t.opcode = u.opcode
      · rw [if_neg hlt, if_pos heq]
        simp [heq]
      · rw [if_neg hlt, if_neg heq]
        simp only [List.map_cons, List.mem_cons, mem_map_place t x us]
        tauto

theorem mem_opcodes_insert (c : Catalog) (t : Template) (x : String) :
    x ∈ (c.insert t).opcodes ↔ x = t.opcode ∨ x ∈ c.opcodes :=
  mem_map_place t x c.templates

/-- The opcodes of a catalog ascend strictly in byte order, each once, and are texts of the
library's form. -/
def Ordered (c : Catalog) : Prop :=
  c.opcodes.Pairwise (Text.byteLt · ·) ∧ ∀ x ∈ c.opcodes, Text.Canonical x

theorem pairwise_place (t : Template) (ht : Text.Canonical t.opcode) :
    ∀ ts : List Template, (ts.map (·.opcode)).Pairwise (Text.byteLt · ·) →
      (∀ x ∈ ts.map (·.opcode), Text.Canonical x) →
      ((place t ts).map (·.opcode)).Pairwise (Text.byteLt · ·)
  | [], _, _ => by simp [place]
  | u :: us, hs, hc => by
    rw [List.map_cons, List.pairwise_cons] at hs
    unfold place
    by_cases hlt : Text.byteLt t.opcode u.opcode
    · -- `t` goes first: it comes before `u`, so before all that follow `u`
      rw [if_pos hlt, List.map_cons, List.pairwise_cons]
      refine ⟨?_, List.map_cons .. ▸ List.pairwise_cons.mpr hs⟩
      intro y hy
      rcases List.mem_cons.mp (List.map_cons .. ▸ hy) with rfl | hy
      · exact hlt
      · exact Text.byteLt_trans hlt (hs.1 y hy)
    · by_cases heq : t.opcode = u.opcode
      · rw [if_neg hlt, if_pos heq, List.map_cons, List.pairwise_cons, heq]
        exact hs
      · -- `t` goes after `u`: the order is total on the library's texts
        have hut : Text.byteLt u.opcode t.opcode :=
          ((Text.Canonical.byteLt_or_byteLt ht (hc _ (by simp)) heq).resolve_left hlt)
        have hrest := pairwise_place t ht us hs.2 fun x hx => hc x (by simp [hx])
        rw [if_neg hlt, if_neg heq, List.map_cons, List.pairwise_cons]
        refine ⟨?_, hrest⟩
        intro y hy
        rcases (mem_map_place t y us).mp hy with rfl | hy
        · exact hut
        · exact hs.1 y hy

/-- Inserting a template whose opcode is of the library's form keeps a catalog ordered. -/
theorem Ordered.insert {c : Catalog} (hc : c.Ordered) {t : Template}
    (ht : Text.Canonical t.opcode) : (c.insert t).Ordered := by
  refine ⟨pairwise_place t ht c.templates hc.1 hc.2, ?_⟩
  intro x hx
  rcases (mem_opcodes_insert c t x).mp hx with rfl | hx
  · exact ht
  · exact hc.2 x hx

theorem lookup?_eq_none {c : Catalog} {x : String} (hx : x ∉ c.opcodes) : c.lookup? x = none := by
  unfold lookup?
  rw [List.find?_eq_none]
  intro t ht e
  exact hx (List.mem_map.mpr ⟨t, ht, by simpa using e⟩)

/-! ### Operations in the order of their opcodes -/

theorem insertByOpcode_eq_orderedInsert (o : String × String) : ∀ xs : List (String × String),
    insertByOpcode o xs = xs.orderedInsert (fun a b => Text.byteLt a.1 b.1) o
  | [] => rfl
  | x :: xs => by simp [insertByOpcode, insertByOpcode_eq_orderedInsert o xs]

theorem mem_insertByOpcode {o y : String × String} {xs : List (String × String)} :
    y ∈ insertByOpcode o xs ↔ y = o ∨ y ∈ xs := by
  rw [insertByOpcode_eq_orderedInsert, List.mem_orderedInsert]

theorem byOpcode_eq_insertionSort : ∀ ops : List (String × String),
    byOpcode ops = ops.insertionSort fun a b => Text.byteLt a.1 b.1
  | [] => rfl
  | o :: os => by
    rw [byOpcode, insertByOpcode_eq_orderedInsert, byOpcode_eq_insertionSort os,
      List.insertionSort_cons]

theorem perm_byOpcode (ops : List (String × String)) : (byOpcode ops).Perm ops := by
  rw [byOpcode_eq_insertionSort]
  exact List.perm_insertionSort _ _

/-- An operation inserted among operations strictly ascending by opcode, none with its opcode,
all of the library's form, keeps them strictly ascending. -/
theorem pairwise_insertByOpcode (o : String × String) (ho : Text.Canonical o.1) :
    ∀ xs : List (String × String), xs.Pairwise (fun a b => Text.byteLt a.1 b.1) →
      (∀ p ∈ xs, o.1 ≠ p.1) → (∀ p ∈ xs, Text.Canonical p.1) →
      (insertByOpcode o xs).Pairwise fun a b => Text.byteLt a.1 b.1
  | [], _, _, _ => by simp [insertByOpcode]
  | x :: xs, hs, hfresh, hc => by
    rw [List.pairwise_cons] at hs
    unfold insertByOpcode
    by_cases hlt : Text.byteLt o.1 x.1
    · rw [if_pos hlt, List.pairwise_cons]
      refine ⟨?_, List.pairwise_cons.mpr hs⟩
      intro y hy
      rcases List.mem_cons.mp hy with rfl | hy
      · exact hlt
      · exact Text.byteLt_trans hlt (hs.1 y hy)
    · -- `o` goes after `x`: the order is total on the library's texts
      have hxo : Text.byteLt x.1 o.1 :=
        (Text.Canonical.byteLt_or_byteLt ho (hc x (by simp)) (hfresh x (by simp))).resolve_left hlt
      have hrest := pairwise_insertByOpcode o ho xs hs.2 (fun p hp => hfresh p (by simp [hp]))
        (fun p hp => hc p (by simp [hp]))
      rw [if_neg hlt, List.pairwise_cons]
      refine ⟨?_, hrest⟩
      intro y hy
      rcases mem_insertByOpcode.mp hy with rfl | hy
      · exact hxo
      · exact hs.1 y hy

/-- The operations of a map, of the library's form, come out strictly ascending by opcode. -/
theorem pairwise_byOpcode : ∀ {ops : List (String × String)}, (ops.map Prod.fst).Nodup →
    (∀ p ∈ ops, Text.Canonical p.1) → (byOpcode ops).Pairwise fun a b => Text.byteLt a.1 b.1
  | [], _, _ => List.Pairwise.nil
  | o :: os, hk, hc => by
    rw [List.map_cons, List.nodup_cons] at hk
    have hmem : ∀ {p}, p ∈ byOpcode os → p ∈ os := fun hp => (perm_byOpcode os).subset hp
    exact pairwise_insertByOpcode o (hc o (by simp)) _
      (pairwise_byOpcode hk.2 fun p hp => hc p (List.mem_cons_of_mem _ hp))
      (fun p hp e => hk.1 (List.mem_map.mpr ⟨p, hmem hp, e.symm⟩))
      (fun p hp => hc p (List.mem_cons_of_mem _ (hmem hp)))

/-- A map of operations of the library's form is read in one order, whatever order it is
given in. -/
theorem byOpcode_eq_of_perm {ops ops' : List (String × String)} (hp : ops'.Perm ops)
    (hk : (ops.map Prod.fst).Nodup) (hc : ∀ p ∈ ops, Text.Canonical p.1) :
    byOpcode ops' = byOpcode ops := by
  have hk' : (ops'.map Prod.fst).Nodup := (hp.map Prod.fst).nodup_iff.mpr hk
  have hc' : ∀ p ∈ ops', Text.Canonical p.1 := fun p h => hc p (hp.subset h)
  apply List.Perm.eq_of_pairwise _ (pairwise_byOpcode hk' hc') (pairwise_byOpcode hk hc)
  · exact ((perm_byOpcode ops').trans hp).trans (perm_byOpcode ops).symm
  · intro a b _ _ hab hba
    simp [Text.byteLt_asymm hab] at hba

/-! ### Reading operations onto a catalog -/

/-- The fault of an operation that `Template.ofText` refuses; none for one it reads. -/
def refusal (op : String × String) : Option Fault :=
  match Template.ofText op.1 op.2 with
  | .ok _ => none
  | .error f => some f

theorem refusal_eq_none_iff (op : String × String) :
    refusal op = none ↔ ∃ t, Template.ofText op.1 op.2 = .ok t := by
  unfold refusal
  split <;> simp_all

theorem refusal_ne_none_iff (op : String × String) :
    refusal op ≠ none ↔ ∃ f, Template.ofText op.1 op.2 = .error f := by
  unfold refusal
  split <;> simp_all

theorem opcode_of_ofText {op text : String} {t : Template} (h : Template.ofText op text = .ok t) :
    t.opcode = op := by
  obtain ⟨-, -, -, rfl⟩ := (Template.ofText_eq_ok_iff op text t).mp h
  rfl

theorem gather_cons_ok {c : Catalog} {fs : List Fault} {op text : String} {t : Template}
    (rest : List (String × String)) (h : Template.ofText op text = .ok t) :
    gather (c, fs) ((op, text) :: rest) = gather (c.insert t, fs) rest := by
  simp only [gather, h]

theorem gather_cons_error {c : Catalog} {fs : List Fault} {op text : String} {f : Fault}
    (rest : List (String × String)) (h : Template.ofText op text = .error f) :
    gather (c, fs) ((op, text) :: rest) = gather (c, fs ++ [f]) rest := by
  simp only [gather, h]

/-- The faults gathered are those of the refused operations, in the order they are read. -/
theorem gather_snd : ∀ (ops : List (String × String)) (c : Catalog) (fs : List Fault),
    (gather (c, fs) ops).2 = fs ++ ops.filterMap refusal
  | [], _, _ => by simp [gather]
  | (op, text) :: rest, c, fs => by
    cases h : Template.ofText op text with
    | ok t =>
      rw [gather_cons_ok rest h, gather_snd rest, List.filterMap_cons, refusal, h]
    | error f =>
      rw [gather_cons_error rest h, gather_snd rest, List.filterMap_cons, refusal, h]
      simp

/-- An opcode that no operation has looks up what it did before. -/
theorem lookup?_gather_of_not_mem : ∀ (ops : List (String × String)) (c : Catalog)
    (fs : List Fault) {x : String}, x ∉ ops.map Prod.fst →
      (gather (c, fs) ops).1.lookup? x = c.lookup? x
  | [], _, _, _, _ => rfl
  | (op, text) :: rest, c, fs, x, hx => by
    rw [List.map_cons, List.mem_cons, not_or] at hx
    cases h : Template.ofText op text with
    | ok t =>
      rw [gather_cons_ok rest h, lookup?_gather_of_not_mem rest _ _ hx.2, lookup?_insert,
        opcode_of_ofText h, if_neg (Ne.symm hx.1)]
    | error f =>
      rw [gather_cons_error rest h, lookup?_gather_of_not_mem rest _ _ hx.2]

/-- The opcode of an operation read looks up the template read from it, when no other
operation has that opcode. -/
theorem lookup?_gather_of_mem : ∀ {ops : List (String × String)} (c : Catalog) (fs : List Fault)
    {x text : String} {t : Template}, (ops.map Prod.fst).Nodup → (x, text) ∈ ops →
      Template.ofText x text = .ok t → (gather (c, fs) ops).1.lookup? x = some t
  | [], _, _, _, _, _, _, hmem, _ => absurd hmem List.not_mem_nil
  | (op, text') :: rest, c, fs, x, text, t, hk, hmem, ht => by
    rw [List.map_cons, List.nodup_cons] at hk
    rcases List.mem_cons.mp hmem with heq | hmem
    · -- the operation read first: no later one has its opcode
      obtain ⟨rfl, rfl⟩ := Prod.mk.inj heq
      rw [gather_cons_ok rest ht, lookup?_gather_of_not_mem rest _ _ hk.1, lookup?_insert,
        opcode_of_ofText ht, if_pos rfl]
    · cases h : Template.ofText op text' with
      | ok u =>
        rw [gather_cons_ok rest h]
        exact lookup?_gather_of_mem _ _ hk.2 hmem ht
      | error f =>
        rw [gather_cons_error rest h]
        exact lookup?_gather_of_mem _ _ hk.2 hmem ht

/-- When every operation is read, the opcodes are the old ones and the operations'. -/
theorem mem_opcodes_gather : ∀ (ops : List (String × String)) (c : Catalog) (fs : List Fault),
    (∀ p ∈ ops, refusal p = none) → ∀ x,
      x ∈ (gather (c, fs) ops).1.opcodes ↔ x ∈ c.opcodes ∨ x ∈ ops.map Prod.fst
  | [], _, _, _, _ => by simp [gather]
  | (op, text) :: rest, c, fs, hall, x => by
    have hrest : ∀ p ∈ rest, refusal p = none := fun p hp => hall p (List.mem_cons_of_mem _ hp)
    obtain ⟨t, ht⟩ := (refusal_eq_none_iff _).mp (hall (op, text) List.mem_cons_self)
    rw [gather_cons_ok rest ht, mem_opcodes_gather rest _ _ hrest, mem_opcodes_insert,
      opcode_of_ofText ht, List.map_cons, List.mem_cons]
    tauto

/-- Reading operations whose opcodes are of the library's form keeps a catalog ordered. -/
theorem Ordered.gather : ∀ {ops : List (String × String)} {c : Catalog} (fs : List Fault),
    c.Ordered → (∀ p ∈ ops, Text.Canonical p.1) → (Catalog.gather (c, fs) ops).1.Ordered
  | [], _, _, hc, _ => hc
  | (op, text) :: rest, c, fs, hc, hcan => by
    have hrest : ∀ p ∈ rest, Text.Canonical p.1 := fun p hp => hcan p (List.mem_cons_of_mem _ hp)
    cases h : Template.ofText op text with
    | ok t =>
      have ht : Text.Canonical t.opcode := by
        rw [opcode_of_ofText h]
        exact hcan (op, text) List.mem_cons_self
      rw [gather_cons_ok rest h]
      exact (hc.insert ht).gather fs hrest
    | error f =>
      rw [gather_cons_error rest h]
      exact hc.gather _ hrest

/-! ### Extending a catalog -/

/-- Extending reads the operations in the order of their opcodes; it succeeds with what they
build when none is refused, and fails with the refusals otherwise. -/
theorem extend_eq (c : Catalog) (ops : List (String × String)) :
    c.extend ops =
      if (byOpcode ops).filterMap refusal = [] then .ok (gather (c, []) (byOpcode ops)).1
      else .error ((byOpcode ops).filterMap refusal) := by
  have hs := gather_snd (byOpcode ops) c []
  rw [List.nil_append] at hs
  unfold extend
  rcases hg : gather (c, []) (byOpcode ops) with ⟨c₀, fs₀⟩
  rw [hg] at hs
  rw [← hs]
  cases fs₀ with
  | nil => rfl
  | cons f fs => simp

theorem extend_eq_ok_iff {c c' : Catalog} {ops : List (String × String)} :
    c.extend ops = .ok c' ↔
      (byOpcode ops).filterMap refusal = [] ∧ (gather (c, []) (byOpcode ops)).1 = c' := by
  rw [extend_eq]
  split <;> simp_all

theorem extend_eq_error_iff {c : Catalog} {ops : List (String × String)} {fs : List Fault} :
    c.extend ops = .error fs ↔
      (byOpcode ops).filterMap refusal ≠ [] ∧ (byOpcode ops).filterMap refusal = fs := by
  rw [extend_eq]
  split <;> simp_all

/-- Extending fails exactly when some operation is refused. -/
theorem extend_fails_iff (c : Catalog) (ops : List (String × String)) :
    (∃ fs, c.extend ops = .error fs) ↔ ∃ p ∈ ops, ∃ f, Template.ofText p.1 p.2 = .error f := by
  have hne : (∃ fs, c.extend ops = .error fs) ↔ (byOpcode ops).filterMap refusal ≠ [] := by
    constructor
    · rintro ⟨fs, h⟩
      exact (extend_eq_error_iff.mp h).1
    · intro h
      exact ⟨_, extend_eq_error_iff.mpr ⟨h, rfl⟩⟩
  rw [hne, ne_eq, List.filterMap_eq_nil_iff]
  simp only [not_forall]
  constructor
  · rintro ⟨p, hp, hr⟩
    exact ⟨p, (perm_byOpcode ops).subset hp, (refusal_ne_none_iff p).mp hr⟩
  · rintro ⟨p, hp, hf⟩
    exact ⟨p, (perm_byOpcode ops).symm.subset hp, (refusal_ne_none_iff p).mpr hf⟩

/-- Every operation is read when extending succeeds. -/
theorem refusal_of_extend_ok {c c' : Catalog} {ops : List (String × String)}
    (h : c.extend ops = .ok c') : ∀ p ∈ ops, refusal p = none := by
  intro p hp
  exact List.filterMap_eq_nil_iff.mp (extend_eq_ok_iff.mp h).1 p
    ((perm_byOpcode ops).symm.subset hp)

theorem lookup_congr {c c' : Catalog} {x : String} (h : c'.lookup? x = c.lookup? x) :
    c'.lookup x = c.lookup x := by
  unfold lookup
  rw [h]

/-- The catalogs a program holds: the default one, and every extension of one of them by
operations whose opcodes are of the library's form. -/
inductive Reachable : Catalog → Prop
  | default : Reachable Catalog.default
  | extend {c c' : Catalog} {ops : List (String × String)} :
      Reachable c → (∀ p ∈ ops, Text.Canonical p.1) → c.extend ops = .ok c' → Reachable c'

instance : DecidablePred Text.Canonical := fun s =>
  inferInstanceAs (Decidable (Text.ofBytes (Text.bytes s) = s))

theorem ordered_default : default.Ordered := ⟨by decide, by decide⟩

/-- Every catalog a program holds keeps its opcodes strictly ascending. -/
theorem Reachable.ordered {c : Catalog} (h : c.Reachable) : c.Ordered := by
  induction h with
  | default => exact ordered_default
  | @extend c c' ops _ hcan hext ih =>
    rw [← (extend_eq_ok_iff.mp hext).2]
    exact ih.gather [] fun p hp => hcan p ((perm_byOpcode ops).subset hp)

/-- **Extending a catalog by a map of operations.** For a catalog a program holds and a map of
operations (no opcode twice, each of the library's form): extending fails exactly when some
operation is refused, and then reports the refused operations' faults in ascending byte order
of their opcodes; the order the map is given in does not matter; and on success each opcode of
the map looks up the template read from its text, every other opcode what it looked up before
(an unknown operation when it is in neither), and the opcodes are, strictly ascending, those
of the catalog and those of the map. -/
theorem extend_overrides {c : Catalog} (hc : c.Reachable) {ops : List (String × String)}
    (hk : (ops.map Prod.fst).Nodup) (hcan : ∀ p ∈ ops, Text.Canonical p.1) :
    ((∃ fs, c.extend ops = .error fs) ↔ ∃ p ∈ ops, ∃ f, Template.ofText p.1 p.2 = .error f) ∧
    (∀ fs, c.extend ops = .error fs →
      ∃ sorted : List (String × String), sorted.Perm ops ∧
        sorted.Pairwise (fun a b => Text.byteLt a.1 b.1) ∧ fs = sorted.filterMap refusal) ∧
    (∀ ops' : List (String × String), ops'.Perm ops → c.extend ops' = c.extend ops) ∧
    ∀ c', c.extend ops = .ok c' →
      (∀ x text, (x, text) ∈ ops → c'.lookup x = Template.ofText x text) ∧
      (∀ x, x ∉ ops.map Prod.fst → c'.lookup x = c.lookup x) ∧
      (∀ x, x ∉ ops.map Prod.fst → x ∉ c.opcodes → c'.lookup x = .error (.unknownOperation x)) ∧
      c'.opcodes.Pairwise (Text.byteLt · ·) ∧
      ∀ x, x ∈ c'.opcodes ↔ x ∈ c.opcodes ∨ x ∈ ops.map Prod.fst := by
  refine ⟨extend_fails_iff c ops, ?_, ?_, ?_⟩
  · intro fs h
    exact ⟨byOpcode ops, perm_byOpcode ops, pairwise_byOpcode hk hcan,
      (extend_eq_error_iff.mp h).2.symm⟩
  · intro ops' hp
    rw [extend_eq, extend_eq, byOpcode_eq_of_perm hp hk hcan]
  · intro c' h
    have hall := refusal_of_extend_ok h
    obtain ⟨-, rfl⟩ := extend_eq_ok_iff.mp h
    have hmiss : ∀ x, x ∉ ops.map Prod.fst → x ∉ (byOpcode ops).map Prod.fst := fun x hx hx' =>
      hx (((perm_byOpcode ops).map Prod.fst).subset hx')
    refine ⟨?_, ?_, ?_, ?_, ?_⟩
    · intro x text hx
      obtain ⟨t, ht⟩ := (refusal_eq_none_iff _).mp (hall (x, text) hx)
      rw [ht]
      unfold lookup
      rw [lookup?_gather_of_mem c [] (((perm_byOpcode ops).map Prod.fst).nodup_iff.mpr hk)
        ((perm_byOpcode ops).symm.subset hx) ht]
    · intro x hx
      exact lookup_congr (lookup?_gather_of_not_mem _ c [] (hmiss x hx))
    · intro x hx hc'
      unfold lookup
      rw [lookup?_gather_of_not_mem _ c [] (hmiss x hx), lookup?_eq_none hc']
    · exact (hc.ordered.gather [] fun p hp => hcan p ((perm_byOpcode ops).subset hp)).1
    · intro x
      rw [mem_opcodes_gather _ c [] (fun p hp => hall p ((perm_byOpcode ops).subset hp)),
        List.Perm.mem_iff ((perm_byOpcode ops).map Prod.fst)]

/-- Extending the default catalog by an override of `sin` and a new `neg`. -/
theorem extend_overrides_sin_neg :
    Reachable default ∧ ([("sin", "OUT = sinpi(IN1);"), ("neg", "OUT = -IN1;")].map Prod.fst).Nodup ∧
      (∀ p ∈ [("sin", "OUT = sinpi(IN1);"), ("neg", "OUT = -IN1;")], Text.Canonical p.1) ∧
      ∀ c', default.extend [("sin", "OUT = sinpi(IN1);"), ("neg", "OUT = -IN1;")] = .ok c' →
        c'.lookup "sin" = Template.ofText "sin" "OUT = sinpi(IN1);" ∧
          c'.lookup "cos" = default.lookup "cos" :=
  have hk : ([("sin", "OUT = sinpi(IN1);"), ("neg", "OUT = -IN1;")].map Prod.fst).Nodup := by decide
  have hcan : ∀ p ∈ [("sin", "OUT = sinpi(IN1);"), ("neg", "OUT = -IN1;")], Text.Canonical p.1 := by
    decide
  ⟨.default, hk, hcan, fun c' h =>
    ⟨(extend_overrides .default hk hcan).2.2.2 c' h |>.1 "sin" _ (by simp),
      (extend_overrides .default hk hcan).2.2.2 c' h |>.2.1 "cos" (by decide)⟩⟩

end Catalog
end KernelSynth
