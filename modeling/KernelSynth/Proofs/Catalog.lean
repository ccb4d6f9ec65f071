/-
# Templates read from their text

A template that `Template.ofText` accepts keeps its text, has the text read
left to right as its pieces, and lists the distinct slots among the pieces.
Catalogs made from the default one by `extend` hold only such templates, so
in every template of a validated configuration each slot its pieces use
draws an operand, and an expansion has the braces of the template's text
whenever the values put in its slots have none.

Key definitions: `Template.WellFormed`, `Catalog.WellFormed`.
Key theorems: `Template.wellFormed_ofText`, `Catalog.wellFormed_extend`,
`Catalog.wellFormed_default`, `Template.count_expand`, `Plan.forall₂_resolve`.
-/
import Mathlib
import KernelSynth.Kernel.Plan

namespace KernelSynth

/-- What a piece expands to, with `value` in the slots. -/
def Piece.expand (value : Slot → String) : Piece → String
  | .char c => c.toString
  | .slot s => value s

namespace Template

/-- A template as `ofText` reads it: its pieces are its text read left to right, and its slots
the distinct slots among them. -/
def WellFormed (t : Template) : Prop :=
  t.pieces = Piece.ofChars t.text.toList ∧ t.slots = slotsOf t.pieces

theorem wellFormed_ofText {opcode text : String} {t : Template} (h : ofText opcode text = .ok t) :
    t.WellFormed := by
  obtain ⟨-, -, -, rfl⟩ := (ofText_eq_ok_iff opcode text t).mp h
  exact ⟨rfl, rfl⟩

theorem mem_slots_of_mem_pieces {t : Template} (ht : t.WellFormed) {s : Slot}
    (hs : Piece.slot s ∈ t.pieces) : s ∈ t.slots := by
  rw [ht.2, slotsOf, List.mem_filter]
  exact ⟨by cases s <;> simp [Slot.all], by simpa using hs⟩

theorem expand_eq_join (t : Template) (value : Slot → String) :
    t.expand value = String.join (t.pieces.map (Piece.expand value)) := rfl

/-- Expanding reads only the values of the slots the pieces use. -/
theorem expand_congr (t : Template) {f g : Slot → String}
    (h : ∀ s, Piece.slot s ∈ t.pieces → f s = g s) : t.expand f = t.expand g := by
  rw [expand_eq_join, expand_eq_join]
  congr 1
  apply List.map_congr_left
  intro x hx
  cases x with
  | char c => rfl
  | slot s => exact h s hx

/-- Reading text into pieces and expanding them keeps every character that no slot name holds,
as long as no value holds it either. -/
theorem count_join_ofChars (x : Char) (hx : ∀ s : Slot, x ∉ s.name.toList)
    (value : Slot → String) (hv : ∀ s, (value s).toList.count x = 0) (cs : List Char) :
    (String.join ((Piece.ofChars cs).map (Piece.expand value))).toList.count x = cs.count x := by
  obtain ⟨o1, o2, o3⟩ : x ≠ 'O' ∧ x ≠ 'U' ∧ x ≠ 'T' := by simpa [Slot.name] using hx .out
  obtain ⟨i1, i2, i3⟩ : x ≠ 'I' ∧ x ≠ 'N' ∧ x ≠ '1' := by simpa [Slot.name] using hx .in1
  obtain ⟨-, -, i4⟩ : x ≠ 'I' ∧ x ≠ 'N' ∧ x ≠ '2' := by simpa [Slot.name] using hx .in2
  fun_induction Piece.ofChars cs with
  | case1 => simp
  | case2 r ih =>
    simp only [String.toList_join] at ih
    simp [Piece.expand, hv, ih, o1.symm, o2.symm, o3.symm]
  | case3 r ih =>
    simp only [String.toList_join] at ih
    simp [Piece.expand, hv, ih, i1.symm, i2.symm, i3.symm]
  | case4 r ih =>
    simp only [String.toList_join] at ih
    simp [Piece.expand, hv, ih, i1.symm, i2.symm, i4.symm]
  | case5 c r _ _ _ ih =>
    simp only [String.toList_join] at ih
    simp [Piece.expand, ih, List.count_cons]

/-- An expansion has as many of a character as the template's text, when the character is in
no slot name and no value. -/
theorem count_expand {t : Template} (ht : t.WellFormed) (x : Char) (hx : ∀ s : Slot, x ∉ s.name.toList)
    (value : Slot → String) (hv : ∀ s, (value s).toList.count x = 0) :
    (t.expand value).toList.count x = t.text.toList.count x := by
  rw [expand_eq_join, ht.1]
  exact count_join_ofChars x hx value hv _

end Template

namespace Catalog

/-- Every template of the catalog is read from its text. -/
def WellFormed (c : Catalog) : Prop := ∀ t ∈ c.templates, t.WellFormed

theorem mem_place {t u : Template} : ∀ {ts : List Template}, u ∈ place t ts → u = t ∨ u ∈ ts
  | [], h => by simpa [place] using h
  | v :: vs, h => by
    unfold place at h
    split at h
    · simpa using h
    · split at h
      · simp only [List.mem_cons] at h ⊢
        tauto
      · simp only [List.mem_cons] at h ⊢
        rcases h with h | h
        · exact .inr (.inl h)
        · rcases mem_place h with h | h
          · exact .inl h
          · exact .inr (.inr h)

theorem WellFormed.insert {c : Catalog} (hc : c.WellFormed) {t : Template} (ht : t.WellFormed) :
    (c.insert t).WellFormed := by
  intro u hu
  rcases mem_place hu with rfl | hu
  · exact ht
  · exact hc u hu

theorem wellFormed_gather : ∀ (ops : List (String × String)) (c : Catalog) (fs : List Fault),
    c.WellFormed → (gather (c, fs) ops).1.WellFormed
  | [], _, _, hc => hc
  | (op, text) :: rest, c, fs, hc => by
    unfold gather
    split
    · rename_i t ht
      exact wellFormed_gather rest _ _ (hc.insert (Template.wellFormed_ofText ht))
    · exact wellFormed_gather rest _ _ hc

theorem wellFormed_extend {c c' : Catalog} {ops : List (String × String)} (hc : c.WellFormed)
    (h : c.extend ops = .ok c') : c'.WellFormed := by
  unfold extend at h
  split at h
  · rename_i c'' hg
    cases h
    have := wellFormed_gather (byOpcode ops) c [] hc
    rwa [hg] at this
  · cases h

theorem wellFormed_default : default.WellFormed := by
  unfold default
  split
  · rename_i c hc
    exact wellFormed_extend (fun _ h => by simp [empty] at h) hc
  · intro _ h
    simp [empty] at h

theorem mem_of_lookup? {c : Catalog} {opcode : String} {t : Template} (h : c.lookup? opcode = some t) :
    t ∈ c.templates :=
  List.mem_of_find?_eq_some h

end Catalog

namespace Plan

/-- Resolving pairs each mix entry, in order, with its catalog template and its count. -/
theorem forall₂_resolve {c : Catalog} : ∀ {m : Mix} {es : List (Template × Nat)},
    resolve c m = .ok es →
      List.Forall₂ (fun e te => c.lookup? e.opcode = some te.1 ∧ te.2 = e.count.toNat) m es
  | [], es, h => by
    cases h
    exact .nil
  | e :: m, es, h => by
    unfold resolve at h
    split at h
    · cases h
    · rename_i t ht
      cases hr : resolve c m with
      | error f => simp [hr, Except.map] at h
      | ok rest =>
        simp only [hr, Except.map] at h
        cases h
        exact .cons ⟨ht, rfl⟩ (forall₂_resolve hr)

theorem entries_ofConfig {cfg : Config} {p : Plan} (h : ofConfig cfg = .ok p) :
    p.config = cfg ∧ resolve cfg.catalog cfg.mix = .ok p.entries := by
  unfold ofConfig at h
  cases hr : resolve cfg.catalog cfg.mix with
  | error f => simp [hr, Except.map] at h
  | ok es =>
    simp only [hr, Except.map] at h
    cases h
    exact ⟨rfl, rfl⟩

/-- A plan of a configuration whose catalog is well formed resolves only well-formed templates. -/
theorem wellFormed_entries {cfg : Config} {p : Plan} (hc : cfg.catalog.WellFormed)
    (h : ofConfig cfg = .ok p) : ∀ te ∈ p.entries, te.1.WellFormed := by
  obtain ⟨-, hr⟩ := entries_ofConfig h
  -- every resolved template is one the catalog holds
  have hall : ∀ {m : Mix} {es : List (Template × Nat)},
      List.Forall₂ (fun e te => cfg.catalog.lookup? e.opcode = some te.1 ∧ te.2 = e.count.toNat) m es →
        ∀ te ∈ es, te.1.WellFormed := by
    intro m es hm
    induction hm with
    | nil => simp
    | cons hab _ ih =>
      intro te hte
      rcases List.mem_cons.mp hte with rfl | hte
      · exact hc _ (Catalog.mem_of_lookup? hab.1)
      · exact ih te hte
  exact hall (forall₂_resolve hr)

end Plan
end KernelSynth
