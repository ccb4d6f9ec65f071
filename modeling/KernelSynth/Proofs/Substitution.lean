/-
# Templates substitute every occurrence of a slot name

A template's text is read left to right: where `OUT`, `IN1` or `IN2` starts
(tried in that order) the slot stands and the reading moves past the whole
name, and any other character stands for itself. None of a name's later
characters (`U`, `T`, `N`, `1`, `2`) starts a name, so no two occurrences of
the names overlap, and a name never runs on from the text before it into
one that follows (`not_prefix_append`). Hence the reading finds every
occurrence of every name, whatever text surrounds it (`ofChars_append`): the
slots of a template are exactly the names its text holds
(`mem_ofChars_iff`), and expanding a template is substitution, every
occurrence of a name replaced by its slot's value, taken in whatever order
(`Substituted`, `substituted_iff`).

Key definitions: `Template.substitute`, `Template.Substituted`.
Key theorems: `Template.induction_reading`, `Template.ofChars_append`,
`Template.mem_ofChars_iff`, `Template.substitute_append_name`,
`Template.substituted_iff`, `Template.ofText_placeholders`.
-/
import Mathlib
import KernelSynth.Proofs.Catalog

namespace KernelSynth

namespace Slot

@[simp] theorem toList_name_out : Slot.out.name.toList = ['O', 'U', 'T'] := rfl

@[simp] theorem toList_name_in1 : Slot.in1.name.toList = ['I', 'N', '1'] := rfl

@[simp] theorem toList_name_in2 : Slot.in2.name.toList = ['I', 'N', '2'] := rfl

theorem name_ne_nil (s : Slot) : s.name.toList ≠ [] := by
  cases s <;> simp

/-- Every name starts with `O` or `I`. -/
theorem head_name_append (s : Slot) (b : List Char) :
    ∀ c ∈ (s.name.toList ++ b).head?, c = 'O' ∨ c = 'I' := by
  cases s <;> simp

/-- No character after a name's first is `O` or `I`, so none starts a name. -/
theorem not_initial_of_mem_tail (s : Slot) {c : Char} (hc : c ∈ s.name.toList.tail) :
    c ≠ 'O' ∧ c ≠ 'I' := by
  cases s <;> simp at hc <;> rcases hc with rfl | rfl <;> decide

end Slot

namespace Template

/-! ### Reading a text into pieces -/

/-- A name and the text after it read as the name's slot and that text's pieces. -/
theorem ofChars_name_append (s : Slot) (b : List Char) :
    Piece.ofChars (s.name.toList ++ b) = .slot s :: Piece.ofChars b := by
  cases s <;> rfl

/-- Where no name starts, the character stands for itself. -/
theorem ofChars_cons_of_no_name {c : Char} {r : List Char}
    (h : ∀ s : Slot, ¬ s.name.toList <+: c :: r) :
    Piece.ofChars (c :: r) = .char c :: Piece.ofChars r := by
  apply Piece.ofChars.eq_5
  · rintro r' rfl rfl
    exact h .out ⟨r', rfl⟩
  · rintro r' rfl rfl
    exact h .in1 ⟨r', rfl⟩
  · rintro r' rfl rfl
    exact h .in2 ⟨r', rfl⟩

/-- Induction along the reading of a text: the empty text, a name followed by any text, and a
character where no name starts followed by any text. -/
@[elab_as_elim]
theorem induction_reading {motive : List Char → Prop} (nil : motive [])
    (name : ∀ (s : Slot) (b : List Char), motive b → motive (s.name.toList ++ b))
    (char : ∀ (c : Char) (r : List Char), (∀ s : Slot, ¬ s.name.toList <+: c :: r) →
      motive r → motive (c :: r))
    (cs : List Char) : motive cs := by
  fun_induction Piece.ofChars cs with
  | case1 => exact nil
  | case2 r ih => exact name .out r ih
  | case3 r ih => exact name .in1 r ih
  | case4 r ih => exact name .in2 r ih
  | case5 c r h1 h2 h3 ih =>
    -- the reader's three failed patterns say that no name is a prefix
    refine char c r ?_ ih
    rintro (_ | _ | _) ⟨t, ht⟩ <;> simp only [Slot.toList_name_out, Slot.toList_name_in1,
      Slot.toList_name_in2, List.cons_append, List.nil_append, List.cons.injEq] at ht
    · exact h1 t ht.1.symm ht.2.symm
    · exact h2 t ht.1.symm ht.2.symm
    · exact h3 t ht.1.symm ht.2.symm

/-- A text that starts with no name still starts with none when a text beginning with `O` or
`I` follows it: a name running on into that text would hold `O` or `I` after its first
character. -/
theorem not_prefix_append {a b : List Char} (ha0 : a ≠ []) (ha : ∀ s : Slot, ¬ s.name.toList <+: a)
    (hb : ∀ c ∈ b.head?, c = 'O' ∨ c = 'I') (s : Slot) : ¬ s.name.toList <+: a ++ b := by
  intro h
  rcases List.prefix_or_prefix_of_prefix h (List.prefix_append a b) with h1 | ⟨y, hy⟩
  · exact ha s h1
  · -- the name is `a` followed by the first part `y` of `b`
    have hyb : y <+: b := by
      rw [← hy] at h
      exact (List.prefix_append_right_inj a).mp h
    obtain ⟨d, y', rfl⟩ : ∃ d y', y = d :: y' := by
      cases y with
      | nil => exact absurd ⟨[], by simpa using hy.symm⟩ (ha s)
      | cons d y' => exact ⟨d, y', rfl⟩
    have hd : d ∈ b.head? := by
      obtain ⟨t, rfl⟩ := hyb
      simp
    have htail : d ∈ s.name.toList.tail := by
      obtain ⟨a0, a', rfl⟩ := List.exists_cons_of_ne_nil ha0
      rw [← hy]
      simp
    have hinit := Slot.not_initial_of_mem_tail s htail
    rcases hb d hd with rfl | rfl
    · exact hinit.1 rfl
    · exact hinit.2 rfl

/-- **Reading splits before a name.** The pieces of a text followed by one that starts with `O`
or `I` (a name, say) are the pieces of the one and then of the other. -/
theorem ofChars_append (a b : List Char) (hb : ∀ c ∈ b.head?, c = 'O' ∨ c = 'I') :
    Piece.ofChars (a ++ b) = Piece.ofChars a ++ Piece.ofChars b := by
  induction a using induction_reading with
  | nil => rfl
  | name s a ih => rw [List.append_assoc, ofChars_name_append, ofChars_name_append, ih]; rfl
  | char c r hc ih =>
    have hcb : ∀ s : Slot, ¬ s.name.toList <+: c :: (r ++ b) :=
      not_prefix_append (List.cons_ne_nil c r) hc hb
    rw [List.cons_append, ofChars_cons_of_no_name hcb, ofChars_cons_of_no_name hc, ih]
    rfl

theorem mem_ofChars_of_infix {s : Slot} {cs : List Char} (h : s.name.toList <:+: cs) :
    Piece.slot s ∈ Piece.ofChars cs := by
  obtain ⟨a, b, rfl⟩ := h
  rw [List.append_assoc, ofChars_append a _ (Slot.head_name_append s b), ofChars_name_append]
  simp

theorem infix_of_mem_ofChars {s : Slot} {cs : List Char} (h : Piece.slot s ∈ Piece.ofChars cs) :
    s.name.toList <:+: cs := by
  induction cs using induction_reading with
  | nil => simp [Piece.ofChars] at h
  | name s' b ih =>
    rw [ofChars_name_append] at h
    rcases List.mem_cons.mp h with h | h
    · cases h
      exact (List.prefix_append _ _).isInfix
    · exact (ih h).trans (List.suffix_append _ _).isInfix
  | char c r hc ih =>
    rw [ofChars_cons_of_no_name hc] at h
    rcases List.mem_cons.mp h with h | h
    · cases h
    · exact List.infix_cons (ih h)

/-- **A slot stands in a text's pieces exactly where its name is a substring of the text.** -/
theorem mem_ofChars_iff (s : Slot) (cs : List Char) :
    Piece.slot s ∈ Piece.ofChars cs ↔ s.name.toList <:+: cs :=
  ⟨infix_of_mem_ofChars, mem_ofChars_of_infix⟩

/-! ### Substitution -/

/-- The characters of a text read into pieces, with `value s` written in each slot `s`. -/
def substitute (value : Slot → String) (cs : List Char) : List Char :=
  (String.join ((Piece.ofChars cs).map (Piece.expand value))).toList

section
variable (value : Slot → String)

@[simp] theorem substitute_nil : substitute value [] = [] := rfl

theorem substitute_name_append (s : Slot) (b : List Char) :
    substitute value (s.name.toList ++ b) = (value s).toList ++ substitute value b := by
  simp [substitute, ofChars_name_append, Piece.expand]

theorem substitute_cons {c : Char} {r : List Char} (hc : ∀ s : Slot, ¬ s.name.toList <+: c :: r) :
    substitute value (c :: r) = c :: substitute value r := by
  simp [substitute, ofChars_cons_of_no_name hc, Piece.expand]

/-- **Substitution splits at any occurrence of a name.** -/
theorem substitute_append_name (a b : List Char) (s : Slot) :
    substitute value (a ++ s.name.toList ++ b) =
      substitute value a ++ (value s).toList ++ substitute value b := by
  rw [List.append_assoc, List.append_assoc, ← substitute_name_append value s b]
  simp [substitute, ofChars_append a _ (Slot.head_name_append s b)]

/-- A text that holds no name is its own substitution. -/
theorem substitute_of_no_name {cs : List Char} (h : ∀ s : Slot, ¬ s.name.toList <:+: cs) :
    substitute value cs = cs := by
  induction cs using induction_reading with
  | nil => rfl
  | name s b _ => exact absurd (List.prefix_append _ _).isInfix (h s)
  | char c r hc ih =>
    rw [substitute_cons value hc, ih fun s hs => h s (List.infix_cons hs)]

/-- Writing each slot as its own name gives the text back. -/
theorem substitute_name (cs : List Char) : substitute Slot.name cs = cs := by
  induction cs using induction_reading with
  | nil => rfl
  | name s b ih => rw [substitute_name_append, ih]
  | char c r hc ih => rw [substitute_cons _ hc, ih]

end

/-- `out` is `cs` with every occurrence of a slot's name replaced by the slot's value: a text
that holds no name is left as it is, and a text is split at any occurrence of a name, the two
sides are substituted and the occurrence replaced. -/
inductive Substituted (value : Slot → String) : List Char → List Char → Prop
  | plain {cs : List Char} : (∀ s : Slot, ¬ s.name.toList <:+: cs) → Substituted value cs cs
  | split {a a' b b' : List Char} (s : Slot) : Substituted value a a' → Substituted value b b' →
      Substituted value (a ++ s.name.toList ++ b) (a' ++ (value s).toList ++ b')

namespace Substituted

variable {value : Slot → String}

theorem nil : Substituted value [] [] :=
  .plain fun s h => Slot.name_ne_nil s (List.infix_nil.mp h)

theorem name_append (s : Slot) {b b' : List Char} (h : Substituted value b b') :
    Substituted value (s.name.toList ++ b) ((value s).toList ++ b') :=
  @Substituted.split value [] [] _ _ s nil h

/-- A character where no name starts goes before a substitution unchanged. -/
theorem cons {c : Char} {r r' : List Char} (h : Substituted value r r')
    (hc : ∀ s : Slot, ¬ s.name.toList <+: c :: r) : Substituted value (c :: r) (c :: r') := by
  induction h generalizing c with
  | plain hr =>
    refine .plain fun s hs => ?_
    rcases List.infix_cons_iff.mp hs with hs | hs
    · exact hc s hs
    · exact hr s hs
  | split s _ _ iha _ =>
    -- the character joins the text before the occurrence
    exact .split s (iha fun m hm => hc m (List.prefix_append_of_prefix (List.prefix_append_of_prefix hm)))
      ‹_›

end Substituted

/-- Every substitution of a text is its reading's. -/
theorem eq_substitute_of_substituted {value : Slot → String} {cs out : List Char}
    (h : Substituted value cs out) : out = substitute value cs := by
  induction h with
  | plain hcs => exact (substitute_of_no_name value hcs).symm
  | split s _ _ iha ihb => rw [substitute_append_name, iha, ihb]

theorem substituted_substitute (value : Slot → String) (cs : List Char) :
    Substituted value cs (substitute value cs) := by
  induction cs using induction_reading with
  | nil => exact .nil
  | name s b ih =>
    rw [substitute_name_append]
    exact .name_append s ih
  | char c r hc ih =>
    rw [substitute_cons value hc]
    exact ih.cons hc

/-- **Substitution has one result, the reading's.** However the occurrences of names are taken,
replacing each by its slot's value gives the text the reading writes. -/
theorem substituted_iff (value : Slot → String) (cs out : List Char) :
    Substituted value cs out ↔ out = substitute value cs :=
  ⟨eq_substitute_of_substituted, fun h => h ▸ substituted_substitute value cs⟩

/-! ### Templates -/

theorem expand_eq_substitute {t : Template} (ht : t.WellFormed) (value : Slot → String) :
    (t.expand value).toList = substitute value t.text.toList := by
  rw [expand_eq_join, ht.1]
  rfl

/-- The value given for a slot is the first one the list pairs with it. -/
theorem find?_map_eq_lookup (values : List (Slot × String)) (s : Slot) :
    (values.find? (·.1 = s)).map (·.2) = values.lookup s := by
  induction values with
  | nil => rfl
  | cons v vs ih =>
    obtain ⟨k, x⟩ := v
    by_cases h : k = s
    · subst h
      simp [List.lookup]
    · have h' : (s == k) = false := beq_false_of_ne (Ne.symm h)
      simp [List.lookup, h, h', ih]

theorem expandWith_eq_expand (t : Template) (values : List (Slot × String)) :
    t.expandWith values = t.expand fun s => (values.lookup s).getD s.name := by
  simp only [expandWith, find?_map_eq_lookup]

theorem validOpcode_iff (op : String) :
    validOpcode op = true ↔
      op ≠ "" ∧ ∀ c ∈ op.toList, c ≠ ':' ∧ c ≠ ',' ∧ c ≠ ' ' ∧ c ≠ '\t' ∧ c ≠ '\n' := by
  simp [validOpcode, isOpcodeBreak, and_assoc]

theorem slotsOf_ofChars (cs : List Char) :
    slotsOf (Piece.ofChars cs) = Slot.all.filter fun s => decide (s.name.toList <:+: cs) := by
  simp only [slotsOf, mem_ofChars_iff]

/-- **A template's slots are the names its text holds, and expanding it substitutes them.** An
opcode and a text make a template exactly when the opcode is not empty and holds no colon,
comma, space, tab or line feed, and the text holds `OUT` and `IN1`. The template's slots are the
names among `OUT`, `IN1` and `IN2` that its text holds, in that order. Expanding it with values
for some slots replaces every occurrence of a slot's name by the value given for it, or by the
name itself when none is, so that with no values the text comes back as it is. -/
theorem ofText_placeholders (opcode text : String) :
    ((∃ t, ofText opcode text = .ok t) ↔
      opcode ≠ "" ∧ (∀ c ∈ opcode.toList, c ≠ ':' ∧ c ≠ ',' ∧ c ≠ ' ' ∧ c ≠ '\t' ∧ c ≠ '\n') ∧
        "OUT".toList <:+: text.toList ∧ "IN1".toList <:+: text.toList) ∧
    ∀ t, ofText opcode text = .ok t →
      t.slots = Slot.all.filter (fun s => decide (s.name.toList <:+: text.toList)) ∧
      (∀ (values : List (Slot × String)) (out : List Char),
        (t.expandWith values).toList = out ↔
          Substituted (fun s => (values.lookup s).getD s.name) text.toList out) ∧
      t.expandWith [] = text := by
  refine ⟨?_, fun t ht => ?_⟩
  · constructor
    · rintro ⟨t, ht⟩
      obtain ⟨hv, hout, hin, -⟩ := (ofText_eq_ok_iff _ _ _).mp ht
      have hop := (validOpcode_iff _).mp hv
      -- the names' texts are read off the slots found, not matched against the literals
      have hout' := (mem_ofChars_iff _ _).mp hout
      have hin' := (mem_ofChars_iff _ _).mp hin
      exact ⟨hop.1, hop.2, hout', hin'⟩
    · rintro ⟨hne, hc, hout, hin⟩
      have hv := (validOpcode_iff _).mpr ⟨hne, hc⟩
      have hout' : Piece.slot .out ∈ Piece.ofChars text.toList := (mem_ofChars_iff .out _).mpr hout
      have hin' : Piece.slot .in1 ∈ Piece.ofChars text.toList := (mem_ofChars_iff .in1 _).mpr hin
      exact ⟨_, (ofText_eq_ok_iff _ _ _).mpr ⟨hv, hout', hin', rfl⟩⟩
  · obtain ⟨-, -, -, rfl⟩ := (ofText_eq_ok_iff _ _ _).mp ht
    have hwf := wellFormed_ofText ht
    refine ⟨slotsOf_ofChars _, fun values out => ?_, ?_⟩
    · rw [expandWith_eq_expand, expand_eq_substitute hwf, substituted_iff, eq_comm]
    · -- with no values every slot is written as its name
      have hnames : (fun s : Slot => (([] : List (Slot × String)).lookup s).getD s.name) = Slot.name := rfl
      rw [← String.toList_inj, expandWith_eq_expand, hnames, expand_eq_substitute hwf, substitute_name]

end Template
end KernelSynth
