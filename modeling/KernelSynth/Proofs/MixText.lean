/-
# Reading back a written mix

A mix is written as its entries `opcode:count` joined by commas, and read by
splitting at commas and colons, trimming blanks around each piece. Reading
gives back what was written exactly for the entries that survive both steps
(`MixEntry.Readable`): an opcode that is not empty, has no blank at either
end and holds no comma or colon, and a count of a signed 64-bit word that is
not negative. Every entry a reading returns is of that kind, so a mix that
was read is read back from its written form unchanged.

A validated configuration's opcodes hold no comma, colon, space, tab or line
feed, but they may start or end with another blank (a carriage return, a
no-break space), which reading trims away. So its mix is read back from its
written form exactly when no opcode has a blank at either end.

The number of instructions of a mix adds up its counts as 64-bit words. The
counts of a mix that was read, or validated, are not negative, and each is a
word, but nothing bounds their sum: it is the number of instructions exactly
when it is below `2^63`, and two counts of `2^62` already give `-2^63`.

Key definitions: `MixEntry.Readable`.
Key theorems: `Text.trimChars_eq_self`, `Text.trimChars_trimChars`,
`Text.readDecimal?_toString`, `MixEntry.parse_render`, `Mix.parse_render`,
`Mix.readable_of_parse`, `Mix.parse_render_of_parse`, `Mix.parse_render_config_iff`,
`Word.wrap_eq_self_iff`, `Mix.instructions_eq_total_iff`.
-/
import Mathlib
import KernelSynth.Proofs.Validation

namespace KernelSynth

/-- No piece of a split holds the separator, and every character of a piece is one of the
list's. -/
theorem mem_of_mem_splitOnP {α : Type} {p : α → Bool} :
    ∀ {l w : List α}, w ∈ l.splitOnP p → ∀ c ∈ w, c ∈ l ∧ p c = false
  | [], w, hw => by simp at hw; simp [hw]
  | x :: xs, w, hw => by
    rw [List.splitOnP_cons_eq_if_modifyHead] at hw
    split_ifs at hw with hx
    · rcases List.mem_cons.mp hw with rfl | hw
      · simp
      · intro c hc
        obtain ⟨h1, h2⟩ := mem_of_mem_splitOnP hw c hc
        exact ⟨List.mem_cons_of_mem _ h1, h2⟩
    · -- `x` joins the first piece of the rest
      obtain ⟨r, rs, hr⟩ := List.exists_cons_of_ne_nil (List.splitOnP_ne_nil p xs)
      rw [hr, List.modifyHead_cons] at hw
      rcases List.mem_cons.mp hw with rfl | hw
      · intro c hc
        rcases List.mem_cons.mp hc with rfl | hc
        · simpa using hx
        · obtain ⟨h1, h2⟩ := mem_of_mem_splitOnP (hr ▸ List.mem_cons_self ..) c hc
          exact ⟨List.mem_cons_of_mem _ h1, h2⟩
      · intro c hc
        obtain ⟨h1, h2⟩ := mem_of_mem_splitOnP (hr ▸ List.mem_cons_of_mem _ hw) c hc
        exact ⟨List.mem_cons_of_mem _ h1, h2⟩

theorem not_mem_of_mem_splitOn {x : Char} {l w : List Char} (hw : w ∈ l.splitOn x) : x ∉ w := by
  intro hx
  have := (mem_of_mem_splitOnP hw x hx).2
  simp at this

/-- Each element on the right of a pairing has a partner on the left. -/
theorem exists_of_forall₂ {α β : Type} {R : α → β → Prop} :
    ∀ {l₁ : List α} {l₂ : List β}, List.Forall₂ R l₁ l₂ → ∀ b ∈ l₂, ∃ a ∈ l₁, R a b
  | _, _, .nil, _, hb => by simp at hb
  | _, _, .cons hr hrest, b, hb => by
    rcases List.mem_cons.mp hb with rfl | hb
    · exact ⟨_, List.mem_cons_self .., hr⟩
    · obtain ⟨a, ha, hab⟩ := exists_of_forall₂ hrest b hb
      exact ⟨a, List.mem_cons_of_mem _ ha, hab⟩

theorem mem_intercalate_cons {c sep : Char} {x : List Char} {xs : List (List Char)} (h : c ∈ x) :
    c ∈ [sep].intercalate (x :: xs) := by
  cases xs with
  | nil => simpa using h
  | cons y ys => simp [List.intercalate_cons_cons, h]

theorem mem_of_mem_of_mem_splitOn {x c : Char} {l w : List Char} (hw : w ∈ l.splitOn x)
    (hc : c ∈ w) : c ∈ l :=
  (mem_of_mem_splitOnP hw c hc).1

namespace Text

/-! ### Trimming -/

theorem dropBlanks_cons {c : Char} (hc : isBlank c = false) (cs : List Char) :
    dropBlanks (c :: cs) = c :: cs := by
  simp [dropBlanks, hc]

theorem dropBlanks_eq_self {cs : List Char} (h : ∀ c ∈ cs.head?, isBlank c = false) :
    dropBlanks cs = cs := by
  cases cs with
  | nil => rfl
  | cons c cs => exact dropBlanks_cons (h c rfl) cs

/-- A text that neither starts nor ends with a blank is its own trimming. -/
theorem trimChars_eq_self {cs : List Char} (hh : ∀ c ∈ cs.head?, isBlank c = false)
    (hl : ∀ c ∈ cs.getLast?, isBlank c = false) : trimChars cs = cs := by
  have hr : ∀ c ∈ cs.reverse.head?, isBlank c = false := by
    rw [List.head?_reverse]
    exact hl
  rw [trimChars, dropBlanks_eq_self hh, dropBlanks_eq_self hr, List.reverse_reverse]

theorem trimChars_sublist (cs : List Char) : (trimChars cs).Sublist cs := by
  have h1 : (dropBlanks cs).Sublist cs := List.dropWhile_sublist _
  have h2 : (dropBlanks (dropBlanks cs).reverse).Sublist (dropBlanks cs).reverse :=
    List.dropWhile_sublist _
  have h3 := List.reverse_sublist.mpr h2
  rw [List.reverse_reverse] at h3
  exact h3.trans h1

/-- A character that is no blank survives trimming. -/
theorem mem_dropBlanks {cs : List Char} {c : Char} (hc : c ∈ cs) (hb : isBlank c = false) :
    c ∈ dropBlanks cs := by
  have hcs : List.takeWhile isBlank cs ++ List.dropWhile isBlank cs = cs :=
    List.takeWhile_append_dropWhile
  rw [← hcs] at hc
  rcases List.mem_append.mp hc with h | h
  · have := List.mem_takeWhile_imp h
    simp_all
  · exact h

theorem mem_trimChars {cs : List Char} {c : Char} (hc : c ∈ cs) (hb : isBlank c = false) :
    c ∈ trimChars cs := by
  rw [trimChars, List.mem_reverse]
  exact mem_dropBlanks (List.mem_reverse.mpr (mem_dropBlanks hc hb)) hb

/-- The first character of a trimming, if any, is no blank. -/
theorem head?_trimChars {cs : List Char} : ∀ c ∈ (trimChars cs).head?, isBlank c = false := by
  intro c hc
  -- the trimming is `dropBlanks cs` with the blanks at its end cut off
  obtain ⟨u, hu⟩ : dropBlanks (dropBlanks cs).reverse <:+ (dropBlanks cs).reverse :=
    List.dropWhile_suffix isBlank
  have hsplit : dropBlanks cs = trimChars cs ++ u.reverse := by
    conv_lhs => rw [← List.reverse_reverse (dropBlanks cs), ← hu]
    rw [List.reverse_append]
    rfl
  have hc' : (trimChars cs).head? = some c := hc
  have hne : dropBlanks cs ≠ [] := by
    rw [hsplit]
    intro h
    rw [(List.append_eq_nil_iff.mp h).1] at hc'
    cases hc'
  have hhead : (dropBlanks cs).head? = some c := by
    rw [hsplit, List.head?_append, hc']
    rfl
  rw [List.head?_eq_some_head hne, Option.some.injEq] at hhead
  rw [← hhead]
  exact List.head_dropWhile_not isBlank hne

/-- The last character of a trimming, if any, is no blank. -/
theorem getLast?_trimChars {cs : List Char} : ∀ c ∈ (trimChars cs).getLast?, isBlank c = false := by
  intro c hc
  have hne : dropBlanks (dropBlanks cs).reverse ≠ [] := by
    intro h
    simp [trimChars, h] at hc
  have hc' : (trimChars cs).getLast? = some c := hc
  rw [trimChars, List.getLast?_reverse, List.head?_eq_some_head hne, Option.some.injEq] at hc'
  rw [← hc']
  exact List.head_dropWhile_not isBlank hne

/-- Trimming twice trims no more. -/
theorem trimChars_trimChars (cs : List Char) : trimChars (trimChars cs) = trimChars cs :=
  trimChars_eq_self head?_trimChars getLast?_trimChars

/-- A trimmed text that is not empty starts with no blank. -/
theorem head?_of_trimChars_eq {cs : List Char} (h : trimChars cs = cs) :
    ∀ c ∈ cs.head?, isBlank c = false := by
  rw [← h]
  exact head?_trimChars

/-! ### Decimal numerals -/

theorem decimalDigit?_digitChar {d : Nat} (hd : d < 10) : decimalDigit? (Nat.digitChar d) = some d := by
  interval_cases d <;> rfl

/-- The digits of a number read back as the number. -/
theorem foldlM_toDigits (n : Nat) :
    (Nat.toDigits 10 n).foldlM (fun n c => (decimalDigit? c).map (n * 10 + ·)) 0 = some n := by
  induction n using Nat.strong_induction_on with
  | _ n ih =>
    rcases Nat.lt_or_ge n 10 with hn | hn
    · simp [Nat.toDigits_of_lt_base hn, decimalDigit?_digitChar hn]
    · -- the digits of `n` are those of `n / 10` followed by the last one
      have hq : 0 < n / 10 := Nat.div_pos hn (by decide)
      have hr : n % 10 < 10 := Nat.mod_lt n (by decide)
      have hsplit := Nat.toDigits_append_toDigits (by decide) hq hr
      rw [Nat.div_add_mod] at hsplit
      rw [← hsplit, List.foldlM_append, ih (n / 10) (Nat.div_lt_self (by omega) (by decide)),
        Nat.toDigits_of_lt_base hr]
      simp [decimalDigit?_digitChar hr, Nat.div_add_mod']

theorem decimalValue?_toDigits (n : Nat) : decimalValue? (Nat.toDigits 10 n) = some n := by
  obtain ⟨d, ds, hds⟩ := List.exists_cons_of_ne_nil (Nat.toDigits_ne_nil : Nat.toDigits 10 n ≠ [])
  rw [← foldlM_toDigits n, hds]
  rfl

theorem toList_toString_ofNat (n : Nat) : (toString (n : Int)).toList = Nat.toDigits 10 n := by
  simp [toString, Int.repr, Nat.repr]

/-- The numeral of a count that is not negative is all digits. -/
theorem isDigit_of_mem_toString {k : Int} (h0 : 0 ≤ k) {c : Char} (hc : c ∈ (toString k).toList) :
    c.isDigit = true := by
  obtain ⟨n, rfl⟩ := Int.eq_ofNat_of_zero_le h0
  rw [toList_toString_ofNat] at hc
  exact Nat.isDigit_of_mem_toDigits (by decide) (by decide) hc

/-- A count that is not negative and fits a word is read back from its decimal numeral. -/
theorem readDecimal?_toString {k : Int} (h0 : 0 ≤ k) (h1 : k ≤ wordMax) :
    readDecimal? (toString k) = some k := by
  have hdigit := fun c => isDigit_of_mem_toString h0 (c := c)
  obtain ⟨n, rfl⟩ := Int.eq_ofNat_of_zero_le h0
  have hmin : wordMin ≤ (n : Int) := by simp [wordMin]
  unfold readDecimal?
  split
  rename_i neg digits heq
  -- a numeral of digits carries no sign
  split at heq
  · rename_i r hr
    have := hdigit '-' (by rw [hr]; exact List.mem_cons_self ..)
    simp at this
  · rename_i r hr
    have := hdigit '+' (by rw [hr]; exact List.mem_cons_self ..)
    simp at this
  · cases heq
    simp [Int.repr, Nat.repr, decimalValue?_toDigits, hmin, h1]

/-- A decimal digit is no blank. -/
theorem isBlank_of_isDigit {c : Char} (h : c.isDigit = true) : isBlank c = false := by
  have h1 : 48 ≤ c.toNat ∧ c.toNat ≤ 57 := by
    simp only [Char.isDigit, Bool.and_eq_true, decide_eq_true_eq] at h
    exact ⟨h.1, h.2⟩
  simp only [isBlank]
  grind

/-- A numeral read as a decimal fits a signed 64-bit word. -/
theorem readDecimal?_bounds {s : String} {k : Int} (h : readDecimal? s = some k) :
    wordMin ≤ k ∧ k ≤ wordMax := by
  unfold readDecimal? at h
  split at h
  split at h
  · cases h
  · -- the value read, negated or not, is kept only when it fits
    dsimp only at h
    split_ifs at h with hneg hb hb <;> cases h <;> exact hb

end Text

/-! ### Entries -/

namespace MixEntry

/-- An entry that reads back as it is written: an opcode that is not empty, has no blank at
either end and holds no colon or comma, and a count of a signed 64-bit word that is not
negative. -/
def Readable (e : MixEntry) : Prop :=
  e.opcode.toList ≠ [] ∧ Text.trimChars e.opcode.toList = e.opcode.toList ∧
    ':' ∉ e.opcode.toList ∧ ',' ∉ e.opcode.toList ∧ 0 ≤ e.count ∧ e.count ≤ Text.wordMax

theorem toList_render (e : MixEntry) :
    e.render.toList = e.opcode.toList ++ ':' :: (toString e.count).toList := by
  simp [render]

theorem toString_ne_nil (k : Int) : (toString k).toList ≠ [] := by
  cases k <;> simp [toString, Int.repr, Nat.repr, Nat.toDigits_ne_nil]

/-- A readable entry's written form is already trimmed: it starts with its opcode and ends
with a digit. -/
theorem trimChars_render {e : MixEntry} (h : e.Readable) :
    Text.trimChars e.render.toList = e.render.toList := by
  obtain ⟨hne, htrim, -, -, h0, -⟩ := h
  rw [toList_render]
  apply Text.trimChars_eq_self
  · rw [List.head?_append_of_ne_nil _ hne]
    exact Text.head?_of_trimChars_eq htrim
  · intro c hc
    have hc' : (e.opcode.toList ++ [':'] ++ (toString e.count).toList).getLast? = some c := by
      simpa using hc
    rw [List.getLast?_append_of_ne_nil _ (toString_ne_nil e.count)] at hc'
    exact Text.isBlank_of_isDigit (Text.isDigit_of_mem_toString h0 (List.mem_of_getLast? hc'))

/-- A readable entry reads back from its written form. -/
theorem parse_render {e : MixEntry} (h : e.Readable) : parse e.render.toList = .ok e := by
  obtain ⟨hne, htrim, hcolon, -, h0, h1⟩ := h
  have hdigits : ':' ∉ (toString e.count).toList := fun hc => by
    simpa using Text.isDigit_of_mem_toString h0 hc
  -- the colon splits the written form into the opcode and the count
  have hsplit : e.render.toList.splitOn ':' = [e.opcode.toList, (toString e.count).toList] := by
    have hjoin : [':'].intercalate [e.opcode.toList, (toString e.count).toList] = e.render.toList := by
      simp [List.intercalate, toList_render]
    rw [← hjoin, List.splitOn_intercalate]
    · intro l hl
      simp only [List.mem_cons, List.mem_nil_iff, or_false] at hl
      rcases hl with rfl | rfl
      exacts [hcolon, hdigits]
    · simp
  have hcount : Text.trimChars (toString e.count).toList = (toString e.count).toList :=
    Text.trimChars_eq_self
      (fun c hc => Text.isBlank_of_isDigit (Text.isDigit_of_mem_toString h0 (List.mem_of_mem_head? hc)))
      (fun c hc => Text.isBlank_of_isDigit (Text.isDigit_of_mem_toString h0 (List.mem_of_getLast? hc)))
  have hread : Text.readDecimal? (String.ofList (Text.trimChars (toString e.count).toList)) =
      some e.count := by
    rw [hcount, String.ofList_toList]
    exact Text.readDecimal?_toString h0 h1
  rw [parse, hsplit]
  dsimp only
  rw [htrim, if_neg hne, hread]
  dsimp only
  rw [if_neg (by omega), String.ofList_toList]

/-- An entry read from a piece without commas is readable. -/
theorem readable_of_parse {raw : List Char} {e : MixEntry} (hraw : ',' ∉ raw)
    (h : parse raw = .ok e) : e.Readable := by
  unfold parse at h
  split at h
  · rename_i op count hsplit
    have hop : op ∈ raw.splitOn ':' := by simp [hsplit]
    dsimp only at h
    by_cases hne : Text.trimChars op = []
    · rw [if_pos hne] at h
      cases h
    rw [if_neg hne] at h
    cases hn : Text.readDecimal? (String.ofList (Text.trimChars count)) with
    | none =>
      rw [hn] at h
      cases h
    | some n =>
      rw [hn] at h
      dsimp only at h
      by_cases hpos : n < 0
      · rw [if_pos hpos] at h
        cases h
      rw [if_neg hpos] at h
      cases h
      have hsub := Text.trimChars_sublist op
      refine ⟨by simpa using hne, by simp [Text.trimChars_trimChars], ?_, ?_, by dsimp only; omega,
        (Text.readDecimal?_bounds hn).2⟩
      · simpa using fun hc => not_mem_of_mem_splitOn hop (hsub.subset hc)
      · simpa using fun hc => hraw (mem_of_mem_of_mem_splitOn hop (hsub.subset hc))
  · cases h

end MixEntry

namespace Mix

/-- Reading raw entries in turn succeeds exactly when each entry, trimmed, reads. -/
theorem gather_eq_ok_iff : ∀ (raws : List (List Char)) (m : Mix),
    gather raws = .ok m ↔
      List.Forall₂ (fun raw e => MixEntry.parse (Text.trimChars raw) = .ok e) raws m
  | [], m => by cases m <;> simp [gather]
  | raw :: raws, m => by
    unfold gather
    cases h1 : MixEntry.parse (Text.trimChars raw) with
    | error e =>
      cases gather raws <;> cases m <;> simp [h1]
    | ok e =>
      cases h2 : gather raws with
      | error es =>
        cases m with
        | nil => simp
        | cons e' m =>
          simp only [List.forall₂_cons, h1, Except.ok.injEq, reduceCtorEq, false_iff, not_and]
          intro _ hm
          have := (gather_eq_ok_iff raws m).mpr hm
          rw [h2] at this
          cases this
      | ok m' =>
        cases m with
        | nil => simp
        | cons e' m =>
          simp only [List.forall₂_cons, h1, Except.ok.injEq, ← gather_eq_ok_iff raws m, h2,
            List.cons.injEq]

theorem toList_render (m : Mix) :
    m.render.toList = [','].intercalate (m.map fun e => e.render.toList) := by
  simp [render, String.toList_intercalate, List.map_map, Function.comp_def]

/-- A mix of readable entries reads back from its written form. -/
theorem parse_render {m : Mix} (h : ∀ e ∈ m, e.Readable) : parse m.render = .ok m := by
  cases m with
  | nil => rfl
  | cons e m =>
    -- the written form holds a colon, so it is not blank
    have hcolon : ':' ∈ (render (e :: m)).toList := by
      rw [toList_render, List.map_cons]
      exact mem_intercalate_cons (by simp [MixEntry.toList_render])
    have hblank : Text.trimChars (render (e :: m)).toList ≠ [] :=
      List.ne_nil_of_mem (Text.mem_trimChars hcolon (by decide))
    have hcommas : ∀ raw ∈ (e :: m).map (fun e => e.render.toList), ',' ∉ raw := by
      simp only [List.mem_map]
      rintro raw ⟨e', he', rfl⟩ hc
      rw [MixEntry.toList_render] at hc
      obtain ⟨-, -, -, hcomma, h0, -⟩ := h e' he'
      rcases List.mem_append.mp hc with hc | hc
      · exact hcomma hc
      · simp only [List.mem_cons] at hc
        rcases hc with hc | hc
        · cases hc
        · simpa using Text.isDigit_of_mem_toString h0 hc
    rw [parse, if_neg hblank, toList_render, List.splitOn_intercalate _ hcommas (by simp),
      gather_eq_ok_iff, List.forall₂_map_left_iff, List.forall₂_same]
    intro e' he'
    rw [MixEntry.trimChars_render (h e' he')]
    exact MixEntry.parse_render (h e' he')

/-- Every entry of a mix that was read is readable. -/
theorem readable_of_parse {s : String} {m : Mix} (h : parse s = .ok m) : ∀ e ∈ m, e.Readable := by
  unfold parse at h
  split at h
  · cases h
    simp
  · have hall := (gather_eq_ok_iff _ _).mp h
    -- each entry is read from a piece between commas
    intro e he
    obtain ⟨raw, hraw, he'⟩ := exists_of_forall₂ hall e he
    exact MixEntry.readable_of_parse
      (fun hc => not_mem_of_mem_splitOn hraw ((Text.trimChars_sublist raw).subset hc)) he'

/-- **A mix that was read reads back from its written form.** -/
theorem parse_render_of_parse {s : String} {m : Mix} (h : parse s = .ok m) : parse m.render = .ok m :=
  parse_render (readable_of_parse h)

theorem parse_render_of_parse_sample :
    parse "sin:3, mad : +10" = .ok [⟨"sin", 3⟩, ⟨"mad", 10⟩] ∧
      parse (render [⟨"sin", 3⟩, ⟨"mad", 10⟩]) = .ok [⟨"sin", 3⟩, ⟨"mad", 10⟩] :=
  ⟨by decide, parse_render_of_parse (s := "sin:3, mad : +10") (by decide)⟩

end Mix

/-! ### The opcodes of a validated configuration -/

namespace Catalog

/-- A template that reading operations puts in a catalog was there before, or was read from one
of the operations. -/
theorem mem_gather : ∀ (ops : List (String × String)) (c : Catalog) (fs : List Fault) (t : Template),
    t ∈ (gather (c, fs) ops).1.templates →
      t ∈ c.templates ∨ ∃ op ∈ ops, Template.ofText op.1 op.2 = .ok t
  | [], _, _, _, h => .inl h
  | (op, text) :: rest, c, fs, t, h => by
    unfold gather at h
    split at h
    · rename_i u hu
      rcases mem_gather rest _ _ t h with h | ⟨o, ho, ht⟩
      · rcases mem_place h with rfl | h
        · exact .inr ⟨(op, text), List.mem_cons_self .., hu⟩
        · exact .inl h
      · exact .inr ⟨o, List.mem_cons_of_mem _ ho, ht⟩
    · rcases mem_gather rest _ _ t h with h | ⟨o, ho, ht⟩
      · exact .inl h
      · exact .inr ⟨o, List.mem_cons_of_mem _ ho, ht⟩

theorem mem_byOpcode {op : String × String} :
    ∀ {ops : List (String × String)}, op ∈ byOpcode ops → op ∈ ops
  | [], h => h
  | o :: os, h => by
    -- `insertByOpcode` only puts `o` among the others
    have hins : ∀ (xs : List (String × String)), op ∈ insertByOpcode o xs → op = o ∨ op ∈ xs := by
      intro xs hx
      induction xs with
      | nil => simpa [insertByOpcode] using hx
      | cons x xs ih =>
        unfold insertByOpcode at hx
        split at hx
        · simpa using hx
        · rcases List.mem_cons.mp hx with rfl | hx
          · exact .inr (List.mem_cons_self ..)
          · rcases ih hx with h | h
            · exact .inl h
            · exact .inr (List.mem_cons_of_mem _ h)
    rcases hins _ h with rfl | h
    · exact List.mem_cons_self ..
    · exact List.mem_cons_of_mem _ (mem_byOpcode h)

/-- Every template of a catalog extended from one with valid opcodes has a valid opcode. -/
theorem validOpcode_of_extend {c c' : Catalog} {ops : List (String × String)}
    (hc : ∀ t ∈ c.templates, validOpcode t.opcode = true) (h : c.extend ops = .ok c') :
    ∀ t ∈ c'.templates, validOpcode t.opcode = true := by
  unfold extend at h
  split at h
  · rename_i c'' hg
    cases h
    intro t ht
    have ht' : t ∈ (gather (c, []) (byOpcode ops)).1.templates := by rw [hg]; exact ht
    rcases mem_gather _ _ _ t ht' with ht | ⟨op, -, hop⟩
    · exact hc t ht
    · obtain ⟨hv, -, -, rfl⟩ := (Template.ofText_eq_ok_iff _ _ _).mp hop
      exact hv
  · cases h

theorem validOpcode_of_default : ∀ t ∈ default.templates, validOpcode t.opcode = true := by
  unfold default
  split
  · rename_i c hc
    exact validOpcode_of_extend (fun _ h => by simp [empty] at h) hc
  · intro _ h
    simp [empty] at h

end Catalog

namespace Mix

/-- A valid opcode is not empty and holds no colon or comma. -/
theorem of_validOpcode {op : String} (h : validOpcode op = true) :
    op.toList ≠ [] ∧ ':' ∉ op.toList ∧ ',' ∉ op.toList := by
  simp only [validOpcode, Bool.and_eq_true, bne_iff_ne, ne_eq, Bool.not_eq_eq_eq_not,
    Bool.not_true, List.any_eq_false] at h
  refine ⟨by simpa using h.1, fun hc => ?_, fun hc => ?_⟩
  · simpa [isOpcodeBreak] using h.2 ':' hc
  · simpa [isOpcodeBreak] using h.2 ',' hc

/-- The opcodes of a validated configuration's mix are valid. -/
theorem validOpcode_of_ofOptions {o : Options} {cfg : Config} (ho : Config.ofOptions o = .ok cfg) :
    ∀ e ∈ cfg.mix, validOpcode e.opcode = true := by
  intro e he
  obtain ⟨t, ht⟩ := (Config.mix_ofOptions ho e he).2
  have hvalid := Catalog.validOpcode_of_extend Catalog.validOpcode_of_default
    (Config.ofOptions_fields ho).1 t (Catalog.mem_of_lookup? ht)
  rwa [Catalog.opcode_lookup? _ _ _ ht] at hvalid

/-- **A validated configuration's mix reads back from its written form exactly when no opcode
starts or ends with a blank.** Its opcodes hold no colon or comma and its counts are not
negative, so with counts of 64-bit words only the blanks at an opcode's ends are lost. -/
theorem parse_render_config_iff {o : Options} {cfg : Config} (ho : Config.ofOptions o = .ok cfg)
    (hw : ∀ e ∈ o.mix, e.count ≤ Text.wordMax) :
    parse cfg.mix.render = .ok cfg.mix ↔
      ∀ e ∈ cfg.mix, Text.trimChars e.opcode.toList = e.opcode.toList := by
  constructor
  · intro h e he
    exact (readable_of_parse h e he).2.1
  · intro htrim
    apply parse_render
    intro e he
    have hmix : cfg.mix = o.mix := (Config.ofOptions_fields ho).2.2.2.2.2.2.1
    obtain ⟨hne, hcolon, hcomma⟩ := of_validOpcode (validOpcode_of_ofOptions ho e he)
    exact ⟨hne, htrim e he, hcolon, hcomma, (Config.mix_ofOptions ho e he).1,
      hw e (hmix ▸ he)⟩

/-- An operation whose opcode starts with a carriage return validates, and a mix of it is
read back without the carriage return. -/
theorem parse_render_carriage_return :
    ∃ o cfg, o.mix = [⟨"\rx", 1⟩] ∧ Config.ofOptions o = .ok cfg ∧
      parse cfg.mix.render ≠ .ok cfg.mix := by
  obtain ⟨cfg, hcfg⟩ : ∃ cfg, Config.ofOptions
      { Options.default with operations := [("\rx", "OUT = IN1;")], mix := [⟨"\rx", 1⟩] } =
        .ok cfg := ⟨_, rfl⟩
  refine ⟨_, cfg, rfl, hcfg, fun h => ?_⟩
  have htrim := (parse_render_config_iff hcfg (by decide)).mp h
  rw [(Config.ofOptions_fields hcfg).2.2.2.2.2.2.1] at htrim
  exact absurd (htrim _ (List.mem_singleton_self _)) (by decide)

end Mix

/-! ### The number of instructions -/

namespace Word

/-- A total that is not negative is its own word exactly when it is below `2^63`. -/
theorem wrap_eq_self_iff {x : Int} (hx : 0 ≤ x) : wrap x = x ↔ x < bound := by
  have hb : ((modulus : Int) + 1) / 2 = bound := by decide
  constructor
  · intro h
    have hlt : wrap x < ((modulus : Int) + 1) / 2 := Int.bmod_lt (by decide)
    rw [h, hb] at hlt
    exact hlt
  · intro h
    have hpos : (0 : Int) ≤ bound := by decide
    exact wrap_of_mem x (by omega) h

theorem total_nonneg {xs : List Int} (h : ∀ x ∈ xs, 0 ≤ x) : 0 ≤ total xs := by
  induction xs with
  | nil => exact Int.le_refl 0
  | cons x xs ih =>
    have hx := h x (by simp)
    have hxs := ih fun y hy => h y (by simp [hy])
    simp only [total_cons]
    omega

end Word

namespace Mix

/-- **A mix with no negative count has as many instructions as its counts add up to exactly
when they add up to less than `2^63`**; from there on the sum goes round. -/
theorem instructions_eq_total_iff {m : Mix} (hnn : ∀ e ∈ m, 0 ≤ e.count) :
    m.instructions = Word.total (m.map (·.count)) ↔ Word.total (m.map (·.count)) < Word.bound := by
  rw [instructions_eq_wrap]
  apply Word.wrap_eq_self_iff
  apply Word.total_nonneg
  simp only [List.mem_map]
  rintro _ ⟨e, he, rfl⟩
  exact hnn e he

/-- The mixes the program accepts, read from text or validated in a configuration, have no
negative count: their number of instructions is the sum of their counts exactly when that sum
is below `2^63`, whatever the counts are one by one. -/
theorem instructions_eq_total_iff_of_accepted :
    (∀ s m, parse s = .ok m →
      (m.instructions = Word.total (m.map (·.count)) ↔ Word.total (m.map (·.count)) < Word.bound)) ∧
    (∀ o cfg, Config.ofOptions o = .ok cfg →
      (cfg.mix.instructions = Word.total (cfg.mix.map (·.count)) ↔
        Word.total (cfg.mix.map (·.count)) < Word.bound)) :=
  ⟨fun _ _ h => instructions_eq_total_iff fun e he => (readable_of_parse h e he).2.2.2.2.1,
    fun _ _ h => instructions_eq_total_iff fun e he => (Config.mix_ofOptions h e he).1⟩

/-- Two entries of `2^62` each are read, and validate; their `2^63` instructions go round to
`-2^63`. -/
theorem instructions_two_halves :
    parse "a:4611686018427387904,b:4611686018427387904" =
        .ok [⟨"a", 4611686018427387904⟩, ⟨"b", 4611686018427387904⟩] ∧
      instructions [⟨"a", 4611686018427387904⟩, ⟨"b", 4611686018427387904⟩] = -9223372036854775808 ∧
      ∃ cfg, Config.ofOptions
          { Options.default with mix := [⟨"sin", 4611686018427387904⟩, ⟨"cos", 4611686018427387904⟩] } =
          .ok cfg ∧ cfg.mix.instructions = -9223372036854775808 :=
  ⟨by decide, by decide, _, rfl, by decide⟩

end Mix
end KernelSynth
