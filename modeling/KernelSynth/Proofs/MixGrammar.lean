/-
# The grammar of mix texts

A blank mix text reads as the empty mix. Any other is split at its commas,
and each piece must be an entry (`EntryText`): blanks, an opcode, blanks, a
colon, blanks, a count, blanks. The opcode is not empty, holds no colon and
neither starts nor ends with a blank; the count is a decimal literal, an
optional sign and decimal digits (`Literal`), whose value is not negative
and is below `2^63`. Reading accepts exactly the texts whose pieces are all
entries, and returns their opcodes and counts in order. Otherwise it reports
every piece that is no entry, in order, trimmed of blanks and with the first
check it fails (`FirstFailure`): a single colon, an opcode that is not
blank, a count whose literal fits a signed 64-bit word, a count that is not
negative.

Reading an entry splits, trims, splits again and trims again; the grammar
puts the blanks where they may stand. The two meet through trimming: a text
is its trimming with blanks around it (`exists_trim`), and a text with
blanks around one that neither starts nor ends with a blank trims to that
one (`trimChars_pad`).

Key definitions: `Mix.Literal`, `Mix.Blanks`, `Mix.EntryText`, `Mix.FirstFailure`,
`Mix.PieceCheck`.
Key theorems: `Mix.readDecimal?_eq_some_iff`, `Mix.entryText_iff`, `Mix.firstFailure_iff`,
`Mix.gather_eq_error_iff`, `Mix.parse_grammar`.
-/
import Mathlib
import KernelSynth.Proofs.MixText

namespace KernelSynth
namespace Mix

/-! ### Blanks -/

/-- Blank characters only. -/
def Blanks (w : List Char) : Prop := ∀ c ∈ w, Text.isBlank c = true

theorem Blanks.append {w w' : List Char} (h : Blanks w) (h' : Blanks w') : Blanks (w ++ w') := by
  intro c hc
  rcases List.mem_append.mp hc with hc | hc
  exacts [h c hc, h' c hc]

theorem Blanks.nil : Blanks [] := fun _ h => absurd h List.not_mem_nil

theorem colon_not_mem {w : List Char} (h : Blanks w) : ':' ∉ w := fun hc =>
  absurd (h ':' hc) (by decide)

/-- A text trims to nothing exactly when it is blank. -/
theorem trimChars_eq_nil_iff (cs : List Char) : Text.trimChars cs = [] ↔ Blanks cs := by
  have hdrop : Text.dropBlanks cs = [] ↔ Blanks cs := List.dropWhile_eq_nil_iff
  rw [Text.trimChars, List.reverse_eq_nil_iff, Text.dropBlanks, List.dropWhile_eq_nil_iff, ← hdrop]
  constructor
  · -- a text left after dropping its leading blanks starts with no blank
    intro h
    by_contra hne
    have := List.head_dropWhile_not Text.isBlank hne
    simp only [Text.dropBlanks] at hne this
    rw [h _ (List.mem_reverse.mpr (List.head_mem hne))] at this
    exact absurd this (by decide)
  · intro h
    simp [h]

/-- A text is its trimming with blanks before and after it. -/
theorem exists_trim (cs : List Char) :
    ∃ w w', Blanks w ∧ Blanks w' ∧ cs = w ++ Text.trimChars cs ++ w' := by
  have hfront : cs.takeWhile Text.isBlank ++ cs.dropWhile Text.isBlank = cs :=
    List.takeWhile_append_dropWhile
  have hback : (Text.dropBlanks cs).reverse.takeWhile Text.isBlank ++
      (Text.dropBlanks cs).reverse.dropWhile Text.isBlank = (Text.dropBlanks cs).reverse :=
    List.takeWhile_append_dropWhile
  refine ⟨cs.takeWhile Text.isBlank, ((Text.dropBlanks cs).reverse.takeWhile Text.isBlank).reverse,
    fun c hc => List.mem_takeWhile_imp hc, fun c hc => List.mem_takeWhile_imp (List.mem_reverse.mp hc), ?_⟩
  -- the leading blanks, then what dropping them leaves, split at its trailing blanks
  have hrest : Text.dropBlanks cs =
      Text.trimChars cs ++ ((Text.dropBlanks cs).reverse.takeWhile Text.isBlank).reverse := by
    conv_lhs => rw [← List.reverse_reverse (Text.dropBlanks cs), ← hback]
    rw [List.reverse_append]
    rfl
  rw [List.append_assoc, ← hrest]
  exact hfront.symm

theorem dropBlanks_append {w x : List Char} (hw : Blanks w) (hx : ∀ c ∈ x.head?, Text.isBlank c = false) :
    Text.dropBlanks (w ++ x) = x := by
  induction w with
  | nil => exact Text.dropBlanks_eq_self hx
  | cons c w ih =>
    have hc : Text.isBlank c = true := hw c (List.mem_cons_self ..)
    simp only [Text.dropBlanks, List.cons_append, List.dropWhile_cons, hc, ite_true] at ih ⊢
    exact ih fun d hd => hw d (List.mem_cons_of_mem _ hd)

/-- A text with blanks around one that neither starts nor ends with a blank trims to that one. -/
theorem trimChars_pad {w x w' : List Char} (hw : Blanks w) (hw' : Blanks w')
    (hh : ∀ c ∈ x.head?, Text.isBlank c = false) (hl : ∀ c ∈ x.getLast?, Text.isBlank c = false) :
    Text.trimChars (w ++ x ++ w') = x := by
  rcases x.eq_nil_or_concat' with rfl | ⟨y, c, rfl⟩
  · exact (trimChars_eq_nil_iff _).mpr (by simpa using hw.append hw')
  · have hc : Text.isBlank c = false := hl c (by simp)
    have hhead : ∀ d ∈ (y ++ [c] ++ w').head?, Text.isBlank d = false := by
      cases y with
      | nil => simpa using hc
      | cons d y => simpa using hh
    have hrev : ∀ d ∈ (c :: y.reverse).head?, Text.isBlank d = false := by simpa using hc
    rw [Text.trimChars, List.append_assoc, dropBlanks_append hw hhead, List.reverse_append,
      List.reverse_append, List.reverse_singleton, List.singleton_append,
      dropBlanks_append (fun d hd => hw' d (List.mem_reverse.mp hd)) hrev]
    simp

/-! ### Decimal literals -/

/-- One or more decimal digits. -/
def DecimalDigits (ds : List Char) : Prop := ds ≠ [] ∧ ∀ c ∈ ds, c.isDigit = true

/-- The number decimal digits write: the digits' values, last first, in base ten. -/
def digitsValue (ds : List Char) : Nat := Nat.ofDigits 10 (ds.reverse.map fun c => c.toNat - 48)

/-- A decimal literal and its value: decimal digits, after a plus sign, a minus sign or none. -/
inductive Literal : List Char → Int → Prop
  | unsigned {ds : List Char} : DecimalDigits ds → Literal ds (digitsValue ds)
  | plus {ds : List Char} : DecimalDigits ds → Literal ('+' :: ds) (digitsValue ds)
  | minus {ds : List Char} : DecimalDigits ds → Literal ('-' :: ds) (-(digitsValue ds : Int))

theorem digitsValue_cons (c : Char) (ds : List Char) :
    digitsValue (c :: ds) = (c.toNat - 48) * 10 ^ ds.length + digitsValue ds := by
  simp [digitsValue, Nat.ofDigits_append, Nat.add_comm, Nat.mul_comm]

theorem decimalDigit?_eq_some_iff (c : Char) (d : Nat) :
    Text.decimalDigit? c = some d ↔ c.isDigit = true ∧ d = c.toNat - 48 := by
  have hiff : ('0' ≤ c ∧ c ≤ '9') ↔ c.isDigit = true := by
    simp [Char.isDigit, Char.le_def]
  unfold Text.decimalDigit?
  split
  · rename_i h
    simp only [Option.some.injEq, hiff.mp h, true_and]
    exact eq_comm
  · rename_i h
    simp only [reduceCtorEq, false_iff, not_and]
    intro hd
    exact absurd (hiff.mpr hd) h

/-- Reading digits from the left onto `acc` gives `acc` shifted past them plus their value. -/
theorem foldlM_digits_eq_some_iff (ds : List Char) (acc v : Nat) :
    ds.foldlM (fun n c => (Text.decimalDigit? c).map (n * 10 + ·)) acc = some v ↔
      (∀ c ∈ ds, c.isDigit = true) ∧ v = acc * 10 ^ ds.length + digitsValue ds := by
  induction ds generalizing acc with
  | nil =>
    simp [digitsValue]
    omega
  | cons c ds ih =>
    cases hc : Text.decimalDigit? c with
    | none =>
      have hnd : c.isDigit = false := by
        by_contra h
        simpa [hc] using (decimalDigit?_eq_some_iff c (c.toNat - 48)).mpr ⟨by simpa using h, rfl⟩
      simp [hc, hnd]
    | some d =>
      obtain ⟨hd, rfl⟩ := (decimalDigit?_eq_some_iff c d).mp hc
      -- the digit joins the accumulator, or heads the digits' value: the same number
      have hshift : (acc * 10 + (c.toNat - 48)) * 10 ^ ds.length + digitsValue ds =
          acc * 10 ^ (ds.length + 1) + ((c.toNat - 48) * 10 ^ ds.length + digitsValue ds) := by ring
      simp only [List.foldlM_cons, hc, Option.map_some, Option.bind_eq_bind, Option.bind_some, ih,
        List.mem_cons, forall_eq_or_imp, hd, true_and, List.length_cons, digitsValue_cons, hshift]

theorem decimalValue?_eq_some_iff (ds : List Char) (v : Nat) :
    Text.decimalValue? ds = some v ↔ DecimalDigits ds ∧ v = digitsValue ds := by
  cases ds with
  | nil => simp [Text.decimalValue?, DecimalDigits]
  | cons c ds =>
    -- the equation of a nonempty numeral asks that it is not empty
    rw [Text.decimalValue?, foldlM_digits_eq_some_iff]
    · simp only [DecimalDigits, ne_eq, reduceCtorEq, not_false_eq_true, true_and, Nat.zero_mul,
        Nat.zero_add]
    · exact List.cons_ne_nil c ds

theorem literal_minus_iff (ds : List Char) (n : Int) :
    Literal ('-' :: ds) n ↔ DecimalDigits ds ∧ n = -(digitsValue ds : Int) := by
  constructor
  · rintro (⟨h⟩ | _ | ⟨h⟩)
    · exact absurd (h.2 '-' (List.mem_cons_self ..)) (by decide)
    · exact ⟨h, rfl⟩
  · rintro ⟨h, rfl⟩
    exact .minus h

theorem literal_plus_iff (ds : List Char) (n : Int) :
    Literal ('+' :: ds) n ↔ DecimalDigits ds ∧ n = digitsValue ds := by
  constructor
  · rintro (⟨h⟩ | ⟨h⟩ | _)
    · exact absurd (h.2 '+' (List.mem_cons_self ..)) (by decide)
    · exact ⟨h, rfl⟩
  · rintro ⟨h, rfl⟩
    exact .plus h

theorem literal_unsigned_iff {ds : List Char} (h : ∀ r, ds ≠ '-' :: r ∧ ds ≠ '+' :: r) (n : Int) :
    Literal ds n ↔ DecimalDigits ds ∧ n = digitsValue ds := by
  constructor
  · rintro (⟨h'⟩ | ⟨-⟩ | ⟨-⟩)
    · exact ⟨h', rfl⟩
    · exact absurd rfl (h _).2
    · exact absurd rfl (h _).1
  · rintro ⟨h', rfl⟩
    exact .unsigned h'

/-- **Decimal numerals read as their literals.** A text reads as a decimal count exactly when it
is a decimal literal whose value fits a signed 64-bit word. -/
theorem readDecimal?_eq_some_iff (lit : List Char) (n : Int) :
    Text.readDecimal? (String.ofList lit) = some n ↔
      Literal lit n ∧ Text.wordMin ≤ n ∧ n ≤ Text.wordMax := by
  unfold Text.readDecimal?
  rw [String.toList_ofList]
  split
  rename_i neg digits hsign
  split at hsign
  · -- a minus sign
    rename_i r
    obtain ⟨rfl, rfl⟩ := Prod.mk.inj hsign
    rw [literal_minus_iff]
    cases hv : Text.decimalValue? r with
    | none =>
      simp only [reduceCtorEq, false_iff, not_and]
      rintro ⟨hd, -⟩
      exact absurd ((decimalValue?_eq_some_iff r _).mpr ⟨hd, rfl⟩) (by simp [hv])
    | some v =>
      obtain ⟨hd, rfl⟩ := (decimalValue?_eq_some_iff r v).mp hv
      simp only [ite_true, hd, true_and]
      split <;> simp_all [eq_comm]
  · -- a plus sign
    rename_i r
    obtain ⟨rfl, rfl⟩ := Prod.mk.inj hsign
    rw [literal_plus_iff]
    cases hv : Text.decimalValue? r with
    | none =>
      simp only [reduceCtorEq, false_iff, not_and]
      rintro ⟨hd, -⟩
      exact absurd ((decimalValue?_eq_some_iff r _).mpr ⟨hd, rfl⟩) (by simp [hv])
    | some v =>
      obtain ⟨hd, rfl⟩ := (decimalValue?_eq_some_iff r v).mp hv
      simp only [Bool.false_eq_true, ite_false, hd, true_and]
      split <;> simp_all [eq_comm]
  · -- no sign
    rename_i r hm hp
    obtain ⟨rfl, rfl⟩ := Prod.mk.inj hsign
    rw [literal_unsigned_iff (fun r' => ⟨fun h => hm r' h, fun h => hp r' h⟩)]
    cases hv : Text.decimalValue? lit with
    | none =>
      simp only [reduceCtorEq, false_iff, not_and]
      rintro ⟨hd, -⟩
      exact absurd ((decimalValue?_eq_some_iff lit _).mpr ⟨hd, rfl⟩) (by simp [hv])
    | some v =>
      obtain ⟨hd, rfl⟩ := (decimalValue?_eq_some_iff lit v).mp hv
      simp only [Bool.false_eq_true, ite_false, hd, true_and]
      split <;> simp_all [eq_comm]

/-- A literal starts with a sign or a digit and ends with a digit, so it holds no colon and
neither starts nor ends with a blank. -/
theorem Literal.ends {lit : List Char} {n : Int} (h : Literal lit n) :
    (∀ c ∈ lit.head?, Text.isBlank c = false) ∧ (∀ c ∈ lit.getLast?, Text.isBlank c = false) ∧
      ':' ∉ lit := by
  -- the digits of a literal: all of it, or all but its sign
  have hdigits : ∀ {ds : List Char}, DecimalDigits ds →
      (∀ c ∈ ds.head?, Text.isBlank c = false) ∧ (∀ c ∈ ds.getLast?, Text.isBlank c = false) ∧
        ':' ∉ ds := by
    intro ds hd
    refine ⟨fun c hc => Text.isBlank_of_isDigit (hd.2 c (List.mem_of_mem_head? hc)),
      fun c hc => Text.isBlank_of_isDigit (hd.2 c (List.mem_of_getLast? hc)), fun hc => ?_⟩
    simpa using hd.2 ':' hc
  -- a sign before the digits is no blank and no colon, and leaves the last character as it is
  have hsign : ∀ {x : Char} {ds : List Char}, DecimalDigits ds → Text.isBlank x = false → x ≠ ':' →
      (∀ c ∈ (x :: ds).head?, Text.isBlank c = false) ∧
        (∀ c ∈ (x :: ds).getLast?, Text.isBlank c = false) ∧ ':' ∉ x :: ds := by
    intro x ds hd hx hxc
    obtain ⟨-, hl, hc⟩ := hdigits hd
    obtain ⟨d, ds', rfl⟩ := List.exists_cons_of_ne_nil hd.1
    refine ⟨by simpa using hx, ?_, by simpa [Ne.symm hxc] using hc⟩
    rwa [List.getLast?_cons_cons]
  rcases h with ⟨hd⟩ | ⟨hd⟩ | ⟨hd⟩
  · exact hdigits hd
  · exact hsign hd (by decide) (by decide)
  · exact hsign hd (by decide) (by decide)

/-! ### Colons -/

theorem length_splitOn (x : Char) : ∀ l : List Char, (l.splitOn x).length = l.count x + 1
  | [] => rfl
  | c :: l => by
    have ih := length_splitOn x l
    simp only [List.splitOn] at ih ⊢
    rw [List.splitOnP_cons_eq_if_modifyHead]
    by_cases h : c = x
    · simp [h, ih]
    · simp [h, ih]

theorem splitOn_eq_pair_iff (x : Char) (l a b : List Char) :
    l.splitOn x = [a, b] ↔ l = a ++ x :: b ∧ x ∉ a ∧ x ∉ b := by
  constructor
  · intro h
    have hmem : ∀ w ∈ [a, b], x ∉ w := fun w hw => not_mem_of_mem_splitOn (by rw [h]; exact hw)
    refine ⟨?_, hmem a (by simp), hmem b (by simp)⟩
    have hjoin : [x].intercalate (l.splitOn x) = l := List.intercalate_splitOn x
    rw [h] at hjoin
    simpa [List.intercalate] using hjoin.symm
  · rintro ⟨rfl, ha, hb⟩
    have hsplit : ([x].intercalate [a, b]).splitOn x = [a, b] :=
      List.splitOn_intercalate x (by simp [ha, hb]) (by simp)
    simpa [List.intercalate] using hsplit

/-- A text with exactly one colon is the text before it and the text after it. -/
theorem exists_colon_split {r : List Char} (h : r.count ':' = 1) :
    ∃ a b, ':' ∉ a ∧ ':' ∉ b ∧ r = a ++ ':' :: b := by
  have hlen : (r.splitOn ':').length = 2 := by rw [length_splitOn, h]
  obtain ⟨a, b, hab⟩ := List.length_eq_two.mp hlen
  obtain ⟨hr, ha, hb⟩ := (splitOn_eq_pair_iff ':' r a b).mp hab
  exact ⟨a, b, ha, hb, hr⟩

/-! ### Reading one entry, step by step -/

theorem parseEntry_shape {r : List Char} (h : r.count ':' ≠ 1) :
    MixEntry.parse r = .error ⟨String.ofList r, .shape⟩ := by
  unfold MixEntry.parse
  split
  · -- two pieces around the colons would mean one colon
    rename_i op count hsplit
    have hlen := length_splitOn ':' r
    rw [hsplit] at hlen
    exact absurd (by simpa using hlen.symm) h
  · rfl

section Colon

variable {a b : List Char} (ha : ':' ∉ a) (hb : ':' ∉ b)
include ha hb

theorem parseEntry_noOpcode (h : Blanks a) :
    MixEntry.parse (a ++ ':' :: b) = .error ⟨String.ofList (a ++ ':' :: b), .noOpcode⟩ := by
  rw [MixEntry.parse, (splitOn_eq_pair_iff ':' _ a b).mpr ⟨rfl, ha, hb⟩]
  simp only [(trimChars_eq_nil_iff a).mpr h, ite_true]

theorem parseEntry_notInteger (h : ¬ Blanks a)
    (hn : Text.readDecimal? (String.ofList (Text.trimChars b)) = none) :
    MixEntry.parse (a ++ ':' :: b) = .error ⟨String.ofList (a ++ ':' :: b), .notInteger⟩ := by
  rw [MixEntry.parse, (splitOn_eq_pair_iff ':' _ a b).mpr ⟨rfl, ha, hb⟩]
  simp only [mt (trimChars_eq_nil_iff a).mp h, ite_false, hn]

theorem parseEntry_count (h : ¬ Blanks a) {n : Int}
    (hn : Text.readDecimal? (String.ofList (Text.trimChars b)) = some n) :
    MixEntry.parse (a ++ ':' :: b) =
      if n < 0 then .error ⟨String.ofList (a ++ ':' :: b), .negative⟩
      else .ok ⟨String.ofList (Text.trimChars a), n⟩ := by
  rw [MixEntry.parse, (splitOn_eq_pair_iff ':' _ a b).mpr ⟨rfl, ha, hb⟩]
  simp only [mt (trimChars_eq_nil_iff a).mp h, ite_false, hn]

end Colon

/-! ### Entries -/

/-- A piece of a mix text that is an entry, and the entry it writes: blanks, the opcode, blanks,
a colon, blanks, the count's literal, blanks. -/
inductive EntryText : List Char → MixEntry → Prop
  | intro {w₁ op w₂ w₃ lit w₄ : List Char} {n : Int} :
      Blanks w₁ → Blanks w₂ → Blanks w₃ → Blanks w₄ → op ≠ [] → ':' ∉ op →
      (∀ c ∈ op.head?, Text.isBlank c = false) → (∀ c ∈ op.getLast?, Text.isBlank c = false) →
      Literal lit n → 0 ≤ n → n ≤ Text.wordMax →
      EntryText (w₁ ++ op ++ w₂ ++ ':' :: (w₃ ++ lit ++ w₄)) ⟨String.ofList op, n⟩

theorem parse_of_entryText {p : List Char} {e : MixEntry} (h : EntryText p e) :
    MixEntry.parse (Text.trimChars p) = .ok e := by
  obtain ⟨hw₁, hw₂, hw₃, hw₄, hop, hcop, hh, hl, hlit, h0, h1⟩ := h
  rename_i w₁ op w₂ w₃ lit w₄ n
  obtain ⟨lh, ll, lc⟩ := hlit.ends
  have hlit0 : lit ≠ [] := by
    rintro rfl
    cases hlit with
    | unsigned hd => exact hd.1 rfl
  -- trimming leaves the text from the opcode's first character to the literal's last
  have htrim : Text.trimChars (w₁ ++ op ++ w₂ ++ ':' :: (w₃ ++ lit ++ w₄)) =
      op ++ w₂ ++ ':' :: (w₃ ++ lit) := by
    have hshape : w₁ ++ op ++ w₂ ++ ':' :: (w₃ ++ lit ++ w₄) =
        w₁ ++ (op ++ w₂ ++ ':' :: (w₃ ++ lit)) ++ w₄ := by simp
    rw [hshape, trimChars_pad hw₁ hw₄]
    · rwa [List.append_assoc, List.head?_append_of_ne_nil _ hop]
    · have hend : op ++ w₂ ++ ':' :: (w₃ ++ lit) = (op ++ w₂ ++ ':' :: w₃) ++ lit := by simp
      rwa [hend, List.getLast?_append_of_ne_nil _ hlit0]
  have hop' : Text.trimChars (op ++ w₂) = op := by simpa using trimChars_pad Blanks.nil hw₂ hh hl
  have hlit' : Text.trimChars (w₃ ++ lit) = lit := by simpa using trimChars_pad hw₃ Blanks.nil lh ll
  have hread : Text.readDecimal? (String.ofList (Text.trimChars (w₃ ++ lit))) = some n := by
    rw [hlit', readDecimal?_eq_some_iff]
    exact ⟨hlit, le_trans (by decide) h0, h1⟩
  have hblank : ¬ Blanks (op ++ w₂) := by
    rw [← trimChars_eq_nil_iff, hop']
    exact hop
  rw [htrim, parseEntry_count (by simpa [hcop] using colon_not_mem hw₂)
    (by simpa [lc] using colon_not_mem hw₃) hblank hread, if_neg (by omega), hop']

theorem entryText_of_parse {p : List Char} {e : MixEntry}
    (h : MixEntry.parse (Text.trimChars p) = .ok e) : EntryText p e := by
  obtain ⟨w₁, w₄, hw₁, hw₄, hp⟩ := exists_trim p
  by_cases hc : (Text.trimChars p).count ':' = 1
  swap
  · rw [parseEntry_shape hc] at h
    cases h
  obtain ⟨a, b, ha, hb, hr⟩ := exists_colon_split hc
  rw [hr] at h hp
  by_cases hba : Blanks a
  · rw [parseEntry_noOpcode ha hb hba] at h
    cases h
  cases hn : Text.readDecimal? (String.ofList (Text.trimChars b)) with
  | none =>
    rw [parseEntry_notInteger ha hb hba hn] at h
    cases h
  | some n =>
    rw [parseEntry_count ha hb hba hn] at h
    split_ifs at h with hneg
    cases h
    obtain ⟨hlit, -, h1⟩ := (readDecimal?_eq_some_iff _ n).mp hn
    -- the opcode and the count are the trimmed texts around the colon
    obtain ⟨wa, wa', hwa, hwa', ha'⟩ := exists_trim a
    obtain ⟨wb, wb', hwb, hwb', hb'⟩ := exists_trim b
    have hshape : p = (w₁ ++ wa) ++ Text.trimChars a ++ wa' ++
        ':' :: (wb ++ Text.trimChars b ++ (wb' ++ w₄)) := by
      rw [hp]
      conv_lhs => rw [ha', hb']
      simp
    rw [hshape]
    exact .intro (hw₁.append hwa) hwa' hwb (hwb'.append hw₄)
      (mt (trimChars_eq_nil_iff a).mp hba)
      (fun hc => ha ((Text.trimChars_sublist a).subset hc)) Text.head?_trimChars
      Text.getLast?_trimChars hlit (by omega) h1

/-- **Entries are what reading accepts.** A piece of a mix text is an entry exactly when,
trimmed, it reads, and then it writes the entry read. -/
theorem entryText_iff (p : List Char) (e : MixEntry) :
    EntryText p e ↔ MixEntry.parse (Text.trimChars p) = .ok e :=
  ⟨parse_of_entryText, entryText_of_parse⟩

/-! ### Malformed entries -/

/-- The first check a trimmed piece of a mix text fails: one colon, an opcode that is not blank,
a count that is a decimal literal of a signed 64-bit word, a count that is not negative. -/
inductive FirstFailure : List Char → EntryFault → Prop
  | shape {r : List Char} : r.count ':' ≠ 1 → FirstFailure r .shape
  | noOpcode {a b : List Char} : ':' ∉ a → ':' ∉ b → Blanks a → FirstFailure (a ++ ':' :: b) .noOpcode
  | notInteger {a b : List Char} : ':' ∉ a → ':' ∉ b → ¬ Blanks a →
      (∀ w lit w' n, b = w ++ lit ++ w' → Blanks w → Blanks w' → Literal lit n →
        n < Text.wordMin ∨ Text.wordMax < n) →
      FirstFailure (a ++ ':' :: b) .notInteger
  | negative {a w lit w' : List Char} {n : Int} : ':' ∉ a → ¬ Blanks a → Blanks w → Blanks w' →
      Literal lit n → Text.wordMin ≤ n → n < 0 → FirstFailure (a ++ ':' :: (w ++ lit ++ w')) .negative

/-- A count between blanks reads as its literal's value when that fits a signed 64-bit word. -/
theorem readDecimal?_pad {w lit w' : List Char} {n : Int} (hw : Blanks w) (hw' : Blanks w')
    (hlit : Literal lit n) (h0 : Text.wordMin ≤ n) (h1 : n ≤ Text.wordMax) :
    Text.readDecimal? (String.ofList (Text.trimChars (w ++ lit ++ w'))) = some n := by
  obtain ⟨lh, ll, -⟩ := hlit.ends
  rw [trimChars_pad hw hw' lh ll, readDecimal?_eq_some_iff]
  exact ⟨hlit, h0, h1⟩

theorem parse_of_firstFailure {r : List Char} {f : EntryFault} (h : FirstFailure r f) :
    MixEntry.parse r = .error ⟨String.ofList r, f⟩ := by
  cases h with
  | shape h => exact parseEntry_shape h
  | noOpcode ha hb hw => exact parseEntry_noOpcode ha hb hw
  | notInteger ha hb hw hout =>
    rename_i a b
    -- a count that read would be a literal in range between blanks
    have hn : Text.readDecimal? (String.ofList (Text.trimChars b)) = none := by
      cases hread : Text.readDecimal? (String.ofList (Text.trimChars b)) with
      | none => rfl
      | some n =>
        obtain ⟨hlit, h0, h1⟩ := (readDecimal?_eq_some_iff _ n).mp hread
        obtain ⟨w, w', hw, hw', hb'⟩ := exists_trim b
        rcases hout w _ w' n hb' hw hw' hlit with hlt | hlt <;> omega
    exact parseEntry_notInteger ha hb hw hn
  | negative ha hw hw₁ hw₂ hlit h0 hneg =>
    rename_i a w lit w' n
    have hb : ':' ∉ w ++ lit ++ w' := by simpa [hlit.ends.2.2] using And.intro (colon_not_mem hw₁) (colon_not_mem hw₂)
    have hmax : (0 : Int) ≤ Text.wordMax := by decide
    rw [parseEntry_count ha hb hw (readDecimal?_pad hw₁ hw₂ hlit h0 (by omega)), if_pos hneg]

theorem firstFailure_of_parse {r : List Char} {err : EntryError} (h : MixEntry.parse r = .error err) :
    ∃ f, err = ⟨String.ofList r, f⟩ ∧ FirstFailure r f := by
  by_cases hc : r.count ':' = 1
  swap
  · rw [parseEntry_shape hc] at h
    cases h
    exact ⟨_, rfl, .shape hc⟩
  obtain ⟨a, b, ha, hb, rfl⟩ := exists_colon_split hc
  by_cases hba : Blanks a
  · rw [parseEntry_noOpcode ha hb hba] at h
    cases h
    exact ⟨_, rfl, .noOpcode ha hb hba⟩
  cases hn : Text.readDecimal? (String.ofList (Text.trimChars b)) with
  | none =>
    rw [parseEntry_notInteger ha hb hba hn] at h
    cases h
    refine ⟨_, rfl, .notInteger ha hb hba fun w lit w' n hb' hw hw' hlit => ?_⟩
    -- in range, the literal would have read
    by_contra hin
    rw [hb', readDecimal?_pad hw hw' hlit (by omega) (by omega)] at hn
    cases hn
  | some n =>
    rw [parseEntry_count ha hb hba hn] at h
    split_ifs at h with hneg
    cases h
    obtain ⟨hlit, h0, -⟩ := (readDecimal?_eq_some_iff _ n).mp hn
    obtain ⟨w, w', hw, hw', hb'⟩ := exists_trim b
    rw [hb']
    exact ⟨_, rfl, .negative ha hba hw hw' hlit h0 hneg⟩

/-- **Malformed entries report their first failing check.** Reading a trimmed piece fails with
the piece and a check exactly when that is the first check it fails. -/
theorem firstFailure_iff (r : List Char) (f : EntryFault) :
    FirstFailure r f ↔ MixEntry.parse r = .error ⟨String.ofList r, f⟩ := by
  refine ⟨parse_of_firstFailure, fun h => ?_⟩
  obtain ⟨f', hf, hfail⟩ := firstFailure_of_parse h
  cases hf
  exact hfail

/-! ### Whole texts -/

/-- What checking a piece of a mix text reports: nothing for an entry, and for any other piece
the piece trimmed with the first check it fails. -/
inductive PieceCheck : List Char → Option EntryError → Prop
  | entry {p : List Char} {e : MixEntry} : EntryText p e → PieceCheck p none
  | malformed {p : List Char} {f : EntryFault} : FirstFailure (Text.trimChars p) f →
      PieceCheck p (some ⟨String.ofList (Text.trimChars p), f⟩)

/-- The error reading a piece reports, if any. -/
def pieceError (p : List Char) : Option EntryError :=
  match MixEntry.parse (Text.trimChars p) with
  | .ok _ => none
  | .error e => some e

theorem pieceError_of_ok {p : List Char} {e : MixEntry} (h : MixEntry.parse (Text.trimChars p) = .ok e) :
    pieceError p = none := by
  simp [pieceError, h]

theorem pieceError_of_error {p : List Char} {err : EntryError}
    (h : MixEntry.parse (Text.trimChars p) = .error err) : pieceError p = some err := by
  simp [pieceError, h]

theorem pieceCheck_iff (p : List Char) (o : Option EntryError) : PieceCheck p o ↔ o = pieceError p := by
  constructor
  · rintro (⟨h⟩ | ⟨h⟩)
    · exact (pieceError_of_ok ((entryText_iff _ _).mp h)).symm
    · exact (pieceError_of_error (parse_of_firstFailure h)).symm
  · rintro rfl
    cases hp : MixEntry.parse (Text.trimChars p) with
    | ok e =>
      rw [pieceError_of_ok hp]
      exact .entry ((entryText_iff _ _).mpr hp)
    | error err =>
      obtain ⟨f, rfl, hf⟩ := firstFailure_of_parse hp
      rw [pieceError_of_error hp]
      exact .malformed hf

theorem forall₂_pieceCheck_iff :
    ∀ (raws : List (List Char)) (os : List (Option EntryError)),
      List.Forall₂ PieceCheck raws os ↔ os = raws.map pieceError
  | [], os => by cases os <;> simp
  | raw :: raws, [] => by simp
  | raw :: raws, o :: os => by
    rw [List.forall₂_cons, pieceCheck_iff, forall₂_pieceCheck_iff raws os, List.map_cons,
      List.cons.injEq]

theorem pieceErrors_eq_nil_of_gather {raws : List (List Char)} {m : Mix} (h : gather raws = .ok m) :
    (raws.map pieceError).reduceOption = [] := by
  rw [gather_eq_ok_iff] at h
  induction h with
  | nil => rfl
  | cons hp _ ih => rw [List.map_cons, pieceError_of_ok hp, List.reduceOption_cons_of_none, ih]

/-- **Reading reports every malformed piece, in order.** Reading the pieces fails exactly when
some piece reports an error, and then with the errors of the pieces in order. -/
theorem gather_eq_error_iff (raws : List (List Char)) (es : List EntryError) :
    gather raws = .error es ↔ es = (raws.map pieceError).reduceOption ∧ es ≠ [] := by
  induction raws generalizing es with
  | nil => simp [gather]
  | cons raw rest ih =>
    -- when the pieces report some errors, reading fails with exactly those
    have hfail : ∀ x : List EntryError, x ≠ [] →
        ((.error x : Except (List EntryError) Mix) = .error es ↔ es = x ∧ es ≠ []) := by
      intro x hx
      rw [Except.error.injEq]
      exact ⟨fun h => ⟨h.symm, h ▸ hx⟩, fun h => h.1.symm⟩
    unfold gather
    -- one case for each outcome of the first piece and of the rest
    cases hp : MixEntry.parse (Text.trimChars raw) with
    | ok e =>
      rw [List.map_cons, pieceError_of_ok hp, List.reduceOption_cons_of_none]
      cases hg : gather rest with
      | ok m => simp [pieceErrors_eq_nil_of_gather hg]
      | error es' =>
        obtain ⟨rfl, hne⟩ := (ih es').mp hg
        exact hfail _ hne
    | error err =>
      rw [List.map_cons, pieceError_of_error hp, List.reduceOption_cons_of_some]
      cases hg : gather rest with
      | ok m =>
        rw [pieceErrors_eq_nil_of_gather hg]
        exact hfail _ (List.cons_ne_nil _ _)
      | error es' =>
        obtain ⟨rfl, -⟩ := (ih es').mp hg
        exact hfail _ (List.cons_ne_nil _ _)

/-- **The grammar of mix texts.** A blank text reads as the empty mix. Any other reads as a mix
exactly when each piece between its commas is an entry, and the mix is the pieces' entries in
order; it fails exactly when some piece is no entry, and then with one error for each such
piece, in order, naming the piece trimmed and the first check it fails. -/
theorem parse_grammar (s : String) :
    (Blanks s.toList → parse s = .ok []) ∧
    (¬ Blanks s.toList →
      (∀ m, parse s = .ok m ↔ List.Forall₂ EntryText (s.toList.splitOn ',') m) ∧
      (∀ es, parse s = .error es ↔
        ∃ os, List.Forall₂ PieceCheck (s.toList.splitOn ',') os ∧ es = os.reduceOption ∧ es ≠ [])) := by
  refine ⟨fun h => parse_blank s ((trimChars_eq_nil_iff _).mpr h), fun h => ⟨fun m => ?_, fun es => ?_⟩⟩
  all_goals rw [parse, if_neg (mt (trimChars_eq_nil_iff _).mp h)]
  · rw [gather_eq_ok_iff]
    exact ⟨fun h => h.imp fun p e => (entryText_iff p e).mpr,
      fun h => h.imp fun p e => (entryText_iff p e).mp⟩
  · rw [gather_eq_error_iff]
    simp only [forall₂_pieceCheck_iff, exists_eq_left]

end Mix
end KernelSynth
