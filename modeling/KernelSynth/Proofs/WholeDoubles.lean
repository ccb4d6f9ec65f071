/-
# Whole numbers as doubles

A whole number below `2^53` in magnitude is a double exactly, and while sums
and differences stay below that bound, doubles of whole numbers add,
subtract and compare as the numbers do. Reports count hits as doubles, so
this is what makes their sums, least and greatest values whole counts.

The facts are proved of the logical model of `Float`: a double unpacks to a
sign, a mantissa and an exponent, an operation works on unpacked values and
rounds, and the result is packed again. The double of `n ≠ 0` unpacks to the
magnitude `|n|` shifted to a 53-bit mantissa, with the exponent that undoes
the shift (`unpacked`). Every operation below brings its exact result, a
whole number times a power of two, to that form without dropping a bit that
is set, so rounding changes nothing (`round_whole`).

Key definitions: `WholeDouble.unpacked`, `WholeDouble.Exact`.
Key theorems: `WholeDouble.round_whole`, `WholeDouble.unpack_pack`,
`WholeDouble.ofInt_eq`, `WholeDouble.ofInt_add`, `WholeDouble.ofInt_sub`,
`WholeDouble.ofInt_lt_ofInt`.
-/
import Mathlib

namespace KernelSynth
namespace WholeDouble

open Float.Model Float.Model.UnpackedFloat

/-! ### Rounding a whole number -/

/-- Shifting out `j` bits that are all zero leaves no round or sticky bit. -/
theorem shiftRight_exact : ∀ (M j : Nat),
    (⟨M * 2 ^ j, false, false⟩ : ExtendedMantissa) >>> j = ⟨M, false, false⟩
  | M, 0 => by simp [HShiftRight.hShiftRight, Nat.repeat]
  | M, j + 1 => by
    have ih := shiftRight_exact (M * 2) j
    change ExtendedMantissa.shiftRightOne ((⟨M * 2 ^ (j + 1), false, false⟩ : ExtendedMantissa) >>> j) = _
    rw [Nat.pow_succ, Nat.mul_comm (2 ^ j), ← Nat.mul_assoc, ih]
    simp [ExtendedMantissa.shiftRightOne]

theorem log2_mul_two_pow {N : Nat} (hN : N ≠ 0) (k : Nat) : (N * 2 ^ k).log2 = N.log2 + k := by
  rw [Nat.log2_eq_iff (Nat.mul_ne_zero hN (by positivity))]
  have h1 := Nat.log2_self_le hN
  have h2 := Nat.lt_log2_self (n := N)
  constructor
  · rw [Nat.pow_add]
    exact Nat.mul_le_mul_right _ h1
  · rw [show N.log2 + k + 1 = N.log2 + 1 + k by omega, Nat.pow_add]
    exact Nat.mul_lt_mul_of_pos_right h2 (by positivity)

theorem log2_le_of_lt {N : Nat} (hN : N ≠ 0) (h : N < 2 ^ 53) : N.log2 ≤ 52 := by
  have := (Nat.log2_lt hN).mpr h
  omega

/-- The mantissa of the double of a magnitude below `2^53`: the magnitude shifted to 53 bits. -/
def mantissa (N : Nat) : Nat := N * 2 ^ (52 - N.log2)

/-- The exponent of the double of a magnitude below `2^53`, undoing the shift. -/
def exponent (N : Nat) : Int := (N.log2 : Int) - 52

theorem mantissa_pos {N : Nat} (hN : N ≠ 0) : 0 < mantissa N :=
  Nat.mul_pos (Nat.pos_of_ne_zero hN) (by positivity)

theorem log2_mantissa {N : Nat} (hN : N ≠ 0) (h : N < 2 ^ 53) : (mantissa N).log2 = 52 := by
  have := log2_le_of_lt hN h
  rw [mantissa, log2_mul_two_pow hN]
  omega

theorem mantissa_mul_two_pow (N k : Nat) (hk : 52 - N.log2 ≤ k) :
    N * 2 ^ k = mantissa N * 2 ^ (k - (52 - N.log2)) := by
  rw [mantissa, Nat.mul_assoc, ← Nat.pow_add, Nat.add_sub_cancel' hk]

/-- Rounding the mantissa of a magnitude below `2^53` followed by `j` zero bits drops the zeros
and nothing else. -/
theorem roundWithAccuracy_whole (s : Sign) {N : Nat} (hN : N ≠ 0) (h : N < 2 ^ 53) (j : Nat) :
    roundWithAccuracy .binary64 s (mantissa N * 2 ^ j) (exponent N - j) .exact =
      .finite s (mantissa N) (exponent N) (mantissa_pos hN) := by
  have hl := log2_mantissa hN h
  -- whatever zeros follow, the number has 53 significant bits and is aimed at `exponent N`
  have ht : ∀ i : Nat,
      Format.binary64.targetExponent (totalExponent (mantissa N * 2 ^ i) (exponent N - i)) = exponent N := by
    intro i
    simp only [Format.targetExponent, totalExponent, log2_mul_two_pow (mantissa_pos hN).ne', hl,
      Format.mantissaBits, Format.minExponent, exponent]
    have := log2_le_of_lt hN h
    omega
  have hfirst : shiftToTargetExponent .binary64 (mantissa N * 2 ^ j) (exponent N - j) .exact =
      (⟨mantissa N, false, false⟩, exponent N) := by
    rw [shiftToTargetExponent, ht, shiftToExponent]
    simp only [ExtendedMantissa.ofMantissaAndAccuracy, show (exponent N - (exponent N - j)).toNat = j by omega,
      shiftRight_exact]
    simp
  have hsecond : shiftToTargetExponent .binary64 (mantissa N) (exponent N) .exact =
      (⟨mantissa N, false, false⟩, exponent N) := by
    have h0 := ht 0
    simp only [pow_zero, Nat.mul_one, Nat.cast_zero, sub_zero] at h0
    have hs := shiftRight_exact (mantissa N) 0
    simp only [pow_zero, Nat.mul_one] at hs
    rw [shiftToTargetExponent, h0, shiftToExponent]
    simp [ExtendedMantissa.ofMantissaAndAccuracy, hs]
  rw [roundWithAccuracy, hfirst]
  simp only [ExtendedMantissa.roundedMantissa, ExtendedMantissa.accuracy, Accuracy.roundToNearestEven, hsecond]
  rw [dif_neg (mantissa_pos hN).ne']

/-- **Rounding a whole number is exact.** A magnitude below `2^53` written with `k` extra zero
bits, `N · 2^k · 2^-k`, rounds to its 53-bit mantissa and exponent. -/
theorem round_whole (s : Sign) {N : Nat} (hN : N ≠ 0) (h : N < 2 ^ 53) (k : Nat) :
    round .binary64 s (N * 2 ^ k) (-k) = .finite s (mantissa N) (exponent N) (mantissa_pos hN) := by
  have hl := log2_le_of_lt hN h
  have ht : Format.binary64.targetExponent (totalExponent (N * 2 ^ k) (-k)) = exponent N := by
    simp only [Format.targetExponent, totalExponent, log2_mul_two_pow hN, Format.mantissaBits,
      Format.minExponent, exponent]
    omega
  rw [UnpackedFloat.round, ht, decreaseExponent]
  by_cases hk : k ≤ 52 - N.log2
  · -- fewer than 53 bits: zeros are added below
    have hs : (-(k : Int) - exponent N).toNat = 52 - N.log2 - k := by
      simp only [exponent]
      omega
    have hm : (N * 2 ^ k) <<< (52 - N.log2 - k) = mantissa N * 2 ^ 0 := by
      rw [Nat.shiftLeft_eq, Nat.mul_assoc, ← Nat.pow_add, Nat.add_sub_cancel' hk, Nat.pow_zero,
        Nat.mul_one, mantissa]
    have he : -(k : Int) - ((52 - N.log2 - k : Nat) : Int) = exponent N - (0 : Nat) := by
      simp only [exponent]
      omega
    simp only [hs, hm, he]
    exact roundWithAccuracy_whole s hN h 0
  · -- more than 53 bits: the ones beyond are zeros, shifted out
    have hs : (-(k : Int) - exponent N).toNat = 0 := by
      simp only [exponent]
      omega
    have he : -(k : Int) - ((0 : Nat) : Int) = exponent N - ((k - (52 - N.log2) : Nat) : Int) := by
      simp only [exponent]
      omega
    simp only [hs, Nat.shiftLeft_zero, he, mantissa_mul_two_pow N k (by omega)]
    exact roundWithAccuracy_whole s hN h _

/-! ### The double of a whole number -/

/-- A whole number that a double holds exactly: below `2^53` in magnitude. -/
def Exact (n : Int) : Prop := n.natAbs < 2 ^ 53

instance : DecidablePred Exact := fun n => inferInstanceAs (Decidable (n.natAbs < 2 ^ 53))

/-- The sign of a whole number's double; zero is positive. -/
def signOf (n : Int) : Sign := if n < 0 then .negative else .positive

/-- The unpacked double of a whole number below `2^53` in magnitude: the positive zero, or its
magnitude as a 53-bit mantissa. -/
def unpacked (n : Int) : UnpackedFloat :=
  if h : n = 0 then .zero .positive
  else .finite (signOf n) (mantissa n.natAbs) (exponent n.natAbs) (mantissa_pos (Int.natAbs_ne_zero.mpr h))

theorem unpacked_zero : unpacked 0 = .zero .positive := rfl

theorem unpacked_one : unpacked 1 = .finite .positive (2 ^ 52) (-52) (by decide) := rfl

theorem log2_natAbs_le {n : Int} (hn : Exact n) : n.natAbs.log2 ≤ 52 := by
  by_cases h0 : n.natAbs = 0
  · simp [h0]
  · exact log2_le_of_lt h0 hn

theorem exact_natCast {N : Nat} (h : N < 2 ^ 53) : Exact (N : Int) := by
  simpa [Exact] using h

theorem exact_of_le {x : Int} {N : Nat} (h₀ : 0 ≤ x) (h₁ : x ≤ N) (hN : N < 2 ^ 53) : Exact x := by
  unfold Exact
  omega

theorem signOf_apply_mul (n c : Int) : (signOf n).apply ((n.natAbs : Int) * c) = n * c := by
  unfold signOf
  split
  · rw [Sign.apply, Int.ofNat_natAbs_of_nonpos (by omega), Int.neg_mul, Int.neg_neg]
  · rw [Sign.apply, Int.natAbs_of_nonneg (by omega)]

theorem signOf_neg {n : Int} (hn : n ≠ 0) : signOf (-n) = -signOf n := by
  unfold signOf
  by_cases h : n < 0
  · rw [if_neg (by omega), if_pos h]
    rfl
  · rw [if_pos (by omega), if_neg h]
    rfl

/-- Normalizing a whole number below `2^53` written with `k` extra zero bits gives its double. -/
theorem normalize_whole {n : Int} (hn : Exact n) (k : Nat) :
    normalize .binary64 (n * 2 ^ k) (-k) .positive = unpacked n := by
  have hmag : (n * 2 ^ k).natAbs = n.natAbs * 2 ^ k := by simp [Int.natAbs_mul]
  unfold UnpackedFloat.normalize unpacked
  rcases lt_trichotomy n 0 with hlt | rfl | hgt
  · have hneg : n * 2 ^ k < 0 := Int.mul_neg_of_neg_of_pos hlt (by positivity)
    have hm : (-(n * 2 ^ k)).toNat = n.natAbs * 2 ^ k := by
      rw [← hmag]
      omega
    rw [compare_lt_iff_lt.mpr hneg, dif_neg hlt.ne]
    simp only [hm, signOf, if_pos hlt]
    exact round_whole _ (by omega) hn k
  · simp
  · have hpos : 0 < n * 2 ^ k := Int.mul_pos hgt (by positivity)
    have hm : (n * 2 ^ k).toNat = n.natAbs * 2 ^ k := by
      rw [← hmag]
      omega
    rw [compare_gt_iff_gt.mpr hpos, dif_neg hgt.ne']
    simp only [hm, signOf, if_neg (Int.not_lt.mpr hgt.le)]
    exact round_whole _ (by omega) hn k

/-- Converting a whole number below `2^53` gives its double. -/
theorem ofInt_unpacked {n : Int} (hn : Exact n) : UnpackedFloat.ofInt .binary64 n = unpacked n := by
  have h := normalize_whole hn 0
  rw [pow_zero, Int.mul_one, Nat.cast_zero, Int.neg_zero] at h
  exact h

/-- Negating the double of a whole number other than zero gives the double of its negation
(zero's negation is the negative zero). -/
theorem neg_unpacked {n : Int} (hn : n ≠ 0) : (unpacked n).neg = unpacked (-n) := by
  rw [unpacked, dif_neg hn, unpacked, dif_neg (Int.neg_ne_zero.mpr hn), signOf_neg hn]
  simp only [Int.natAbs_neg]
  rfl

/-! ### Addition and subtraction

Both align their operands at the smaller of the two exponents, `-k`, where each mantissa is the
number times `2^k`; the signed mantissas are added or subtracted and the result normalized. -/

/-- Aligning a whole number's double at an exponent `-k` no greater than its own gives the number
times `2^k`. -/
theorem apply_decreaseExponent {n : Int} (hn : Exact n) {k : Nat} (hk : 52 - n.natAbs.log2 ≤ k) :
    (signOf n).apply ((decreaseExponent (mantissa n.natAbs) (exponent n.natAbs) (-k)).1 : Int) =
      n * 2 ^ k := by
  have hl := log2_natAbs_le hn
  have hs : (exponent n.natAbs - -(k : Int)).toNat = k - (52 - n.natAbs.log2) := by
    simp only [exponent]
    omega
  simp only [decreaseExponent, hs, Nat.shiftLeft_eq]
  rw [← mantissa_mul_two_pow _ _ hk, Nat.cast_mul, Nat.cast_pow, Nat.cast_ofNat, signOf_apply_mul]

/-- Two whole doubles meet at the exponent `-k` of the smaller magnitude, where their mantissas
are the numbers times `2^k`. -/
theorem aligned {a b : Int} (ha : Exact a) (hb : Exact b) :
    ∃ k : Nat, min (exponent a.natAbs) (exponent b.natAbs) = -(k : Int) ∧
      (signOf a).apply ((decreaseExponent (mantissa a.natAbs) (exponent a.natAbs) (-k)).1 : Int) = a * 2 ^ k ∧
      (signOf b).apply ((decreaseExponent (mantissa b.natAbs) (exponent b.natAbs) (-k)).1 : Int) = b * 2 ^ k := by
  have hla := log2_natAbs_le ha
  have hlb := log2_natAbs_le hb
  refine ⟨52 - min a.natAbs.log2 b.natAbs.log2, ?_, apply_decreaseExponent ha (by omega),
    apply_decreaseExponent hb (by omega)⟩
  simp only [exponent]
  omega

/-- **Whole doubles add exactly** while the sum stays below `2^53`. -/
theorem add_unpacked {a b : Int} (ha : Exact a) (hb : Exact b) (hab : Exact (a + b)) :
    UnpackedFloat.add .binary64 (unpacked a) (unpacked b) = unpacked (a + b) := by
  by_cases ha0 : a = 0
  · subst ha0
    by_cases hb0 : b = 0
    · subst hb0
      rfl
    · rw [Int.zero_add, unpacked_zero, unpacked, dif_neg hb0]
      rfl
  by_cases hb0 : b = 0
  · subst hb0
    rw [Int.add_zero, unpacked_zero, unpacked, dif_neg ha0]
    rfl
  obtain ⟨k, hk, ha', hb'⟩ := aligned ha hb
  rw [unpacked, dif_neg ha0, unpacked, dif_neg hb0]
  show normalize .binary64
    ((signOf a).apply (decreaseExponent (mantissa a.natAbs) (exponent a.natAbs)
        (min (exponent a.natAbs) (exponent b.natAbs))).1 +
      (signOf b).apply (decreaseExponent (mantissa b.natAbs) (exponent b.natAbs)
        (min (exponent a.natAbs) (exponent b.natAbs))).1)
    (min (exponent a.natAbs) (exponent b.natAbs)) .positive = _
  rw [hk, ha', hb', ← Int.add_mul]
  exact normalize_whole hab k

/-- **Whole doubles subtract exactly** while the difference stays below `2^53`. -/
theorem sub_unpacked {a b : Int} (ha : Exact a) (hb : Exact b) (hab : Exact (a - b)) :
    UnpackedFloat.sub .binary64 (unpacked a) (unpacked b) = unpacked (a - b) := by
  by_cases ha0 : a = 0
  · subst ha0
    by_cases hb0 : b = 0
    · subst hb0
      rfl
    · rw [Int.zero_sub, ← neg_unpacked hb0, unpacked_zero, unpacked, dif_neg hb0]
      rfl
  by_cases hb0 : b = 0
  · subst hb0
    rw [Int.sub_zero, unpacked_zero, unpacked, dif_neg ha0]
    rfl
  obtain ⟨k, hk, ha', hb'⟩ := aligned ha hb
  rw [unpacked, dif_neg ha0, unpacked, dif_neg hb0]
  show normalize .binary64
    ((signOf a).apply (decreaseExponent (mantissa a.natAbs) (exponent a.natAbs)
        (min (exponent a.natAbs) (exponent b.natAbs))).1 -
      (signOf b).apply (decreaseExponent (mantissa b.natAbs) (exponent b.natAbs)
        (min (exponent a.natAbs) (exponent b.natAbs))).1)
    (min (exponent a.natAbs) (exponent b.natAbs)) .positive = _
  rw [hk, ha', hb', ← Int.sub_mul]
  exact normalize_whole hab k

/-- Multiplying a whole double by one changes nothing. -/
theorem mul_unpacked_one {n : Int} (hn : Exact n) :
    UnpackedFloat.mul .binary64 (unpacked n) (unpacked 1) = unpacked n := by
  by_cases h0 : n = 0
  · subst h0
    rfl
  have hN : n.natAbs ≠ 0 := Int.natAbs_ne_zero.mpr h0
  have hs : signOf n * .positive = signOf n := by cases signOf n <;> rfl
  rw [unpacked_one, unpacked, dif_neg h0]
  show roundWithAccuracy .binary64 (signOf n * .positive) (mantissa n.natAbs * 2 ^ 52)
    (exponent n.natAbs + -52) .exact = _
  rw [hs, show exponent n.natAbs + -52 = exponent n.natAbs - (52 : Nat) by omega]
  exact roundWithAccuracy_whole _ hN hn 52

/-! ### Comparison -/

/-- A smaller magnitude has a smaller exponent, or the same exponent and a smaller mantissa. -/
theorem then_compare_of_lt {N₁ N₂ : Nat} (h₁ : N₁ ≠ 0) (hlt : N₁ < N₂) :
    (compare (exponent N₁) (exponent N₂)).then (compare (mantissa N₁) (mantissa N₂)) = .lt := by
  have h₂ : N₂ ≠ 0 := by omega
  have hle : N₁.log2 ≤ N₂.log2 :=
    (Nat.le_log2 h₂).mpr (Nat.le_trans (Nat.log2_self_le h₁) hlt.le)
  rcases Nat.lt_or_eq_of_le hle with hl | hl
  · rw [Int.compare_eq_lt.mpr (by simp only [exponent]; omega)]
    rfl
  · have hm : mantissa N₁ < mantissa N₂ := by
      rw [mantissa, mantissa, hl]
      exact Nat.mul_lt_mul_of_pos_right hlt (by positivity)
    rw [Int.compare_eq_eq.mpr (by simp only [exponent, hl]), Nat.compare_eq_lt.mpr hm]
    rfl

/-- Magnitudes compare, exponent first and mantissa next, as they do as numbers. -/
theorem then_compare {N₁ N₂ : Nat} (h₁ : N₁ ≠ 0) (h₂ : N₂ ≠ 0) :
    (compare (exponent N₁) (exponent N₂)).then (compare (mantissa N₁) (mantissa N₂)) = compare N₁ N₂ := by
  rcases lt_trichotomy N₁ N₂ with hlt | rfl | hgt
  · rw [then_compare_of_lt h₁ hlt, Nat.compare_eq_lt.mpr hlt]
  · rw [Int.compare_eq_eq.mpr rfl, Nat.compare_eq_eq.mpr rfl, Nat.compare_eq_eq.mpr rfl]
    rfl
  · have h := congrArg Ordering.swap (then_compare_of_lt h₂ hgt)
    rw [Ordering.swap_then, Int.compare_swap, Nat.compare_swap] at h
    rw [h, Nat.compare_eq_gt.mpr hgt]
    rfl

theorem compare_of_iff {x y : Nat} {a b : Int} (h₁ : x < y ↔ a < b) (h₂ : y < x ↔ b < a) :
    compare x y = compare a b := by
  rw [Nat.compare_eq_ite_lt, Int.compare_eq_ite_lt]
  simp only [h₁, h₂]

/-- **Whole doubles compare as the numbers do**, whatever their size. -/
theorem compare_unpacked (a b : Int) : (unpacked a).compare (unpacked b) = some (compare a b) := by
  rcases lt_trichotomy a 0 with ha | rfl | ha <;> rcases lt_trichotomy b 0 with hb | rfl | hb
  · -- two negatives compare as their magnitudes the other way round
    rw [unpacked, dif_neg ha.ne, unpacked, dif_neg hb.ne]
    simp only [signOf, if_pos ha, if_pos hb, UnpackedFloat.compare,
      then_compare (Int.natAbs_ne_zero.mpr ha.ne) (Int.natAbs_ne_zero.mpr hb.ne), Nat.compare_swap,
      compare_of_iff (by omega : b.natAbs < a.natAbs ↔ a < b) (by omega)]
  · rw [unpacked, dif_neg ha.ne, unpacked_zero, Int.compare_eq_lt.mpr ha]
    simp only [signOf, if_pos ha, UnpackedFloat.compare]
  · rw [unpacked, dif_neg ha.ne, unpacked, dif_neg hb.ne', Int.compare_eq_lt.mpr (by omega)]
    simp only [signOf, if_pos ha, if_neg (Int.not_lt.mpr hb.le), UnpackedFloat.compare]
  · rw [unpacked_zero, unpacked, dif_neg hb.ne, Int.compare_eq_gt.mpr hb]
    simp only [signOf, if_pos hb, UnpackedFloat.compare]
  · rfl
  · rw [unpacked_zero, unpacked, dif_neg hb.ne', Int.compare_eq_lt.mpr hb]
    simp only [signOf, if_neg (Int.not_lt.mpr hb.le), UnpackedFloat.compare]
  · rw [unpacked, dif_neg ha.ne', unpacked, dif_neg hb.ne, Int.compare_eq_gt.mpr (by omega)]
    simp only [signOf, if_pos hb, if_neg (Int.not_lt.mpr ha.le), UnpackedFloat.compare]
  · rw [unpacked, dif_neg ha.ne', unpacked_zero, Int.compare_eq_gt.mpr ha]
    simp only [signOf, if_neg (Int.not_lt.mpr ha.le), UnpackedFloat.compare]
  · -- two positives compare as their magnitudes
    rw [unpacked, dif_neg ha.ne', unpacked, dif_neg hb.ne']
    simp only [signOf, if_neg (Int.not_lt.mpr ha.le), if_neg (Int.not_lt.mpr hb.le), UnpackedFloat.compare,
      then_compare (Int.natAbs_ne_zero.mpr ha.ne') (Int.natAbs_ne_zero.mpr hb.ne'),
      compare_of_iff (by omega : a.natAbs < b.natAbs ↔ a < b) (by omega)]

/-! ### Packing

A whole double below `2^53` is a normal double: its 53-bit mantissa is stored without the
leading one, its exponent with the bias. -/

/-- The sign bit of a packed double is the sign it was packed with. -/
theorem ofBitVec_unpackSign_packComponents (s : Sign) (e : BitVec 11) (m : BitVec 52) :
    Sign.ofBitVec (unpackSign (packComponents .binary64 s e m)) = s := by
  simp only [unpackSign, packComponents, BitVec.extractLsb]
  rw [BitVec.extractLsb'_append_eq_of_le (by omega), BitVec.extractLsb'_append_eq_of_le (by omega)]
  cases s <;> rfl

theorem toNat_one_append {w : Nat} (v : BitVec w) : (1#1 ++ v).toNat = 2 ^ w + v.toNat := by
  rw [BitVec.toNat_append, ← Nat.shiftLeft_add_eq_or_of_lt v.isLt]
  simp [Nat.shiftLeft_eq]

/-- **A whole double is packed and unpacked unchanged.** -/
theorem unpack_pack {n : Int} (hn : Exact n) : (Float.Model.pack (unpacked n)).unpack = unpacked n := by
  by_cases h0 : n = 0
  · subst h0
    rfl
  have hN : n.natAbs ≠ 0 := Int.natAbs_ne_zero.mpr h0
  have hl := log2_natAbs_le hn
  have hlog := log2_mantissa hN hn
  have hlo : 2 ^ 52 ≤ mantissa n.natAbs := by
    have := Nat.log2_self_le (mantissa_pos hN).ne'
    rwa [hlog] at this
  have hhi : mantissa n.natAbs < 2 ^ 53 := by
    have := Nat.lt_log2_self (n := mantissa n.natAbs)
    rwa [hlog] at this
  -- the biased exponent `log2 |n| + 1023` is neither all zeros nor all ones
  have hbias : (exponent n.natAbs + Format.binary64.exponentBias +
      Format.binary64.mantissaBitsWithoutImplicit).toNat = n.natAbs.log2 + 1023 := by
    show (exponent n.natAbs + (2 ^ (11 - 1) - 1 : Nat) + (52 : Nat)).toNat = _
    simp only [exponent]
    omega
  have hexp : (BitVec.ofNat 11 (n.natAbs.log2 + 1023)).toNat = n.natAbs.log2 + 1023 := by
    rw [BitVec.toNat_ofNat]
    omega
  have hne1 : BitVec.ofNat 11 (n.natAbs.log2 + 1023) ≠ -1#11 := by
    intro h
    have := congrArg BitVec.toNat h
    rw [hexp] at this
    simp at this
    omega
  have hne0 : BitVec.ofNat 11 (n.natAbs.log2 + 1023) ≠ 0#11 := by
    intro h
    have := congrArg BitVec.toNat h
    rw [hexp] at this
    simp at this
  have hmant : (1#1 ++ BitVec.ofNat 52 (mantissa n.natAbs)).toNat = mantissa n.natAbs := by
    rw [toNat_one_append, BitVec.toNat_ofNat]
    omega
  have he : ((n.natAbs.log2 + 1023 : Nat) : Int) - (Format.binary64.exponentBias + (52 : Nat)) =
      exponent n.natAbs := by
    show _ - (((2 ^ (11 - 1) - 1 : Nat) : Int) + (52 : Nat)) = _
    simp only [exponent]
    omega
  rw [unpacked, dif_neg h0, Float.Model.unpack, Float.Model.pack, UInt64.toBitVec_ofBitVec, UnpackedFloat.pack]
  simp only [hlog, hbias]
  rw [if_neg (by omega), if_pos (show 52 + 1 = Format.binary64.mantissaBits from rfl), UnpackedFloat.unpack]
  simp only [unpackMantissa_packComponents, unpackExponent_packComponents, ofBitVec_unpackSign_packComponents]
  rw [if_neg hne1, if_neg hne0]
  simp only [hmant, hexp, he]

/-! ### Doubles of whole numbers

`Float.ofNat` below `2^53` converts the number and multiplies it by the tabled power `10^0`;
`Float.ofInt` negates the conversion of a negative number's magnitude. -/

/-- The tabled power `10^0` is the double of one. -/
theorem toModel_powerOfTen_zero :
    (Float.exactlyRepresentablePowersOfTen[0]).toModel = Float.Model.pack (unpacked 1) := by
  decide +kernel

/-- The double of a natural number below `2^53` packs its whole double. -/
theorem ofNat_eq {N : Nat} (h : N < 2 ^ 53) : Float.ofNat N = Float.ofModel (Float.Model.pack (unpacked N)) := by
  have hu : N.toUInt64.toNat = N := UInt64.toNat_ofNat_of_lt' (by rw [UInt64.size]; omega)
  have hm : (N.toUInt64.toFloat).toModel = Float.Model.pack (unpacked N) := by
    show Float.Model.pack (UnpackedFloat.ofInt .binary64 (N.toUInt64.toNat : Int)) = _
    rw [hu, ofInt_unpacked (exact_natCast h)]
  show Float.ofScientific N false 0 = _
  rw [Float.ofScientific, dif_pos ⟨h, by decide⟩]
  simp only [Bool.false_eq_true, if_false]
  show Float.ofModel ((N.toUInt64.toFloat).toModel * (Float.exactlyRepresentablePowersOfTen[0]).toModel) = _
  rw [toModel_powerOfTen_zero, hm]
  show Float.ofModel (Float.Model.pack (UnpackedFloat.mul .binary64 (Float.Model.pack (unpacked N)).unpack
    (Float.Model.pack (unpacked 1)).unpack)) = _
  rw [unpack_pack (exact_natCast h), unpack_pack (by decide), mul_unpacked_one (exact_natCast h)]

/-- **The double of a whole number below `2^53` is exact**: it packs the number's whole double. -/
theorem ofInt_eq {n : Int} (hn : Exact n) : Float.ofInt n = Float.ofModel (Float.Model.pack (unpacked n)) := by
  cases n with
  | ofNat N =>
    exact ofNat_eq (by simpa [Exact] using hn)
  | negSucc N =>
    have hN : N + 1 < 2 ^ 53 := by simpa [Exact] using hn
    show Float.ofModel (-(Float.ofNat (N + 1)).toModel) = _
    rw [ofNat_eq hN]
    show Float.ofModel (Float.Model.pack (Float.Model.pack (unpacked ((N + 1 : Nat) : Int))).unpack.neg) = _
    rw [unpack_pack (exact_natCast hN), neg_unpacked (by omega)]
    rfl

theorem zero_eq_ofInt : (0 : Float) = Float.ofInt 0 := rfl

/-- **Whole doubles add exactly** while the sum stays below `2^53`. -/
theorem ofInt_add {a b : Int} (ha : Exact a) (hb : Exact b) (hab : Exact (a + b)) :
    Float.ofInt a + Float.ofInt b = Float.ofInt (a + b) := by
  rw [ofInt_eq ha, ofInt_eq hb, ofInt_eq hab]
  show Float.ofModel (Float.Model.pack (UnpackedFloat.add .binary64 (Float.Model.pack (unpacked a)).unpack
    (Float.Model.pack (unpacked b)).unpack)) = _
  rw [unpack_pack ha, unpack_pack hb, add_unpacked ha hb hab]

/-- **Whole doubles subtract exactly** while the difference stays below `2^53`. -/
theorem ofInt_sub {a b : Int} (ha : Exact a) (hb : Exact b) (hab : Exact (a - b)) :
    Float.ofInt a - Float.ofInt b = Float.ofInt (a - b) := by
  rw [ofInt_eq ha, ofInt_eq hb, ofInt_eq hab]
  show Float.ofModel (Float.Model.pack (UnpackedFloat.sub .binary64 (Float.Model.pack (unpacked a)).unpack
    (Float.Model.pack (unpacked b)).unpack)) = _
  rw [unpack_pack ha, unpack_pack hb, sub_unpacked ha hb hab]

/-- **Whole doubles compare as the numbers do.** -/
theorem ofInt_lt_ofInt {a b : Int} (ha : Exact a) (hb : Exact b) : Float.ofInt a < Float.ofInt b ↔ a < b := by
  rw [ofInt_eq ha, ofInt_eq hb]
  show decide ((Float.Model.pack (unpacked a)).unpack.lt (Float.Model.pack (unpacked b)).unpack = true) = true ↔ _
  rw [unpack_pack ha, unpack_pack hb]
  simp [UnpackedFloat.lt, compare_unpacked, Int.compare_eq_lt]

end WholeDouble
end KernelSynth
