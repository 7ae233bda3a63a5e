import Mathlib
import Stencil.Decimal.Binary

/-!
# Doubles of counts

The bits of the double that is nearest to a count, as a number. Below `2 ^ 53` every count is a
double of its own, and the bits of a greater count are a greater number.
-/

namespace Stencil.Decimal

open Float.Model (Format totalExponent)
open Float.Model.Format (binary64)
open Float.Model.UnpackedFloat

/-! ## Packing -/

theorem toNat_packComponents (exponent : BitVec 11) (mantissa : BitVec 52) :
    (packComponents binary64 .positive exponent mantissa).toNat =
      exponent.toNat * 2 ^ 52 + mantissa.toNat := by
  have sign : (0#1 ++ exponent).toNat = exponent.toNat := by
    rw [BitVec.toNat_append, BitVec.toNat_ofNat, Nat.zero_mod, Nat.zero_shiftLeft, Nat.zero_or]
  show ((0#1 ++ exponent) ++ mantissa).toNat = _
  rw [BitVec.toNat_append, ← Nat.shiftLeft_add_eq_or_of_lt mantissa.isLt, sign, Nat.shiftLeft_eq]

theorem toNat_packedInfinity : (packedInfinity binary64 .positive).toNat = 2047 * 2 ^ 52 := by
  refine (toNat_packComponents _ _).trans ?_
  simp

/-- A magnitude with all bits of its mantissa, as bits: the implicit bit counts as one more of the
exponent. Too great a magnitude is packed as infinity. -/
theorem toNat_pack {m : Nat} {e : Int} (positive : 0 < m) (full : m.log2 = 52) (normal : -1074 ≤ e) :
    (pack binary64 (.finite .positive m e positive)).toNat =
      min (2047 * 2 ^ 52) ((e + 1074).toNat * 2 ^ 52 + m) := by
  have bounds := (Nat.log2_eq_iff positive.ne').mp full
  have biased : (e + (binary64.exponentBias : Int) + (52 : Nat)).toNat = (e + 1074).toNat + 1 := by
    have bias : binary64.exponentBias = 1023 := rfl
    omega
  have mantissa : m % 2 ^ 52 = m - 2 ^ 52 := by omega
  have many : binary64.mantissaBits = 53 := rfl
  unfold pack
  dsimp only
  rw [biased, full, many]
  split
  · next overflows =>
      change 2 ^ 11 ≤ _ at overflows
      rw [toNat_packedInfinity]
      omega
  · next fits =>
      change ¬2 ^ 11 ≤ _ at fits
      rw [if_pos rfl]
      refine (toNat_packComponents _ _).trans ?_
      rw [BitVec.toNat_ofNat, BitVec.toNat_ofNat, mantissa]
      omega

theorem unpackSign_packComponents (exponent : BitVec 11) (mantissa : BitVec 52) :
    unpackSign (packComponents binary64 .positive exponent mantissa) = 0#1 := by
  have low := exponent.isLt
  have lower := mantissa.isLt
  have none : (exponent.toNat * 2 ^ 52 + mantissa.toNat) / 2 ^ 63 = 0 := by omega
  refine BitVec.eq_of_toNat_eq ?_
  rw [unpackSign, BitVec.toNat_cast, BitVec.extractLsb_toNat, toNat_packComponents,
    Nat.shiftRight_eq_div_pow]
  exact (congrArg (· % 2) none).trans rfl

/-- A magnitude with all bits of its mantissa is unpacked as it was packed. -/
theorem unpack_pack {m : Nat} {e : Int} (positive : 0 < m) (full : m.log2 = 52)
    (normal : -1074 ≤ e) (small : e ≤ 971) :
    unpack binary64 (pack binary64 (.finite .positive m e positive)) =
      .finite .positive m e positive := by
  have bounds := (Nat.log2_eq_iff positive.ne').mp full
  have bias : binary64.exponentBias = 1023 := rfl
  have biased : (e + (binary64.exponentBias : Int) + (52 : Nat)).toNat = (e + 1074).toNat + 1 := by
    omega
  have many : binary64.mantissaBits = 53 := rfl
  have fits : ¬2 ^ 11 ≤ (e + 1074).toNat + 1 + 1 := by omega
  have exponent : (BitVec.ofNat 11 ((e + 1074).toNat + 1)).toNat = (e + 1074).toNat + 1 := by
    rw [BitVec.toNat_ofNat]
    omega
  have mantissa : (1#1 ++ BitVec.ofNat 52 m).toNat = m := by
    rw [BitVec.toNat_append, ← Nat.shiftLeft_add_eq_or_of_lt (BitVec.isLt _), BitVec.toNat_ofNat]
    simp only [BitVec.toNat_ofNat, Nat.shiftLeft_eq]
    omega
  unfold pack
  dsimp only
  rw [biased, full, many, if_neg fits, if_pos rfl]
  unfold unpack
  have least : BitVec.ofNat 11 ((e + 1074).toNat + 1) ≠ 0#_ := by
    intro same
    have := congrArg BitVec.toNat same
    rw [exponent] at this
    simp at this
  have most : BitVec.ofNat 11 ((e + 1074).toNat + 1) ≠ -1#_ := by
    intro same
    have := congrArg BitVec.toNat same
    rw [exponent] at this
    change _ = 2047 at this
    omega
  simp only [unpackMantissa_packComponents, unpackExponent_packComponents,
    unpackSign_packComponents, least, most, if_false, exponent, mantissa]
  congr 1
  omega

/-! ## Rounding -/

theorem mantissa_shiftRight (em : ExtendedMantissa) (k : Nat) :
    (em >>> k).mantissa = em.mantissa / 2 ^ k := by
  induction k with
  | zero => exact (Nat.div_one _).symm
  | succ k ih =>
      show (em >>> k).mantissa / 2 = _
      rw [ih, Nat.div_div_eq_div_mul, Nat.pow_succ]

/-- Zeros at the end of a mantissa are shifted out without a trace. -/
theorem shiftRight_mul_two_pow (m k : Nat) :
    (⟨m * 2 ^ k, false, false⟩ : ExtendedMantissa) >>> k = ⟨m, false, false⟩ := by
  induction k generalizing m with
  | zero => rw [Nat.pow_zero, Nat.mul_one]; rfl
  | succ k ih =>
      have doubled : m * 2 ^ (k + 1) = m * 2 * 2 ^ k := by rw [Nat.pow_succ']; ring
      show ((⟨m * 2 ^ (k + 1), false, false⟩ : ExtendedMantissa) >>> k).shiftRightOne = _
      rw [doubled, ih]
      simp [ExtendedMantissa.shiftRightOne]

theorem roundedMantissa_bounds (em : ExtendedMantissa) :
    em.mantissa ≤ em.roundedMantissa ∧ em.roundedMantissa ≤ em.mantissa + 1 := by
  obtain ⟨m, round, sticky⟩ := em
  have parity := Nat.mod_lt m Nat.two_pos
  cases round <;> cases sticky <;>
    simp only [ExtendedMantissa.roundedMantissa, ExtendedMantissa.accuracy,
      Accuracy.roundToNearestEven] <;>
    omega

theorem targetExponent_eq {m : Nat} {e : Int} (normal : -1074 ≤ e + m.log2 - 52) :
    binary64.targetExponent (totalExponent m e) = e + m.log2 - 52 := by
  have many : binary64.mantissaBits = 53 := rfl
  have least : binary64.minExponent = -1074 := rfl
  rw [Format.targetExponent, totalExponent, many, least]
  omega

/-- The mantissa that is left of another one when it is rounded to fifty-three bits. -/
def roundedTo53 (m : Nat) : Nat :=
  ((⟨m, false, false⟩ : ExtendedMantissa) >>> (m.log2 - 52)).roundedMantissa

theorem roundedTo53_bounds {m : Nat} (long : 52 ≤ m.log2) :
    2 ^ 52 ≤ roundedTo53 m ∧ roundedTo53 m ≤ 2 ^ 53 := by
  have nonzero : m ≠ 0 := by
    rintro rfl
    rw [Nat.log2_zero] at long
    omega
  obtain ⟨low, high⟩ := (Nat.log2_eq_iff nonzero).mp rfl
  obtain ⟨least, most⟩ :=
    roundedMantissa_bounds ((⟨m, false, false⟩ : ExtendedMantissa) >>> (m.log2 - 52))
  rw [mantissa_shiftRight] at least most
  have split : m.log2 = 52 + (m.log2 - 52) := by omega
  have cut : 2 ^ 52 ≤ m / 2 ^ (m.log2 - 52) := by
    rw [Nat.le_div_iff_mul_le (Nat.two_pow_pos _), ← Nat.pow_add, ← split]
    exact low
  have cut' : m / 2 ^ (m.log2 - 52) < 2 ^ 53 := by
    rw [Nat.div_lt_iff_lt_mul (Nat.two_pow_pos _), ← Nat.pow_add]
    exact high.trans_le (Nat.pow_le_pow_right Nat.two_pos (by omega))
  exact ⟨cut.trans least, most.trans cut'⟩

theorem log2_mul_two_pow {m : Nat} (nonzero : m ≠ 0) (k : Nat) :
    (m * 2 ^ k).log2 = m.log2 + k := by
  obtain ⟨low, high⟩ := (Nat.log2_eq_iff nonzero).mp rfl
  have positive := Nat.two_pow_pos k
  refine (Nat.log2_eq_iff (Nat.mul_ne_zero nonzero positive.ne')).mpr ⟨?_, ?_⟩
  · rw [Nat.pow_add]
    exact Nat.mul_le_mul_right _ low
  · rw [Nat.add_right_comm, Nat.pow_add]
    exact Nat.mul_lt_mul_of_pos_right high positive

theorem roundedTo53_mul_two_pow {m : Nat} (full : m.log2 = 52) (k : Nat) :
    roundedTo53 (m * 2 ^ k) = m := by
  have nonzero : m ≠ 0 := by
    rintro rfl
    cases full
  rw [roundedTo53, log2_mul_two_pow nonzero, full, Nat.add_sub_cancel_left,
    shiftRight_mul_two_pow]
  rfl

theorem shiftToTargetExponent_eq {m : Nat} {e : Int} (long : 52 ≤ m.log2)
    (normal : -1074 ≤ e + m.log2 - 52) :
    shiftToTargetExponent binary64 m e .exact =
      ((⟨m, false, false⟩ : ExtendedMantissa) >>> (m.log2 - 52), e + m.log2 - 52) := by
  have amount : (e + m.log2 - 52 - e).toNat = m.log2 - 52 := by omega
  have exponent : e + ((m.log2 - 52 : Nat) : Int) = e + m.log2 - 52 := by omega
  rw [shiftToTargetExponent, targetExponent_eq normal, shiftToExponent, amount, exponent]
  rfl

/-- What a long mantissa is rounded to. If the rounding needs one more bit, the exponent takes it;
the sum does not tell the difference. -/
theorem exists_roundWithAccuracy {m : Nat} {e : Int} (long : 52 ≤ m.log2)
    (normal : -1074 ≤ e + m.log2 - 52) :
    ∃ m' e', ∃ positive : 0 < m',
      roundWithAccuracy binary64 .positive m e .exact = .finite .positive m' e' positive ∧
        m'.log2 = 52 ∧ -1074 ≤ e' ∧
        e' * 2 ^ 52 + m' = (e + m.log2 - 52) * 2 ^ 52 + roundedTo53 m := by
  obtain ⟨least, most⟩ := roundedTo53_bounds long
  have rounded : ((⟨m, false, false⟩ : ExtendedMantissa) >>> (m.log2 - 52)).roundedMantissa =
    roundedTo53 m := rfl
  generalize roundedTo53 m = r at least most rounded ⊢
  have nonzero : r ≠ 0 := by omega
  unfold roundWithAccuracy
  rw [shiftToTargetExponent_eq long normal]
  dsimp only
  rw [rounded]
  rcases most.lt_or_eq with fits | rfl
  · have full : r.log2 = 52 := (Nat.log2_eq_iff nonzero).mpr ⟨least, fits⟩
    rw [shiftToTargetExponent_eq full.ge (by rw [full]; omega), full]
    refine ⟨r, e + m.log2 - 52, Nat.pos_of_ne_zero nonzero, ?_, full, normal, rfl⟩
    have exponent : e + m.log2 - 52 + (52 : Nat) - 52 = e + m.log2 - 52 := by omega
    rw [exponent]
    exact dif_neg nonzero
  · have full : (2 ^ 53).log2 = 53 := Nat.log2_two_pow
    rw [shiftToTargetExponent_eq (by rw [full]; omega) (by rw [full]; omega), full]
    refine ⟨2 ^ 52, e + m.log2 - 51, Nat.two_pow_pos 52, ?_, Nat.log2_two_pow, by omega, ?_⟩
    · have halved : (⟨2 ^ 53, false, false⟩ : ExtendedMantissa) >>> (53 - 52) =
          ⟨2 ^ 52, false, false⟩ := shiftRight_mul_two_pow (2 ^ 52) 1
      have exponent : e + m.log2 - 52 + (53 : Nat) - 52 = e + m.log2 - 51 := by omega
      rw [halved, exponent]
      exact dif_neg (Nat.two_pow_pos 52).ne'
    · push_cast
      ring

/-- The bits of what a long mantissa is rounded to. -/
theorem toBits_roundWithAccuracy {m : Nat} {e : Int} (long : 52 ≤ m.log2)
    (normal : -1074 ≤ e + m.log2 - 52) :
    (Float.Model.pack (roundWithAccuracy binary64 .positive m e .exact)).toBits.toNat =
      min (2047 * 2 ^ 52) ((e + m.log2 + 1022).toNat * 2 ^ 52 + roundedTo53 m) := by
  obtain ⟨m', e', positive, rounded, full, normal', sum⟩ := exists_roundWithAccuracy long normal
  rw [rounded]
  refine (toNat_pack positive full normal').trans (congrArg _ ?_)
  omega

/-! ## Counts -/

/-- The mantissa of a count that is exact: all its bits, moved up. -/
theorem log2_scaled {n : Nat} (positive : 0 < n) (small : n < 2 ^ 53) :
    n.log2 ≤ 52 ∧ (n * 2 ^ (52 - n.log2)).log2 = 52 := by
  have short : n.log2 < 53 := (Nat.log2_lt positive.ne').mpr small
  rw [log2_mul_two_pow positive.ne']
  omega

theorem scaled_bounds {n : Nat} (positive : 0 < n) (small : n < 2 ^ 53) :
    n.log2 ≤ 52 ∧ 2 ^ 52 ≤ n * 2 ^ (52 - n.log2) ∧ n * 2 ^ (52 - n.log2) < 2 ^ 53 := by
  obtain ⟨short, full⟩ := log2_scaled positive small
  have nonzero := Nat.mul_ne_zero positive.ne' (Nat.two_pow_pos (52 - n.log2)).ne'
  exact ⟨short, (Nat.log2_eq_iff nonzero).mp full⟩

/-- A positive count that is exact, in a double: the sum of mantissa and exponent. -/
theorem exists_unpack_ofUInt64 {n : Nat} (positive : 0 < n) (small : n < 2 ^ 53) :
    ∃ m e, ∃ positive : 0 < m,
      (Float.Model.ofUInt64 n.toUInt64).unpack = .finite .positive m e positive ∧ m.log2 = 52 ∧
        e * 2 ^ 52 + m = ((n.log2 : Int) - 52) * 2 ^ 52 + (n * 2 ^ (52 - n.log2) : Nat) := by
  obtain ⟨short, full⟩ := log2_scaled positive small
  have whole : n.toUInt64.toNat = n := UInt64.toNat_ofNat_of_lt (small.trans (by decide))
  have target : binary64.targetExponent (totalExponent n 0) = (n.log2 : Int) - 52 := by
    rw [targetExponent_eq (by omega)]
    omega
  have amount : (0 - ((n.log2 : Int) - 52)).toNat = 52 - n.log2 := by omega
  have exponent : (0 : Int) - (52 - n.log2 : Nat) = (n.log2 : Int) - 52 := by omega
  obtain ⟨m, e, positive', rounded, full', normal, sum⟩ :=
    exists_roundWithAccuracy (e := (n.log2 : Int) - 52) full.ge (by rw [full]; omega)
  rw [← Nat.mul_one (n * 2 ^ (52 - n.log2)), ← Nat.pow_zero 2, roundedTo53_mul_two_pow full,
    Nat.pow_zero, Nat.mul_one, full] at sum
  have made : ofUInt64 binary64 n.toUInt64 = .finite .positive m e positive' := by
    rw [ofUInt64, Float.Model.UnpackedFloat.ofNat, Float.Model.UnpackedFloat.ofInt,
      Float.Model.UnpackedFloat.normalize, whole, Int.compare_eq_gt.mpr (by omega)]
    dsimp only
    rw [Int.toNat_natCast, Float.Model.UnpackedFloat.round, target, decreaseExponent, amount,
      Nat.shiftLeft_eq]
    dsimp only
    rw [exponent, rounded]
  have bounds := (Nat.log2_eq_iff positive'.ne').mp full'
  have bounds' := scaled_bounds positive small
  refine ⟨m, e, positive', ?_, full', by omega⟩
  rw [Float.Model.unpack, Float.Model.ofUInt64, made]
  exact unpack_pack positive' full' normal (by omega)

theorem unpack_one :
    (Float.exactlyRepresentablePowersOfTen[0]).toModel.unpack =
      .finite .positive (2 ^ 52) (-52) (Nat.two_pow_pos 52) := by
  rfl

/-- The bits of a count that is exact: its leading bit counts as one more of the exponent. -/
theorem toBits_ofScientific_of_lt {n : Nat} (positive : 0 < n) (small : n < 2 ^ 53) :
    (Float.ofScientific n false 0).toBits.toNat =
      (n.log2 + 1022) * 2 ^ 52 + n * 2 ^ (52 - n.log2) := by
  have bounds := scaled_bounds positive small
  obtain ⟨m, e, positive', unpacked, full, sum⟩ := exists_unpack_ofUInt64 positive small
  have bounds' := (Nat.log2_eq_iff positive'.ne').mp full
  have product : (m * 2 ^ 52).log2 = 104 := by rw [log2_mul_two_pow positive'.ne', full]
  unfold Float.ofScientific
  rw [dif_pos ⟨small, by decide⟩]
  show (Float.Model.pack (mul binary64 (Float.Model.ofUInt64 n.toUInt64).unpack
    (Float.exactlyRepresentablePowersOfTen[0]).toModel.unpack)).toBits.toNat = _
  rw [unpacked, unpack_one]
  refine (toBits_roundWithAccuracy (by omega) (by omega)).trans ?_
  rw [roundedTo53_mul_two_pow full, product]
  omega

theorem ofScientific_eq_round {n : Nat} (nonzero : n ≠ 0) :
    Float.Model.UnpackedFloat.ofScientific binary64 n 0 =
      roundWithAccuracy binary64 .positive (n * 2 ^ 53) (-53) .exact := by
  have least : (0 : Int) ≤ 2 ^ binary64.exponentBits := by positivity
  have range : ¬(0 : Int) < -(2 ^ binary64.exponentBits + n.log2) := by omega
  have mantissa : n <<< binary64.mantissaBits * 10 ^ (0 : Int).toNat = n * 2 ^ 53 := by
    rw [Int.toNat_zero, Nat.pow_zero, Nat.mul_one]
    exact Nat.shiftLeft_eq n 53
  rw [Float.Model.UnpackedFloat.ofScientific, dif_neg nonzero, if_neg least.not_gt, if_neg range,
    if_pos le_rfl, mul, mantissa]
  rfl

/-- The bits of a greater count, which is rounded. -/
theorem toBits_ofScientific_of_le {n : Nat} (great : 2 ^ 53 ≤ n) :
    (Float.ofScientific n false 0).toBits.toNat =
      min (2047 * 2 ^ 52) ((n.log2 + 1022) * 2 ^ 52 + roundedTo53 (n * 2 ^ 53)) := by
  have nonzero : n ≠ 0 := by omega
  have scaled : (n * 2 ^ 53).log2 = n.log2 + 53 := log2_mul_two_pow nonzero 53
  have exponent : (-53 + ((n.log2 + 53 : Nat) : Int) + 1022).toNat = n.log2 + 1022 := by omega
  unfold Float.ofScientific
  rw [dif_neg fun small => great.not_gt small.1]
  show (Float.Model.pack (Float.Model.UnpackedFloat.ofScientific binary64 n 0)).toBits.toNat = _
  rw [ofScientific_eq_round nonzero,
    toBits_roundWithAccuracy (by rw [scaled]; omega) (by rw [scaled]; omega), scaled, exponent]

/-- The leading bit of a positive count, short of infinity, is in its exponent. -/
theorem le_toBits_ofScientific {n : Nat} (positive : 0 < n) :
    min (2047 * 2 ^ 52) ((n.log2 + 1023) * 2 ^ 52) ≤
      (Float.ofScientific n false 0).toBits.toNat := by
  rcases lt_or_ge n (2 ^ 53) with small | great
  · have bounds := scaled_bounds positive small
    rw [toBits_ofScientific_of_lt positive small]
    omega
  · have long : 52 ≤ (n * 2 ^ 53).log2 := by
      rw [log2_mul_two_pow positive.ne']
      omega
    have least := (roundedTo53_bounds long).1
    rw [toBits_ofScientific_of_le great]
    omega

theorem toBits_ofInt (n : Nat) :
    (ofInt n).toBits.toNat = (Float.ofScientific n false 0).toBits.toNat := by
  rw [ofInt, if_neg (Int.not_lt.mpr (Int.natCast_nonneg n)), Int.natAbs_natCast]

theorem toBits_ofScientific_zero : (Float.ofScientific 0 false 0).toBits.toNat = 0 := by
  decide +kernel

/-- The bits of a count have no sign. -/
theorem toBits_ofInt_lt (n : Nat) : (ofInt n).toBits.toNat < 2 ^ 63 := by
  rw [toBits_ofInt]
  rcases n.eq_zero_or_pos with rfl | positive
  · rw [toBits_ofScientific_zero]
    exact Nat.two_pow_pos 63
  · rcases lt_or_ge n (2 ^ 53) with small | great
    · have bounds := scaled_bounds positive small
      rw [toBits_ofScientific_of_lt positive small]
      omega
    · rw [toBits_ofScientific_of_le great]
      omega

/-- A count below `2 ^ 53` has lesser bits than any greater count. -/
theorem toBits_ofInt_lt_toBits_ofInt {m n : Nat} (exact : m < 2 ^ 53) (less : m < n) :
    (ofInt m).toBits.toNat < (ofInt n).toBits.toNat := by
  have positive : 0 < n := by omega
  have leading := le_toBits_ofScientific positive
  rw [toBits_ofInt, toBits_ofInt]
  rcases m.eq_zero_or_pos with rfl | positive'
  · rw [toBits_ofScientific_zero]
    omega
  · have bounds := scaled_bounds positive' exact
    have bits := toBits_ofScientific_of_lt positive' exact
    have ordered : m.log2 ≤ n.log2 :=
      (Nat.le_log2 positive.ne').mpr ((Nat.log2_self_le positive'.ne').trans less.le)
    rcases ordered.eq_or_lt with same | lower
    · -- Both have the same leading bit, so the greater count is exact too.
      have small : n < 2 ^ 53 := (Nat.log2_lt positive.ne').mp (by omega)
      have scaled := Nat.mul_lt_mul_of_pos_right less (Nat.two_pow_pos (52 - n.log2))
      rw [bits, toBits_ofScientific_of_lt positive small, same]
      omega
    · omega

end Stencil.Decimal
