import EntityGraph.Decimal
import Mathlib

/-!
# Doubles that are numbers

Reading a decimal multiplies or divides a double by a power of ten that doubles hold. Such a
power is neither zero nor infinite, so the product is a number. The facts are taken from the
model of doubles: an operation unpacks its operands, rounds, and packs the result.
-/

namespace EntityGraph

namespace Doubles

open Float.Model (Format UnpackedFloat)

open Float.Model.UnpackedFloat

/-- Whether a double is a number that is neither zero nor infinite. -/
def isRegular : UnpackedFloat → Bool
  | .finite .. => true
  | _ => false

/-- The power of two right above a double that is a number, but neither zero nor infinite. -/
def size? : UnpackedFloat → Option Int
  | .finite _ m e _ => some (Float.Model.totalExponent m e)
  | _ => none

theorem isRegular_of_size? {f : UnpackedFloat} {size : Int} (sized : size? f = some size) :
    isRegular f = true := by
  cases f with
  | finite => rfl
  | _ => cases sized

/-! ## Packing -/

/-- The bits that stand for no number. -/
theorem isNaN_unpack_iff {spec : Format} {bits : BitVec spec.numBits} :
    (unpack spec bits).isNaN = true ↔ unpackExponent bits = -1#_ ∧ unpackMantissa bits ≠ 0#_ := by
  unfold unpack
  by_cases exponent : unpackExponent bits = -1#_
  · by_cases mantissa : unpackMantissa bits = 0#_ <;> simp [exponent, mantissa, isNaN]
  · simp only [exponent, if_false, false_and, iff_false]
    split
    · split <;> simp [isNaN]
    · simp [isNaN]

/-- The exponent of a double that is not too large is not the one of infinity. -/
theorem ofNat_ne_allOnes {width value : Nat} (bounded : value + 1 < 2 ^ width) :
    BitVec.ofNat width value ≠ -BitVec.ofNat width 1 := by
  intro same
  have equal := congrArg BitVec.toNat same
  rw [BitVec.toNat_ofNat, BitVec.neg_one_eq_allOnes, BitVec.toNat_allOnes,
    Nat.mod_eq_of_lt (by omega)] at equal
  omega

/-- A number stays a number when it is packed. -/
theorem isNaN_unpack_pack {spec : Format} {f : UnpackedFloat} (number : f.isNaN = false) :
    (unpack spec (pack spec f)).isNaN = false := by
  have wide : BitVec.ofNat spec.exponentBits 0 ≠ -BitVec.ofNat spec.exponentBits 1 :=
    ofNat_ne_allOnes (Nat.one_lt_two_pow (Nat.pos_iff_ne_zero.1 spec.he))
  rw [← Bool.not_eq_true, isNaN_unpack_iff]
  rintro ⟨exponent, mantissa⟩
  cases f with
  | notANumber => cases number
  | infinity sign => simp [pack, packedInfinity] at mantissa
  | zero sign => simp [pack, packedZero] at mantissa
  | finite sign m e positive =>
    rw [pack] at exponent mantissa
    split at exponent
    · next overflow => simp [packedInfinity, overflow] at mantissa
    · next bounded =>
      split at exponent
      · rw [unpackExponent_packComponents] at exponent
        exact ofNat_ne_allOnes (Nat.lt_of_not_le bounded) exponent
      · rw [unpackExponent_packComponents] at exponent
        exact wide exponent

/-- The significand of a double with its hidden bit is as wide as it can be. -/
theorem log2_hiddenBit {spec : Format} (mantissa : BitVec spec.mantissaBitsWithoutImplicit) :
    (1#1 ++ mantissa).toNat.log2 + 1 = spec.mantissaBits := by
  have small := mantissa.isLt
  have value : (1#1 ++ mantissa).toNat = 2 ^ spec.mantissaBitsWithoutImplicit + mantissa.toNat := by
    rw [BitVec.toNat_append, ← Nat.shiftLeft_add_eq_or_of_lt small]
    simp [Nat.shiftLeft_eq]
  have width : (1#1 ++ mantissa).toNat.log2 = spec.mantissaBitsWithoutImplicit := by
    rw [value, Nat.log2_eq_iff (by omega), Nat.pow_succ]
    omega
  rw [width, Format.mantissaBits, Nat.add_comm]

/-- A number keeps its size when it is packed, if its significand is as wide as it can be and its
exponent fits. -/
theorem size?_unpack_pack {spec : Format} {sign : Sign} {m : Nat} {e : Int}
    {positive : 0 < m} (wide : m.log2 + 1 = spec.mantissaBits)
    (above : 0 < e + spec.exponentBias + spec.mantissaBitsWithoutImplicit)
    (below : e + spec.exponentBias + spec.mantissaBitsWithoutImplicit + 1 <
      (2 ^ spec.exponentBits : Nat)) :
    size? (unpack spec (pack spec (.finite sign m e positive))) =
      some (Float.Model.totalExponent m e) := by
  have bounded :
      (e + spec.exponentBias + spec.mantissaBitsWithoutImplicit).toNat + 1 <
        2 ^ spec.exponentBits := by omega
  have kept : (BitVec.ofNat spec.exponentBits
      (e + spec.exponentBias + spec.mantissaBitsWithoutImplicit).toNat).toNat =
        (e + spec.exponentBias + spec.mantissaBitsWithoutImplicit).toNat := by
    rw [BitVec.toNat_ofNat, Nat.mod_eq_of_lt (by omega)]
  have nonzero : BitVec.ofNat spec.exponentBits
      (e + spec.exponentBias + spec.mantissaBitsWithoutImplicit).toNat ≠ 0#_ := by
    intro same
    rw [same, BitVec.toNat_zero] at kept
    omega
  rw [pack, if_neg (Nat.not_le.2 bounded), if_pos wide, unpack, unpackExponent_packComponents,
    if_neg (ofNat_ne_allOnes bounded), if_neg nonzero]
  simp only [size?, Float.Model.totalExponent, kept, Option.some.injEq]
  have width := log2_hiddenBit (unpackMantissa (packComponents spec sign (BitVec.ofNat _
    (e + spec.exponentBias + spec.mantissaBitsWithoutImplicit).toNat) (BitVec.ofNat _ m)))
  omega

/-! ## Rounding -/

/-- Shifting out bits divides by a power of two. -/
theorem mantissa_shift (extended : ExtendedMantissa) (count : Nat) :
    (extended >>> count).mantissa = extended.mantissa / 2 ^ count := by
  change (count.repeat ExtendedMantissa.shiftRightOne extended).mantissa = _
  induction count with
  | zero => simp [Nat.repeat]
  | succ count inductionHypothesis =>
    rw [Nat.repeat, ExtendedMantissa.shiftRightOne, inductionHypothesis, Nat.div_div_eq_div_mul,
      Nat.pow_succ]

/-- Rounding goes up by one at most. -/
theorem roundedMantissa_bounds (extended : ExtendedMantissa) :
    extended.mantissa ≤ extended.roundedMantissa ∧
      extended.roundedMantissa ≤ extended.mantissa + 1 := by
  unfold ExtendedMantissa.roundedMantissa Accuracy.roundToNearestEven
  split <;> omega

/-- Of a significand of at least 53 bits that is not too small, a shift leaves 53 bits. -/
theorem exists_of_shift {mantissa : Nat} {exponent : Int} (wide : 52 ≤ mantissa.log2)
    (large : -1022 ≤ mantissa.log2 + exponent) :
    ∃ shifted, shiftToTargetExponent .binary64 mantissa exponent .exact =
        (shifted, exponent + (mantissa.log2 - 52 : Nat)) ∧
      2 ^ 52 ≤ shifted.mantissa ∧ shifted.mantissa < 2 ^ 53 := by
  have target : Format.targetExponent .binary64 (Float.Model.totalExponent mantissa exponent) =
      exponent + (mantissa.log2 - 52 : Nat) := by
    have bits : Format.mantissaBits .binary64 = 53 := rfl
    have least : Format.minExponent .binary64 = -1074 := rfl
    rw [Format.targetExponent, Float.Model.totalExponent, bits, least]
    omega
  have amount : (exponent + (mantissa.log2 - 52 : Nat) - exponent).toNat = mantissa.log2 - 52 := by
    omega
  have nonzero : mantissa ≠ 0 := by
    rintro rfl
    simp at wide
  refine ⟨ExtendedMantissa.ofMantissaAndAccuracy mantissa .exact >>> (mantissa.log2 - 52),
    ?_, ?_, ?_⟩
  · simp only [shiftToTargetExponent, shiftToExponent, target, amount]
  · have whole : 2 ^ 52 * 2 ^ (mantissa.log2 - 52) ≤ mantissa := by
      rw [← Nat.pow_add, show 52 + (mantissa.log2 - 52) = mantissa.log2 by omega]
      exact Nat.log2_self_le nonzero
    rw [mantissa_shift]
    exact (Nat.le_div_iff_mul_le (Nat.two_pow_pos _)).2 whole
  · have whole : mantissa < 2 ^ 53 * 2 ^ (mantissa.log2 - 52) := by
      rw [← Nat.pow_add, show 53 + (mantissa.log2 - 52) = mantissa.log2 + 1 by omega]
      exact Nat.lt_log2_self
    rw [mantissa_shift]
    exact (Nat.div_lt_iff_lt_mul (Nat.two_pow_pos _)).2 whole

/-- A number that is neither very small nor very large is rounded to a double that is neither zero
nor infinite, and not below the power of two below the number. -/
theorem exists_size?_round (sign : Sign) {mantissa : Nat} {exponent : Int}
    (wide : 52 ≤ mantissa.log2) (large : -1022 ≤ mantissa.log2 + exponent)
    (small : mantissa.log2 + exponent ≤ 1022) :
    ∃ size, size? (unpack .binary64 (pack .binary64
        (roundWithAccuracy .binary64 sign mantissa exponent .exact))) = some size ∧
      Float.Model.totalExponent mantissa exponent ≤ size := by
  obtain ⟨first, shifted, above, below⟩ := exists_of_shift wide large
  obtain ⟨least, greatest⟩ := roundedMantissa_bounds first
  have nonzero : first.roundedMantissa ≠ 0 := by omega
  have wideAgain : 52 ≤ first.roundedMantissa.log2 := (Nat.le_log2 nonzero).2 (by omega)
  have short : first.roundedMantissa.log2 < 54 := (Nat.log2_lt nonzero).2 (by omega)
  have largeAgain : -1022 ≤ (first.roundedMantissa.log2 : Int) +
      (exponent + (mantissa.log2 - 52 : Nat)) := by omega
  obtain ⟨second, shiftedAgain, aboveAgain, belowAgain⟩ := exists_of_shift wideAgain largeAgain
  have positive : second.mantissa ≠ 0 := by omega
  have lower := (Nat.le_log2 positive).2 aboveAgain
  have upper := (Nat.log2_lt positive).2 belowAgain
  have full : second.mantissa.log2 + 1 = Format.mantissaBits .binary64 := by
    have bits : Format.mantissaBits .binary64 = 53 := rfl
    omega
  simp only [roundWithAccuracy, shifted, shiftedAgain, dif_neg positive]
  refine ⟨_, size?_unpack_pack full ?_ ?_, ?_⟩
  · change 0 < _ + ((1023 : Nat) : Int) + ((52 : Nat) : Int)
    omega
  · change _ + ((1023 : Nat) : Int) + ((52 : Nat) : Int) + 1 < ((2 ^ 11 : Nat) : Int)
    omega
  · simp only [Float.Model.totalExponent]
    omega

/-! ## Operations -/

/-- Rounding gives a number. -/
theorem isNaN_roundWithAccuracy (spec : Format) (sign : Sign) (mantissa : Nat) (exponent : Int)
    (accuracy : Accuracy) :
    (roundWithAccuracy spec sign mantissa exponent accuracy).isNaN = false := by
  unfold roundWithAccuracy
  simp only
  split <;> rfl

/-- The product of a number and one that is neither zero nor infinite is a number. -/
theorem isNaN_mul {spec : Format} {left right : UnpackedFloat} (number : left.isNaN = false)
    (regular : isRegular right = true) : (mul spec left right).isNaN = false := by
  cases right with
  | finite sign m e positive =>
    cases left with
    | notANumber => cases number
    | finite => exact isNaN_roundWithAccuracy ..
    | _ => rfl
  | _ => cases regular

/-! ## Decimals -/

/-- Whether a double is a number that is neither zero nor infinite. -/
def Regular (x : Float) : Prop :=
  isRegular x.toModel.unpack = true

instance (x : Float) : Decidable (Regular x) :=
  inferInstanceAs (Decidable (isRegular x.toModel.unpack = true))

theorem isNaN_mul_float {x y : Float} (number : x.isNaN = false) (regular : Regular y) :
    (x * y).isNaN = false :=
  isNaN_unpack_pack (isNaN_mul number regular)

theorem log2_mul_lt {left right width height : Nat} (wide : left ≤ 2 ^ width)
    (high : right < 2 ^ height) (nonzero : left * right ≠ 0) :
    (left * right).log2 < width + height := by
  rw [Nat.log2_lt nonzero, Nat.pow_add]
  exact Nat.mul_lt_mul_of_le_of_lt wide high (Nat.two_pow_pos width)

/-- The powers of ten that are computed in full are neither zero nor infinite nor below two. -/
theorem exists_size?_powerOfTen_of_far {exponent : Nat} (above : 22 < exponent)
    (below : exponent < 308) :
    ∃ size, size? (Decimal.powerOfTen exponent).toModel.unpack = some size ∧ 2 ≤ size := by
  have power : 10 ^ exponent < 2 ^ 1020 :=
    Nat.lt_of_le_of_lt (Nat.pow_le_pow_right (by decide) (Nat.le_of_lt_succ below))
      (by decide +kernel : 10 ^ 307 < 2 ^ 1020)
  have positive : 0 < 10 ^ exponent := Nat.pow_pos (by decide)
  have two : 2 ≤ 10 ^ exponent :=
    Nat.le_trans (by decide) (Nat.pow_le_pow_right (by decide) above)
  have nonzero : 1 <<< 53 * 10 ^ exponent ≠ 0 :=
    Nat.mul_ne_zero (by decide) (Nat.ne_of_gt positive)
  have wide : 54 ≤ (1 <<< 53 * 10 ^ exponent).log2 := by
    rw [Nat.le_log2 nonzero]
    exact Nat.mul_le_mul_left (2 ^ 53) two
  have small : (1 <<< 53 * 10 ^ exponent).log2 < 53 + 1020 :=
    log2_mul_lt (Nat.le_refl (1 <<< 53)) power nonzero
  have large : -1022 ≤ ((1 <<< 53 * 10 ^ exponent).log2 : Int) + -53 := by omega
  obtain ⟨size, rounded, least⟩ := exists_size?_round .positive (by omega) large (by omega)
  have scientific : Decimal.powerOfTen exponent =
      .ofModel (.pack (roundWithAccuracy .binary64 .positive (1 <<< 53 * 10 ^ exponent) (-53)
        .exact)) := by
    rw [Decimal.powerOfTen, Float.ofScientific, dif_neg (by omega)]
    change Float.ofModel (.pack (ofScientific .binary64 1 exponent)) = _
    rw [ofScientific, dif_neg (by decide), if_neg (by simp; omega), if_neg (by simp; omega),
      if_pos (Int.natCast_nonneg exponent)]
    rfl
  rw [scientific]
  refine ⟨size, rounded, Int.le_trans ?_ least⟩
  rw [Float.Model.totalExponent]
  omega

/-- The powers of ten that doubles hold are neither zero nor infinite, and all but the first are not
below two. -/
theorem exists_size?_powerOfTen {exponent : Nat} (held : exponent ≤ 308) :
    ∃ size, size? (Decimal.powerOfTen exponent).toModel.unpack = some size ∧
      (0 < exponent → 2 ≤ size) := by
  by_cases far : 22 < exponent ∧ exponent < 308
  · obtain ⟨size, sized, least⟩ := exists_size?_powerOfTen_of_far far.1 far.2
    exact ⟨size, sized, fun _ => least⟩
  · have least : ∀ exponent ∈ 308 :: List.range 23,
        (size? (Decimal.powerOfTen exponent).toModel.unpack).any
          (fun size => exponent = 0 || 2 ≤ size) = true := by
      decide +kernel
    have near := least exponent (by
      rw [List.mem_cons, List.mem_range]
      omega)
    obtain ⟨size, sized, bounded⟩ := (Option.any_eq_true _ _).1 near
    refine ⟨size, sized, fun positive => ?_⟩
    simpa [Nat.ne_of_gt positive] using bounded

/-- The powers of ten that doubles hold are neither zero nor infinite. -/
theorem regular_powerOfTen {exponent : Nat} (held : exponent ≤ 308) :
    Regular (Decimal.powerOfTen exponent) := by
  obtain ⟨size, sized, _⟩ := exists_size?_powerOfTen held
  exact isRegular_of_size? sized

end Doubles

end EntityGraph
