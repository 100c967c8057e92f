import EntityGraph.Json.Basic
import EntityGraph.Proofs.Doubles

/-!
# Doubles that are finite

Reading a decimal never gives an infinite double: a product is checked, and a quotient of a finite
double and a power of ten is below every double there is. The bounds are powers of two, kept with
the exponent that a double is written with, and are followed through rounding and packing.
-/

namespace EntityGraph

namespace Doubles

open Float.Model (Format UnpackedFloat totalExponent)

open Float.Model.UnpackedFloat

/-- Whether a significand and an exponent stay below a power of two with 53 bits. -/
def Fits (power : Int) (m : Nat) (e : Int) : Prop :=
  e + 53 ≤ power ∧ totalExponent m e ≤ power

instance (power : Int) (m : Nat) (e : Int) : Decidable (Fits power m e) :=
  inferInstanceAs (Decidable (_ ∧ _))

/-- Whether a double is a number below a power of two. -/
def Below (power : Int) : UnpackedFloat → Prop
  | .zero _ => True
  | .finite _ m e _ => Fits power m e
  | .infinity _ | .notANumber => False

instance (power : Int) : (f : UnpackedFloat) → Decidable (Below power f)
  | .zero _ => isTrue trivial
  | .finite _ m e _ => inferInstanceAs (Decidable (Fits power m e))
  | .infinity _ | .notANumber => isFalse id

theorem isFinite_of_below {power : Int} {f : UnpackedFloat} (below : Below power f) :
    f.isFinite = true := by
  cases f with
  | zero => rfl
  | finite => rfl
  | _ => cases below

/-! ## Packing -/

/-- A double is below the power of two that its exponent stands for. -/
theorem below_unpack_of_exponent {power : Int} {bits : BitVec (Format.numBits .binary64)}
    (bounded : unpackExponent bits ≠ -1#_) (least : -1021 ≤ power)
    (small : ((unpackExponent bits).toNat : Int) ≤ power + 1022) :
    Below power (unpack .binary64 bits) := by
  have bias : Format.exponentBias .binary64 = 1023 := rfl
  rw [unpack, if_neg bounded]
  split
  · next zero =>
    split
    · trivial
    · next nonzero =>
      have short : (unpackMantissa bits).toNat.log2 < 52 := by
        rw [Nat.log2_lt (by simpa using (BitVec.toNat_inj (y := 0#_)).not.2 nonzero)]
        exact (unpackMantissa bits).isLt
      have exponent : (unpackExponent bits).toNat = 0 := by simp [zero]
      simp only [Below, Fits, totalExponent, bias]
      omega
  · have width := log2_hiddenBit (unpackMantissa bits)
    have wide : Format.mantissaBits .binary64 = 53 := rfl
    simp only [Below, Fits, totalExponent, bias]
    omega

/-- A finite double is below the power of two that doubles do not reach. -/
theorem below_unpack {bits : BitVec (Format.numBits .binary64)}
    (finite : (unpack .binary64 bits).isFinite = true) : Below 1024 (unpack .binary64 bits) := by
  have bounded : unpackExponent bits ≠ -1#_ := by
    intro full
    rw [unpack, if_pos full] at finite
    split at finite <;> cases finite
  refine below_unpack_of_exponent bounded (by decide) ?_
  have notAll : (unpackExponent bits).toNat ≠ 2 ^ 11 - 1 := fun full =>
    bounded (BitVec.eq_of_toNat_eq (by rw [full]; rfl))
  have small := (unpackExponent bits).isLt
  change (unpackExponent bits).toNat < 2 ^ 11 at small
  omega

/-- A double whose exponent has no bits is below any power of two that is not too small. -/
theorem below_unpack_of_zero {power : Int} {bits : BitVec (Format.numBits .binary64)}
    (none : unpackExponent bits = 0#_) (least : -1021 ≤ power) :
    Below power (unpack .binary64 bits) := by
  refine below_unpack_of_exponent ?_ least ?_
  · rw [none]
    decide
  · rw [none]
    change (0 : Int) ≤ power + 1022
    omega

/-- A number stays below a power of two when it is packed. -/
theorem below_unpack_pack {power : Int} {f : UnpackedFloat} (below : Below power f)
    (least : -1021 ≤ power) (greatest : power ≤ 1024) :
    Below power (unpack .binary64 (pack .binary64 f)) := by
  cases f with
  | zero sign =>
    refine below_unpack_of_zero ?_ least
    rw [pack, packedZero, unpackExponent_packComponents]
    rfl
  | finite sign m e positive =>
    have small := below.1
    have bounded : (e + Format.exponentBias .binary64 +
        Format.mantissaBitsWithoutImplicit .binary64).toNat + 1 < 2 ^ 11 := by
      change (e + (1023 : Nat) + (52 : Nat)).toNat + 1 < 2 ^ 11
      omega
    rw [pack, if_neg (Nat.not_le.2 bounded)]
    split
    · refine below_unpack_of_exponent ?_ least ?_
      · rw [unpackExponent_packComponents]
        exact ofNat_ne_allOnes bounded
      · rw [unpackExponent_packComponents, BitVec.toNat_ofNat,
          Nat.mod_eq_of_lt (Nat.lt_of_succ_lt bounded)]
        change ((e + (1023 : Nat) + (52 : Nat)).toNat : Int) ≤ power + 1022
        omega
    · exact below_unpack_of_zero (by rw [unpackExponent_packComponents]) least
  | _ => cases below

/-! ## Rounding -/

theorem log2_le_of_le_succ {n next : Nat} (greatest : next ≤ n + 1) : next.log2 ≤ n.log2 + 1 := by
  by_cases nonzero : next = 0
  · simp [nonzero]
  · have power : n < 2 ^ (n.log2 + 1) := Nat.lt_log2_self
    refine Nat.le_of_lt_succ ((Nat.log2_lt nonzero).2 ?_)
    rw [Nat.succ_eq_add_one, Nat.pow_succ]
    omega

theorem log2_shiftLeft_le {m : Nat} (positive : 0 < m) (count : Nat) :
    (m <<< count).log2 ≤ m.log2 + count := by
  rw [Nat.shiftLeft_eq]
  have power : m * 2 ^ count < 2 ^ (m.log2 + 1) * 2 ^ count :=
    Nat.mul_lt_mul_of_pos_right Nat.lt_log2_self (Nat.two_pow_pos count)
  rw [← Nat.pow_add] at power
  have above := (Nat.log2_lt (Nat.mul_ne_zero (Nat.ne_of_gt positive)
    (Nat.ne_of_gt (Nat.two_pow_pos count)))).2 power
  omega

theorem log2_div_le (m : Nat) {d : Nat} (positive : 0 < d) :
    (m / d).log2 + d.log2 ≤ m.log2 ∨ (m / d).log2 = 0 := by
  by_cases zero : m / d = 0
  · exact .inr (by rw [zero]; rfl)
  · have nonzero : m ≠ 0 := by
      rintro rfl
      simp at zero
    refine .inl ((Nat.le_log2 nonzero).2 ?_)
    rw [Nat.pow_add]
    calc 2 ^ (m / d).log2 * 2 ^ d.log2
        ≤ m / d * d :=
          Nat.mul_le_mul (Nat.log2_self_le zero) (Nat.log2_self_le (Nat.ne_of_gt positive))
      _ ≤ m := Nat.div_mul_le_self m d

/-- A shift keeps a significand and its exponent below a power of two. -/
theorem exists_shift {power : Int} {m : Nat} {e : Int} (fits : Fits power m e)
    (least : -1021 ≤ power) (accuracy : Accuracy) :
    ∃ shifted e', shiftToTargetExponent .binary64 m e accuracy = (shifted, e') ∧
      Fits power shifted.mantissa e' ∧ Fits (power + 1) shifted.roundedMantissa e' := by
  obtain ⟨short, small⟩ := fits
  simp only [totalExponent] at small
  have bits : Format.mantissaBits .binary64 = 53 := rfl
  have lowest : Format.minExponent .binary64 = -1074 := rfl
  simp only [shiftToTargetExponent, shiftToExponent, Format.targetExponent, totalExponent, bits,
    lowest]
  generalize counted : (max ((m.log2 : Int) + 1 + e - (53 : Nat)) (-1074) - e).toNat = count
  have mantissa : (ExtendedMantissa.ofMantissaAndAccuracy m accuracy >>> count).mantissa =
      m / 2 ^ count := by
    rw [mantissa_shift]
    cases accuracy with
    | exact => rfl
    | inexact relative => cases relative <;> rfl
  obtain ⟨_, greatest⟩ :=
    roundedMantissa_bounds (ExtendedMantissa.ofMantissaAndAccuracy m accuracy >>> count)
  generalize rounded :
    (ExtendedMantissa.ofMantissaAndAccuracy m accuracy >>> count).roundedMantissa = next at greatest
  have monotone : next.log2 ≤ (m / 2 ^ count).log2 + 1 :=
    log2_le_of_le_succ (mantissa ▸ greatest)
  have kept := log2_div_le m (Nat.two_pow_pos count)
  rw [Nat.log2_two_pow] at kept
  refine ⟨_, _, rfl, ⟨?_, ?_⟩, ?_, ?_⟩
  · omega
  · rw [mantissa, totalExponent]
    omega
  · omega
  · rw [rounded, totalExponent]
    omega

/-- Rounding at most doubles the power of two that a number is below. -/
theorem below_roundWithAccuracy {power : Int} {m : Nat} {e : Int} (fits : Fits power m e)
    (least : -1021 ≤ power) (sign : Sign) (accuracy : Accuracy) :
    Below (power + 1) (roundWithAccuracy .binary64 sign m e accuracy) := by
  obtain ⟨first, e₁, shifted, _, rounded⟩ := exists_shift fits least accuracy
  obtain ⟨second, e₂, shiftedAgain, last, _⟩ := exists_shift rounded (by omega) .exact
  simp only [roundWithAccuracy, shifted, shiftedAgain]
  split
  · trivial
  · exact last

/-! ## Operations -/

/-- A product of significands is below the product of the powers of two, doubled for its
rounding. -/
theorem below_mul_finite {left right : Int} {m m' : Nat} {e e' : Int} (first : Fits left m e)
    (second : Fits right m' e') (least : -1021 ≤ left + right) {sign sign' : Sign}
    {positive : 0 < m} {positive' : 0 < m'} :
    Below (left + right + 1)
      (mul .binary64 (.finite sign m e positive) (.finite sign' m' e' positive')) := by
  refine below_roundWithAccuracy ?_ least _ _
  have product := log2_mul_lt (Nat.lt_log2_self (n := m)).le (Nat.lt_log2_self (n := m'))
    (Nat.mul_ne_zero (Nat.ne_of_gt positive) (Nat.ne_of_gt positive'))
  simp only [Fits, totalExponent] at first second ⊢
  omega

/-- A product is below the product of the powers of two, doubled for its rounding. -/
theorem below_mul {left right : Int} {x y : UnpackedFloat} (first : Below left x)
    (second : Below right y) (least : -1021 ≤ left + right) :
    Below (left + right + 1) (mul .binary64 x y) := by
  cases x with
  | zero =>
    cases y with
    | zero => trivial
    | finite => trivial
    | _ => cases second
  | finite sign m e positive =>
    cases y with
    | zero => trivial
    | finite sign' m' e' positive' => exact below_mul_finite first second least
    | _ => cases second
  | _ => cases first

/-- The quotient of two significands is below half of the power of two that doubles do not reach, if
the divisor is not below two. -/
theorem fits_divCore {m m' : Nat} {e e' : Int} (dividend : totalExponent m e ≤ 1024)
    (divisor : 2 ≤ totalExponent m' e') (positive : 0 < m) (positive' : 0 < m') :
    Fits 1023 (divCore .binary64 m e m' e').1 (divCore .binary64 m e m' e').2.1 := by
  have bits : Format.mantissaBits .binary64 = 53 := rfl
  have lowest : Format.minExponent .binary64 = -1074 := rfl
  simp only [divCore, Format.targetExponent, bits, lowest]
  generalize target : min (e - e')
    (max (totalExponent m e - totalExponent m' e' - (53 : Nat)) (-1074)) = exponent
  simp only [totalExponent] at dividend divisor target
  have shifted := log2_shiftLeft_le positive (e - e' - exponent).toNat
  have divided := log2_div_le (m <<< (e - e' - exponent).toNat) positive'
  refine ⟨by omega, ?_⟩
  rw [totalExponent]
  omega

/-- The quotient of a finite double and one that is not below two is finite. -/
theorem below_div {x y : UnpackedFloat} {size : Int} (finite : Below 1024 x)
    (sized : size? y = some size) (large : 2 ≤ size) : Below 1024 (div .binary64 x y) := by
  cases y with
  | finite sign' m' e' positive' =>
    cases x with
    | zero => trivial
    | finite sign m e positive =>
      have divisor : totalExponent m' e' = size := Option.some.inj sized
      have quotient := fits_divCore finite.2 (divisor ▸ large) positive positive'
      exact below_roundWithAccuracy quotient (by decide) (sign / sign') _
    | _ => cases finite
  | _ => cases sized

/-- A number of 64 bits is rounded to a number below a power of two. -/
theorem below_round (sign : Sign) {m : Nat} (small : m < 2 ^ 64) :
    Below 65 (UnpackedFloat.round .binary64 sign m 0) := by
  have fits (count : Nat) : Fits 64 (m <<< count) (0 - count) := by
    refine ⟨by omega, ?_⟩
    rw [totalExponent]
    by_cases zero : m = 0
    · have none : (m <<< count).log2 = 0 := by simp [zero]
      omega
    · have short := (Nat.log2_lt zero).2 small
      have shifted := log2_shiftLeft_le (Nat.pos_of_ne_zero zero) count
      omega
  exact below_roundWithAccuracy (fits _) (by decide) sign .exact

/-- An unsigned integer of 64 bits is converted to a number below a power of two. -/
theorem below_ofInt {n : Nat} (small : n < 2 ^ 64) :
    Below 65 (Float.Model.UnpackedFloat.ofInt .binary64 n) := by
  unfold Float.Model.UnpackedFloat.ofInt UnpackedFloat.normalize
  split
  · exact below_round .negative (by omega)
  · trivial
  · exact below_round .positive (by omega)

/-! ## Decimals -/

theorem isFinite_iff {x : Float} : x.isFinite = true ↔ x.isNaN = false ∧ x.isInf = false := by
  change x.toModel.unpack.isFinite = true ↔
    x.toModel.unpack.isNaN = false ∧ x.toModel.unpack.isInf = false
  cases x.toModel.unpack <;> simp [isFinite, isNaN, isInf]

theorem isFinite_neg_float {x : Float} (finite : x.isFinite = true) : (-x).isFinite = true := by
  have below : Below 1024 x.toModel.unpack := below_unpack finite
  have negated : Below 1024 x.toModel.unpack.neg := by
    cases value : x.toModel.unpack with
    | zero => trivial
    | finite =>
      rw [value] at below
      exact below
    | _ =>
      rw [value] at below
      cases below
  exact isFinite_of_below (below_unpack_pack negated (by decide) (by decide))

/-- A finite double that is divided by a power of ten stays finite. -/
theorem isFinite_div_powerOfTen {x : Float} {exponent : Nat} (finite : x.isFinite = true)
    (positive : 0 < exponent) (held : exponent ≤ 308) :
    (x / Decimal.powerOfTen exponent).isFinite = true := by
  obtain ⟨size, sized, large⟩ := exists_size?_powerOfTen held
  have quotient := below_div (below_unpack finite) sized (large positive)
  exact isFinite_of_below (below_unpack_pack quotient (by decide) (by decide))

/-- A decimal without an exponent and with a significand of 64 bits is converted to a number below a
power of two. -/
theorem below_ofScientific {n : Nat} (small : n < 2 ^ 64) :
    Below 118 (ofScientific .binary64 n 0) := by
  unfold ofScientific
  split
  · trivial
  · next nonzero =>
    have large : (0 : Int) ≤ 2 ^ Format.exponentBits .binary64 := by decide
    have notLarge := Int.not_lt.2 large
    have notSmall := Int.not_lt.2
      (Int.neg_nonpos_of_nonneg (Int.add_nonneg large (Int.natCast_nonneg n.log2)))
    have sum : (118 : Int) = 64 + 53 + 1 := rfl
    rw [if_neg notLarge, if_neg notSmall, if_pos (Int.le_refl 0), sum]
    refine below_mul_finite ⟨?_, ?_⟩ ?_ ?_
    · decide
    · have width := (Nat.log2_lt nonzero).2 small
      have shifted := log2_shiftLeft_le (Nat.pos_of_ne_zero nonzero) (Format.mantissaBits .binary64)
      rw [totalExponent]
      omega
    · decide
    · decide

/-- A number of 64 bits is read as a finite double. -/
theorem isFinite_ofNat_float {n : Nat} (small : n ≤ Number.greatestUnsigned) :
    (Float.ofNat n).isFinite = true := by
  have short : n < 2 ^ 64 := Nat.lt_succ_of_le small
  change (Float.ofScientific n false 0).isFinite = true
  unfold Float.ofScientific
  split
  · have one : Below 1 (Float.exactlyRepresentablePowersOfTen[0]).toModel.unpack := by
      decide +kernel
    have converted : Below 65 n.toUInt64.toFloat.toModel.unpack :=
      below_unpack_pack (below_ofInt n.toUInt64.toNat_lt) (by decide) (by decide)
    have product := below_mul converted one (by decide)
    exact isFinite_of_below (below_unpack_pack product (by decide) (by decide))
  · exact isFinite_of_below
      (below_unpack_pack (below_ofScientific short) (by decide) (by decide))

/-- An integer of 64 bits is read as a finite double. -/
theorem isFinite_ofInt_float {n : Int} (small : n.natAbs ≤ Number.greatestUnsigned) :
    (Float.ofInt n).isFinite = true := by
  cases n with
  | ofNat n => exact isFinite_ofNat_float small
  | negSucc n => exact isFinite_neg_float (isFinite_ofNat_float small)

/-- Scaling a finite double by a power of ten gives a finite double, if it gives one. -/
theorem isFinite_of_scaled {x result : Float} {exponent : Int} (finite : x.isFinite = true)
    (done : Decimal.scaled? x exponent = some result) : result.isFinite = true := by
  fun_induction Decimal.scaled? x exponent with
  | case1 =>
    cases done
    exact finite
  | case2 x exponent below nonzero inductionHypothesis =>
    exact inductionHypothesis (isFinite_div_powerOfTen finite (by decide) (by decide)) done
  | case3 x exponent above below =>
    cases done
    exact isFinite_div_powerOfTen finite (by omega) (by omega)
  | case4 => cases done
  | case5 x exponent above below far product finiteProduct =>
    rw [← Option.some.inj done]
    exact isFinite_iff.2
      ⟨isNaN_mul_float (isFinite_iff.1 finite).1 (regular_powerOfTen (by omega)),
        by simpa using finiteProduct⟩
  | case6 =>
    cases done
    exact finite
  | case7 => cases done

/-- A decimal with a significand of 64 bits is read as a finite double. -/
theorem isFinite_of_read {negative : Bool} {significand : Nat} {exponent : Int} {result : Float}
    (small : significand ≤ Number.greatestUnsigned)
    (done : Decimal.read? negative significand exponent = some result) :
    result.isFinite = true := by
  obtain ⟨x, scaled, rfl⟩ := Option.map_eq_some_iff.1 done
  have finite := isFinite_of_scaled (isFinite_ofNat_float small) scaled
  cases negative with
  | false => exact finite
  | true => exact isFinite_neg_float finite

end Doubles

end EntityGraph
