import RadarRelay.Json.Literal
import RadarRelay.Proofs.Number.Rounding

/-!
# Scaling that rounds once

The digits of a JSON number are scaled by a power of ten with one rounding for each step. When
the digits make a number of at most 53 bits and the power has a double of its own, only the
last step rounds. Then the result is the double nearest to what is written.
-/

namespace RadarRelay.Number

theorem two_pow_le_unitsLimit {exponent : Nat} (small : exponent ≤ 2098) :
    2 ^ exponent ≤ unitsLimit := by
  obtain ⟨limit, same, large⟩ : ∃ limit, unitsLimit = 2 ^ limit ∧ 2098 ≤ limit :=
    ⟨2098, unitsLimit_eq, Nat.le_refl _⟩
  rw [same]
  exact Nat.pow_le_pow_right (by decide) (Nat.le_trans small large)

/-- Rounding does not rise above a power of two. -/
theorem roundUnits_le_two_pow {numerator denominator exponent : Nat}
    (below : numerator / denominator < 2 ^ exponent) (wide : 53 ≤ exponent) :
    roundUnits numerator denominator ≤ 2 ^ exponent := by
  have leading := div_step_lt numerator denominator
  unfold roundUnits
  generalize numerator / denominator = whole at *
  have shift : 53 + (whole.log2 - 52) ≤ exponent := by
    by_cases none : whole = 0
    · subst none
      simpa using wide
    · have := (Nat.log2_lt none).2 below
      omega
  simp only [Nat.shiftLeft_eq, Nat.one_mul] at leading ⊢
  calc _ ≤ 2 ^ 53 * 2 ^ (whole.log2 - 52) := by
        refine Nat.mul_le_mul_right _ ?_
        split <;> omega
    _ = 2 ^ (53 + (whole.log2 - 52)) := (Nat.pow_add ..).symm
    _ ≤ 2 ^ exponent := Nat.pow_le_pow_right (by decide) shift

namespace Double

/-- What is well below the limit is finite. -/
theorem isFinite_ofRatio {numerator denominator exponent : Nat}
    (below : numerator / denominator < 2 ^ exponent) (wide : 53 ≤ exponent)
    (small : exponent < 2098) (negative : Bool) :
    (ofRatio negative numerator denominator).isFinite = true := by
  have bounded : roundUnits numerator denominator < unitsLimit :=
    calc roundUnits numerator denominator ≤ 2 ^ exponent := roundUnits_le_two_pow below wide
      _ < 2 ^ (exponent + 1) := Nat.pow_lt_pow_right (by decide) (Nat.lt_succ_self _)
      _ ≤ unitsLimit := two_pow_le_unitsLimit small
  rw [ofRatio, dif_pos bounded]
  rfl

theorem neg_ofRatio (numerator denominator : Nat) :
    (ofRatio false numerator denominator).neg = ofRatio true numerator denominator := by
  unfold ofRatio
  split <;> rfl

/-- A decimal number is the double nearest to a ratio, also when it is zero. -/
theorem ofDecimal_eq_ratio (negative : Bool) (coefficient : Nat) (exponent : Int) :
    ofDecimal negative coefficient exponent =
      ofRatio negative (coefficient * 10 ^ exponent.toNat * unitsPerOne)
        (10 ^ (-exponent).toNat) := by
  by_cases none : coefficient = 0
  · have small : 2 * (0 * 10 ^ exponent.toNat * unitsPerOne) < 10 ^ (-exponent).toNat := by
      rw [Nat.zero_mul, Nat.zero_mul]
      exact Nat.pow_pos (by decide)
    rw [none, ofRatio_of_small negative small]
    rfl
  · exact ofDecimal_eq_ofRatio negative none exponent

theorem neg_ofDecimal (coefficient : Nat) (exponent : Int) :
    (ofDecimal false coefficient exponent).neg = ofDecimal true coefficient exponent := by
  rw [ofDecimal_eq_ratio, ofDecimal_eq_ratio, neg_ofRatio]

/-- A decimal number of some size is finite. -/
theorem isFinite_ofDecimal {coefficient : Nat} {exponent : Int} (digits : coefficient < 2 ^ 64)
    (few : exponent ≤ 22) (negative : Bool) :
    (ofDecimal negative coefficient exponent).isFinite = true := by
  obtain ⟨places, unit, least, greatest⟩ :
      ∃ places, unitsPerOne = 2 ^ places ∧ 53 ≤ places ∧ places ≤ 1074 :=
    ⟨1074, unitsPerOne_eq, by decide, Nat.le_refl _⟩
  have power : 10 ^ exponent.toNat ≤ 2 ^ 74 :=
    Nat.le_trans (Nat.pow_le_pow_right (by decide) (Int.toNat_le.2 few)) (by decide)
  have below : coefficient * 10 ^ exponent.toNat * unitsPerOne < 2 ^ (64 + 74 + places) := by
    rw [unit, Nat.pow_add 2 (64 + 74), Nat.pow_add 2 64]
    exact Nat.mul_lt_mul_of_pos_right
      (Nat.lt_of_le_of_lt (Nat.mul_le_mul_left _ power)
        (Nat.mul_lt_mul_of_pos_right digits (Nat.two_pow_pos _))) (Nat.two_pow_pos _)
  rw [ofDecimal_eq_ratio]
  exact isFinite_ofRatio (Nat.lt_of_le_of_lt (Nat.div_le_self ..) below) (by omega) (by omega)
    negative

/-! ## Numbers with a double of their own -/

/-- A double that is so many units. -/
def Is (number : Double) (units : Nat) : Prop :=
  ∃ magnitude : Magnitude, number = finite false magnitude ∧ magnitude.units = units

theorem is_ofRatio {units : Nat} (significant : Significant units) (bounded : units < unitsLimit) :
    (ofRatio false units 1).Is units :=
  ⟨⟨units, significant, bounded⟩, ofRatio_units false ⟨units, significant, bounded⟩, rfl⟩

/-- A number of at most 53 bits, moved up by a power of two. -/
theorem is_ofRatio_shiftLeft {leading shift : Nat} (small : leading < 2 ^ 53)
    (bounded : 53 + shift ≤ 2098) :
    (ofRatio false (leading * 2 ^ shift) 1).Is (leading * 2 ^ shift) := by
  refine is_ofRatio ?significant ?bounded
  case significant =>
    rw [← Nat.shiftLeft_eq]
    exact significant_shiftLeft shift (by rwa [Nat.one_shiftLeft])
  case bounded =>
    calc leading * 2 ^ shift < 2 ^ 53 * 2 ^ shift :=
          Nat.mul_lt_mul_of_pos_right small (Nat.two_pow_pos _)
      _ = 2 ^ (53 + shift) := (Nat.pow_add ..).symm
      _ ≤ unitsLimit := two_pow_le_unitsLimit bounded

theorem is_ofInt {number : Nat} (small : number < 2 ^ 53) :
    (ofInt number).Is (number * unitsPerOne) := by
  have positive : decide ((number : Int) < 0) = false := by simp
  rw [ofInt, positive, Int.natAbs_natCast, unitsPerOne_eq]
  exact is_ofRatio_shiftLeft small (by decide)

theorem is_powerOfTen {exponent : Nat} (small : exponent ≤ 22) :
    (Json.powerOfTen exponent).Is (10 ^ exponent * unitsPerOne) := by
  have few : 5 ^ exponent < 2 ^ 53 :=
    Nat.lt_of_le_of_lt (Nat.pow_le_pow_right (by decide) small) (by decide)
  have moved : 10 ^ exponent * 2 ^ 1074 = 5 ^ exponent * 2 ^ (exponent + 1074) := by
    rw [Nat.pow_add, ← Nat.mul_assoc, ← Nat.mul_pow]
  have ratio := ofDecimal_eq_ratio false 1 exponent
  rw [Int.toNat_natCast, Int.toNat_neg_natCast, Nat.one_mul, Nat.pow_zero] at ratio
  rw [Json.powerOfTen, ratio, unitsPerOne_eq, moved]
  exact is_ofRatio_shiftLeft few (by omega)

theorem Is.mul {left right : Double} {units otherUnits : Nat} (first : left.Is units)
    (second : right.Is (otherUnits * unitsPerOne)) :
    left.mul right = ofRatio false (units * otherUnits) 1 := by
  obtain ⟨magnitude, rfl, rfl⟩ := first
  obtain ⟨other, rfl, same⟩ := second
  have scaled := ofRatio_scale false unitsPerOne_pos (magnitude.units * otherUnits) 1
  rw [Nat.one_mul, Nat.mul_assoc] at scaled
  rw [← scaled, ← same]
  rfl

theorem Is.div {left right : Double} {units otherUnits : Nat} (first : left.Is units)
    (second : right.Is (otherUnits * unitsPerOne)) (positive : 0 < otherUnits) :
    left.div right = ofRatio false units otherUnits := by
  obtain ⟨magnitude, rfl, rfl⟩ := first
  obtain ⟨other, rfl, same⟩ := second
  have nonzero : other.units ≠ 0 := by
    rw [same]
    exact Nat.mul_ne_zero positive.ne' unitsPerOne_pos.ne'
  have scaled := ofRatio_scale false unitsPerOne_pos magnitude.units otherUnits
  rw [← scaled, ← same]
  exact if_neg nonzero

end Double

end RadarRelay.Number

namespace RadarRelay.Json

open RadarRelay.Number

/-- Digits of at most 53 bits, scaled by a power of ten with a double of its own, are the double
nearest to the decimal number. -/
theorem Scaled.toDouble?_of_small {significand : Nat} {exponent : Int} {full : Bool}
    (digits : significand < 2 ^ 53) (least : -22 ≤ exponent) (greatest : exponent ≤ 22)
    (negative : Bool) :
    Scaled.toDouble? ⟨significand, exponent, full⟩ negative =
      some (Double.ofDecimal negative significand exponent) := by
  have value := Double.is_ofInt digits
  have signed {result : Double} (same : result = Double.ofDecimal false significand exponent) :
      (if negative then result.neg else result) =
        Double.ofDecimal negative significand exponent := by
    rw [same]
    cases negative with
    | true => exact Double.neg_ofDecimal ..
    | false => rfl
  cases exponent with
  | ofNat up =>
      have few : up ≤ 22 := Int.ofNat_le.1 greatest
      have ratio := Double.ofDecimal_eq_ratio false significand up
      rw [Int.toNat_natCast, Int.toNat_neg_natCast, Nat.pow_zero] at ratio
      have product : (Double.ofInt significand).mul (powerOfTen up) =
          Double.ofDecimal false significand (Int.ofNat up) := by
        rw [value.mul (Double.is_powerOfTen few), Nat.mul_right_comm]
        exact ratio.symm
      have finite : (Double.ofDecimal false significand (Int.ofNat up)).isFinite = true :=
        Double.isFinite_ofDecimal (Nat.lt_trans digits (by decide)) (Int.ofNat_le.2 few) false
      have below : up ≤ 308 := Nat.le_trans few (by decide)
      simp only [toDouble?, product, finite, below, if_true]
      split
      · rename_i zero
        have none : significand = 0 := by
          obtain ⟨magnitude, same, units⟩ := value
          rw [same] at zero
          have none : magnitude.units = 0 := by
            simpa [Double.isZero, Double.place?, Double.signedUnits] using zero
          rw [none] at units
          exact (Nat.mul_eq_zero.1 units.symm).resolve_right unitsPerOne_pos.ne'
        subst none
        have zero : Double.ofInt 0 = Double.zero false := rfl
        exact congrArg some (signed zero)
      · exact congrArg some (signed rfl)
  | negSucc below =>
      have few : below + 1 ≤ 22 := by
        rw [Int.negSucc_eq] at least
        omega
      have ratio := Double.ofDecimal_eq_ratio false significand (Int.negSucc below)
      have up : (Int.negSucc below).toNat = 0 := rfl
      have down : (-(Int.negSucc below)).toNat = below + 1 := rfl
      rw [up, down, Nat.pow_zero, Nat.mul_one] at ratio
      have quotient : scaleDown (Double.ofInt significand) (below + 1) =
          Double.ofDecimal false significand (Int.negSucc below) := by
        rw [scaleDown, if_pos (Nat.le_trans few (by decide)),
          value.div (Double.is_powerOfTen few) (Nat.pow_pos (by decide)), ratio]
      exact congrArg some (signed quotient)

end RadarRelay.Json
