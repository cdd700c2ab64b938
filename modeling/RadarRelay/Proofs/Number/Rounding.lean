import Mathlib.Tactic.NormNum
import RadarRelay.Number.DoubleText

/-!
# Rounding ratios and decimal numbers

Rounding depends on a ratio and not on how it is written, and it leaves alone what
already has few enough bits. The shortcuts of `Double.ofDecimal` agree with the ratio
that they spare, so a decimal number may be scaled by powers of ten, and the shortest
decimal number of a double reads back as the double, even where the search for it ends
with the exact value.
-/

namespace RadarRelay.Number

theorem unitsPerOne_eq : unitsPerOne = 2 ^ 1074 := by
  rw [unitsPerOne, Nat.one_shiftLeft]

theorem unitsLimit_eq : unitsLimit = 2 ^ 2098 := by
  rw [unitsLimit, Nat.one_shiftLeft]

theorem unitsPerOne_pos : 0 < unitsPerOne :=
  Nat.lt_of_lt_of_eq (Nat.two_pow_pos 1074) unitsPerOne_eq.symm

theorem unitsLimit_pos : 0 < unitsLimit :=
  Nat.lt_of_lt_of_eq (Nat.two_pow_pos 2098) unitsLimit_eq.symm

/-- A ratio is rounded as before when both sides are scaled. -/
theorem roundUnits_scale {factor : Nat} (positive : 0 < factor) (numerator denominator : Nat) :
    roundUnits (numerator * factor) (denominator * factor) = roundUnits numerator denominator := by
  have step (shift : Nat) : (denominator * factor) <<< shift = denominator <<< shift * factor := by
    rw [Nat.shiftLeft_eq, Nat.shiftLeft_eq, Nat.mul_right_comm]
  have twice (remainder : Nat) : 2 * (remainder * factor) = 2 * remainder * factor :=
    (Nat.mul_assoc ..).symm
  unfold roundUnits
  simp only [Nat.mul_div_mul_right _ _ positive, step, Nat.mul_mod_mul_right, twice,
    Nat.mul_lt_mul_right positive, Nat.mul_right_cancel_iff positive, Bool.beq_eq_decide_eq]

/-- What has at most 53 significant bits is not rounded. -/
theorem roundUnits_of_significant {units : Nat} (significant : Significant units) :
    roundUnits units 1 = units := by
  unfold Significant at significant
  unfold roundUnits
  simp only [Nat.div_one]
  generalize units.log2 - 52 = shift at significant ⊢
  have rest : units % 1 <<< shift = 0 := Nat.mod_eq_zero_of_dvd significant
  have step : 0 < 1 <<< shift := by simp [Nat.shiftLeft_eq]
  have up : (decide (1 <<< shift < 2 * 0) ||
      2 * 0 == 1 <<< shift && units / 1 <<< shift % 2 == 1) = false := by
    simp only [Nat.mul_zero, Nat.not_lt_zero, decide_false, Bool.false_or, Bool.and_eq_false_imp,
      beq_iff_eq]
    omega
  rw [rest, up]
  simp only [Bool.false_eq_true, if_false, Nat.add_zero, Nat.shiftLeft_eq, Nat.one_mul] at *
  exact Nat.div_mul_cancel significant

/-- Rounding does not fall below a power of two. -/
theorem two_pow_le_roundUnits {exponent units : Nat} (above : 2 ^ exponent ≤ units) :
    2 ^ exponent ≤ roundUnits units 1 := by
  have positive : units ≠ 0 := by
    have := Nat.two_pow_pos exponent
    omega
  have leading : exponent ≤ units.log2 := (Nat.le_log2 positive).2 above
  unfold roundUnits
  simp only [Nat.div_one, Nat.shiftLeft_eq, Nat.one_mul]
  have kept : 2 ^ units.log2 / 2 ^ (units.log2 - 52) * 2 ^ (units.log2 - 52) = 2 ^ units.log2 :=
    Nat.div_mul_cancel (Nat.pow_dvd_pow 2 (Nat.sub_le ..))
  calc 2 ^ exponent ≤ 2 ^ units.log2 := Nat.pow_le_pow_right (by decide) leading
    _ = 2 ^ units.log2 / 2 ^ (units.log2 - 52) * 2 ^ (units.log2 - 52) := kept.symm
    _ ≤ units / 2 ^ (units.log2 - 52) * 2 ^ (units.log2 - 52) :=
        Nat.mul_le_mul_right _ (Nat.div_le_div_right (Nat.log2_self_le positive))
    _ ≤ _ := Nat.mul_le_mul_right _ (Nat.le_add_right ..)

/-- What is below half a unit is rounded to nothing. -/
theorem roundUnits_of_small {numerator denominator : Nat} (small : 2 * numerator < denominator) :
    roundUnits numerator denominator = 0 := by
  have whole : numerator / denominator = 0 := Nat.div_eq_of_lt (by omega)
  have rest : numerator % denominator = numerator := Nat.mod_eq_of_lt (by omega)
  have up : ¬ denominator < 2 * numerator := by omega
  simp [roundUnits, whole, rest, up]

namespace Double

/-- Ratios that are rounded to the same units are the same double. -/
theorem ofRatio_congr (negative : Bool) {numerator denominator otherNumerator otherDenominator : Nat}
    (same : roundUnits numerator denominator = roundUnits otherNumerator otherDenominator) :
    ofRatio negative numerator denominator = ofRatio negative otherNumerator otherDenominator := by
  unfold ofRatio
  simp only [same]

theorem ofRatio_scale (negative : Bool) {factor : Nat} (positive : 0 < factor)
    (numerator denominator : Nat) :
    ofRatio negative (numerator * factor) (denominator * factor) =
      ofRatio negative numerator denominator :=
  ofRatio_congr negative (roundUnits_scale positive numerator denominator)

/-- The units of a finite double are that double. -/
@[simp] theorem ofRatio_units (negative : Bool) (magnitude : Magnitude) :
    ofRatio negative magnitude.units 1 = finite negative magnitude := by
  have exact := roundUnits_of_significant magnitude.significant
  unfold ofRatio
  simp only [exact, magnitude.bounded, dif_pos]

/-- A sign does not matter to rounding. -/
theorem ofRatio_eq_finite {numerator denominator : Nat} {magnitude : Magnitude}
    (nearest : ofRatio false numerator denominator = finite false magnitude) (negative : Bool) :
    ofRatio negative numerator denominator = finite negative magnitude := by
  unfold ofRatio at nearest ⊢
  split at nearest
  · rename_i bounded
    cases nearest
    rw [dif_pos bounded]
  · cases nearest

theorem ofRatio_of_small (negative : Bool) {numerator denominator : Nat}
    (small : 2 * numerator < denominator) : ofRatio negative numerator denominator = zero negative :=
  ofRatio_congr negative ((roundUnits_of_small small).trans (by decide))

theorem ofRatio_of_large (negative : Bool) {units : Nat} (large : unitsLimit ≤ units) :
    ofRatio negative units 1 = infinite negative := by
  have rounded : ¬ roundUnits units 1 < unitsLimit := by
    rw [unitsLimit_eq] at large ⊢
    exact Nat.not_lt.2 (two_pow_le_roundUnits large)
  rw [ofRatio, dif_neg rounded]

/-- With an exponent this large a decimal number is past every double. -/
theorem unitsLimit_le_of_huge {coefficient up : Nat} (positive : coefficient ≠ 0)
    (huge : 310 < up) : unitsLimit ≤ coefficient * 10 ^ up * unitsPerOne := by
  have limit : unitsLimit = 1 * 2 ^ 1024 * 2 ^ 1074 := by
    rw [unitsLimit_eq, Nat.one_mul, ← Nat.pow_add]
  rw [limit, unitsPerOne_eq]
  refine Nat.mul_le_mul_right _ (Nat.mul_le_mul (by omega) ?_)
  calc 2 ^ 1024 ≤ 10 ^ 311 := by decide +kernel
    _ ≤ 10 ^ up := Nat.pow_le_pow_right (by decide) huge

/-- With an exponent this small a decimal number is below half of the smallest double. -/
theorem two_mul_lt_of_tiny {coefficient down : Nat} (tiny : coefficient.log2 + 1101 < 3 * down) :
    2 * (coefficient * unitsPerOne) < 10 ^ down := by
  obtain ⟨places, unit, few⟩ : ∃ places, unitsPerOne = 2 ^ places ∧ places ≤ 1074 :=
    ⟨1074, unitsPerOne_eq, Nat.le_refl _⟩
  rw [unit]
  calc 2 * (coefficient * 2 ^ places)
      < 2 * (2 ^ (coefficient.log2 + 1) * 2 ^ places) :=
        Nat.mul_lt_mul_of_pos_left
          (Nat.mul_lt_mul_of_pos_right Nat.lt_log2_self (Nat.two_pow_pos _)) (by decide)
    _ = 2 ^ (coefficient.log2 + 1 + places + 1) := by
        rw [← Nat.pow_add, ← Nat.pow_succ']
    _ ≤ 2 ^ (3 * down) := Nat.pow_le_pow_right (by decide) (by omega)
    _ = 8 ^ down := by rw [Nat.pow_mul]
    _ ≤ 10 ^ down := Nat.pow_le_pow_left (by decide) _

/-- A decimal number is the double nearest to a ratio, however large or small it is. -/
theorem ofDecimal_eq_ofRatio (negative : Bool) {coefficient : Nat} (positive : coefficient ≠ 0)
    (exponent : Int) :
    ofDecimal negative coefficient exponent =
      ofRatio negative (coefficient * 10 ^ exponent.toNat * unitsPerOne)
        (10 ^ (-exponent).toNat) := by
  unfold ofDecimal
  rw [if_neg positive]
  cases exponent with
  | ofNat up =>
      have none : (-(Int.ofNat up)).toNat = 0 := Int.toNat_neg_natCast up
      rw [none]
      show (if 310 < up then _ else _) = _
      split
      · rename_i huge
        exact (ofRatio_of_large negative (unitsLimit_le_of_huge positive huge)).symm
      · rfl
  | negSucc below =>
      have up : (Int.negSucc below).toNat = 0 := rfl
      have down : (-(Int.negSucc below)).toNat = below + 1 := rfl
      rw [up, down, Nat.pow_zero, Nat.mul_one]
      show (if _ < 3 * (below + 1) then _ else _) = _
      split
      · rename_i tiny
        exact (ofRatio_of_small negative (two_mul_lt_of_tiny tiny)).symm
      · rfl

/-- The sign of a decimal number is that of its double. -/
theorem ofDecimal_eq_finite {coefficient : Nat} {exponent : Int} {magnitude : Magnitude}
    (positive : coefficient ≠ 0)
    (nearest : ofDecimal false coefficient exponent = finite false magnitude) (negative : Bool) :
    ofDecimal negative coefficient exponent = finite negative magnitude := by
  rw [ofDecimal_eq_ofRatio _ positive] at nearest ⊢
  exact ofRatio_eq_finite nearest negative

/-- A power of ten may stand in the coefficient or in the exponent. -/
theorem ofDecimal_scale (negative : Bool) (coefficient places : Nat) (exponent : Int) :
    ofDecimal negative (coefficient * 10 ^ places) exponent =
      ofDecimal negative coefficient (exponent + places) := by
  by_cases none : coefficient = 0
  · simp [ofDecimal, none]
  have power (places : Nat) : 0 < 10 ^ places := Nat.pow_pos (by decide)
  have scaled : coefficient * 10 ^ places ≠ 0 := Nat.mul_ne_zero none (power places).ne'
  rw [ofDecimal_eq_ofRatio _ scaled, ofDecimal_eq_ofRatio _ none]
  -- Of the two exponents on either side one is zero, and both sides are the same ratio over a
  -- common power of ten.
  rw [← ofRatio_scale negative (power (-(exponent + places)).toNat),
    ← ofRatio_scale negative (power (-exponent).toNat) _ (10 ^ (-(exponent + places)).toNat),
    Nat.mul_comm (10 ^ (-exponent).toNat)]
  generalize unitsPerOne = unit
  congr 1
  have balance : places + exponent.toNat + (-(exponent + places)).toNat =
      (exponent + places).toNat + (-exponent).toNat := by omega
  calc coefficient * 10 ^ places * 10 ^ exponent.toNat * unit *
        10 ^ (-(exponent + places)).toNat
      = coefficient * unit *
          10 ^ (places + exponent.toNat + (-(exponent + places)).toNat) := by
        rw [Nat.pow_add, Nat.pow_add]
        ac_rfl
    _ = coefficient * 10 ^ (exponent + places).toNat * unit * 10 ^ (-exponent).toNat := by
        rw [balance, Nat.pow_add]
        ac_rfl

end Double

namespace Decimal

/-- Moving zeros into the exponent does not change the number. -/
theorem toDouble_strip (negative : Bool) (coefficient : Nat) (exponent : Int) :
    (strip coefficient exponent).toDouble negative =
      Double.ofDecimal negative coefficient exponent := by
  fun_induction strip coefficient exponent with
  | case1 coefficient exponent divisible ih =>
      have tens : coefficient / 10 * 10 ^ 1 = coefficient := by omega
      rw [ih, ← Nat.cast_one, ← Double.ofDecimal_scale, tens]
  | case2 => rfl

/-- A double is a decimal number with as many places as a unit has. -/
theorem ofDecimal_units (magnitude : Magnitude) {places : Nat} (unit : unitsPerOne = 2 ^ places) :
    Double.ofDecimal false (magnitude.units * 5 ^ places) (-places) = .finite false magnitude := by
  by_cases none : magnitude.units = 0
  · rw [← Double.ofRatio_units, none, Nat.zero_mul]
    rfl
  have up : (-(places : Int)).toNat = 0 := Int.toNat_neg_natCast places
  have down : (-(-(places : Int))).toNat = places := by omega
  have scaled := Double.ofRatio_scale false (Nat.pow_pos (by decide) : 0 < 10 ^ places)
    magnitude.units 1
  rw [Double.ofDecimal_eq_ofRatio _ (Nat.mul_ne_zero none (Nat.pow_pos (by decide)).ne'), up, down,
    Nat.pow_zero, Nat.mul_one, unit, Nat.mul_assoc, ← Nat.mul_pow]
  rwa [Nat.one_mul, Double.ofRatio_units] at scaled

/-- The exact value of a double reads back. -/
theorem toDouble_exact (magnitude : Magnitude) :
    (exact magnitude).toDouble false = .finite false magnitude :=
  (toDouble_strip ..).trans (ofDecimal_units magnitude unitsPerOne_eq)

/-- The shortest decimal number of a double reads back as the double. -/
theorem toDouble_shortest (tie : Tie) (magnitude : Magnitude) :
    (shortest tie magnitude).toDouble false = .finite false magnitude := by
  unfold shortest
  dsimp only
  split
  · rename_i decimal first
    obtain ⟨exponent, _, candidate⟩ := List.mem_flatMap.1 (List.mem_of_head? first)
    exact toDouble_of_mem_neighbours candidate
  · exact toDouble_exact magnitude

end Decimal

end RadarRelay.Number
