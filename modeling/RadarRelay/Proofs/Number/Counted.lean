import RadarRelay.Proofs.Number.Rounding

/-!
# Natural numbers read as doubles

A configuration reads its natural numbers as doubles, cuts them off behind the point
and moves them between the bounds. What comes out of that has a double that gives the
same number again: the whole part of a double needs no more bits than the double, and
the greatest number of 64 bits, which has no double of its own, is moved back to itself.
-/

namespace RadarRelay.Number

/-- A natural number that its nearest double gives back. -/
structure Counted (number : Nat) : Prop where
  finite : (Double.ofInt number).isFinite = true
  same : (Double.ofInt number).toIntWithin 0 nat64Max = number

theorem counted_zero : Counted 0 := ⟨by decide +kernel, by decide +kernel⟩

theorem counted_nat64Max : Counted nat64Max := ⟨by decide +kernel, by decide +kernel⟩

/-- The whole part of a double is as short as the double. -/
theorem significant_whole {units : Nat} (significant : Significant units) :
    Significant (units / unitsPerOne * unitsPerOne) := by
  unfold Significant at significant ⊢
  rw [unitsPerOne_eq, Nat.one_shiftLeft] at *
  generalize 1074 = places
  generalize kept : units / 2 ^ places * 2 ^ places = whole
  have below : whole ≤ units := kept ▸ Nat.div_mul_le_self ..
  by_cases low : whole.log2 - 52 ≤ places
  · exact Nat.dvd_trans (Nat.pow_dvd_pow 2 low) (kept ▸ Nat.dvd_mul_left ..)
  · -- The double has no bits behind the point.
    have nonzero : whole ≠ 0 := by
      rintro rfl
      exact low (by simp)
    have leading : whole.log2 ≤ units.log2 :=
      (Nat.le_log2 (by omega)).2 (Nat.le_trans (Nat.log2_self_le nonzero) below)
    have divides : 2 ^ places ∣ units :=
      Nat.dvd_trans (Nat.pow_dvd_pow 2 (by omega)) significant
    rw [Nat.div_mul_cancel divides] at kept
    rwa [← kept]

/-- The whole part of a double, if it has 64 bits, is given back. -/
theorem counted_whole (magnitude : Magnitude) (fits : magnitude.units / unitsPerOne ≤ nat64Max) :
    Counted (magnitude.units / unitsPerOne) := by
  have bounded : magnitude.units / unitsPerOne * unitsPerOne < unitsLimit :=
    Nat.lt_of_le_of_lt (Nat.div_mul_le_self ..) magnitude.bounded
  have exact := Double.ofRatio_units false
    ⟨_, significant_whole magnitude.significant, bounded⟩
  have value : Double.ofInt ((magnitude.units / unitsPerOne : Nat) : Int) =
      .finite false ⟨_, significant_whole magnitude.significant, bounded⟩ := by
    rw [← exact, Double.ofInt, Int.natAbs_natCast,
      decide_eq_false (Int.not_lt.2 (Int.natCast_nonneg _))]
  refine ⟨by rw [value]; rfl, ?_⟩
  rw [value]
  simp only [Double.toIntWithin, Nat.mul_div_cancel _ unitsPerOne_pos, Bool.false_eq_true, if_false]
  generalize magnitude.units / unitsPerOne = count at fits
  omega

/-- A number that was read as a double is given back by its own double. -/
theorem counted_toIntWithin (number : Double) :
    Counted (number.toIntWithin 0 nat64Max).toNat := by
  cases number with
  | nan => exact counted_zero
  | infinite negative =>
      cases negative with
      | true => exact counted_zero
      | false => exact counted_nat64Max
  | finite negative magnitude =>
      have whole := counted_whole magnitude
      rw [Double.toIntWithin]
      generalize magnitude.units / unitsPerOne = count at whole
      cases negative with
      | true =>
          have none : (max 0 (min (nat64Max : Int) (-count))).toNat = 0 := by omega
          exact none ▸ counted_zero
      | false =>
          by_cases fits : count ≤ nat64Max
          · have kept : (max 0 (min (nat64Max : Int) count)).toNat = count := by omega
            exact kept.symm ▸ whole fits
          · have moved : (max 0 (min (nat64Max : Int) count)).toNat = nat64Max := by omega
            exact moved.symm ▸ counted_nat64Max

end RadarRelay.Number
