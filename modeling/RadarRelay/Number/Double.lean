/-!
# Binary floating-point numbers of 64 bits

Every finite double is a whole number of *units* of 2^-1074 with at most 53
significant bits. Arithmetic on doubles is therefore exact arithmetic on
integers followed by one rounding: to the nearest number of units that has at
most 53 significant bits, and to the even neighbour when two are equally near.
Zero keeps its sign, and numbers too large to be finite become infinite.
-/

namespace RadarRelay.Number

/-- How many units make one. -/
def unitsPerOne : Nat := 1 <<< 1074

/-- The first power of two that is too large to be finite, in units. -/
def unitsLimit : Nat := 1 <<< 2098

/-- At most 53 significant bits: the bits below the leading 53 are zero. -/
def Significant (units : Nat) : Prop :=
  1 <<< (units.log2 - 52) ∣ units

/-- The absolute value of a finite double. -/
structure Magnitude where
  units : Nat
  significant : Significant units
  bounded : units < unitsLimit
  deriving DecidableEq

/-- A double; there is one value that is not a number. -/
inductive Double where
  | nan
  | infinite (negative : Bool)
  | finite (negative : Bool) (magnitude : Magnitude)
  deriving DecidableEq

/-- The nearest number of units with at most 53 significant bits, ties to the even neighbour. -/
def roundUnits (numerator denominator : Nat) : Nat :=
  let shift := (numerator / denominator).log2 - 52
  let step := denominator <<< shift
  let quotient := numerator / step
  let remainder := numerator % step
  let up := step < 2 * remainder || (2 * remainder == step && quotient % 2 == 1)
  (quotient + if up then 1 else 0) <<< shift

/-- A number below 2^53, moved up by a power of two, has at most 53 significant bits. -/
theorem significant_shiftLeft {leading : Nat} (shift : Nat) (small : leading < 1 <<< 53) :
    Significant (leading <<< shift) := by
  simp only [Significant, Nat.shiftLeft_eq, Nat.one_mul] at small ⊢
  by_cases zero : leading = 0
  · simp [zero]
  · have product : leading * 2 ^ shift ≠ 0 :=
      Nat.mul_ne_zero zero (Nat.ne_of_gt (Nat.two_pow_pos shift))
    have less : leading * 2 ^ shift < 2 ^ (53 + shift) := by
      rw [Nat.pow_add]
      exact Nat.mul_lt_mul_of_pos_right small (Nat.pow_pos (by decide))
    have bound := (Nat.log2_lt product).2 less
    exact Nat.dvd_trans (Nat.pow_dvd_pow 2 (by omega)) (Nat.dvd_mul_left _ _)

/-- The leading part kept by rounding is below 2^53. -/
theorem div_step_lt (numerator denominator : Nat) :
    numerator / denominator <<< ((numerator / denominator).log2 - 52) < 1 <<< 53 := by
  rw [Nat.shiftLeft_eq, ← Nat.div_div_eq_div_mul, Nat.shiftLeft_eq, Nat.one_mul]
  generalize numerator / denominator = whole
  have less : whole < 2 ^ (whole.log2 + 1) := Nat.lt_log2_self
  apply Nat.div_lt_of_lt_mul
  rw [← Nat.pow_add]
  exact Nat.lt_of_lt_of_le less (Nat.pow_le_pow_right (by decide) (by omega))

/-- Rounding yields at most 53 significant bits, also when it carries into a new leading bit. -/
theorem significant_roundUnits (numerator denominator : Nat) :
    Significant (roundUnits numerator denominator) := by
  have small := div_step_lt numerator denominator
  unfold roundUnits
  simp only
  generalize (numerator / denominator).log2 - 52 = shift at small ⊢
  generalize numerator / denominator <<< shift = quotient at small ⊢
  split
  · by_cases carry : quotient + 1 = 1 <<< 53
    · rw [carry, ← Nat.shiftLeft_add]
      exact significant_shiftLeft _ (by decide)
    · exact significant_shiftLeft _ (by omega)
  · exact significant_shiftLeft _ small

namespace Double

/-- The double nearest to a ratio of units. -/
def ofRatio (negative : Bool) (numerator denominator : Nat) : Double :=
  if bounded : roundUnits numerator denominator < unitsLimit then
    finite negative ⟨_, significant_roundUnits numerator denominator, bounded⟩
  else infinite negative

/-- Zero with a sign. -/
def zero (negative : Bool) : Double :=
  ofRatio negative 0 1

/-- The double nearest to an integer. -/
def ofInt (number : Int) : Double :=
  ofRatio (number < 0) (number.natAbs * unitsPerOne) 1

/-- Signed units of a finite double. -/
def signedUnits (negative : Bool) (magnitude : Magnitude) : Int :=
  if negative then -(magnitude.units : Int) else magnitude.units

/-- The place of a double on the extended line, in units; not-a-number has none. -/
def place? : Double → Option Int
  | nan => none
  | infinite negative => some (if negative then -(unitsLimit : Int) else unitsLimit)
  | finite negative magnitude => some (signedUnits negative magnitude)

/-- Numeric order: zeros of either sign are equal and not-a-number compares with nothing. -/
def compare? (left right : Double) : Option Ordering := do
  return compare (← left.place?) (← right.place?)

/-- Numeric equality, under which not-a-number differs from itself. -/
def same (left right : Double) : Bool :=
  left.compare? right == some .eq

/-- Whether a double is a zero of either sign. -/
def isZero (number : Double) : Bool :=
  number.place? == some 0

def isFinite : Double → Bool
  | finite _ _ => true
  | _ => false

def neg : Double → Double
  | nan => nan
  | infinite negative => infinite !negative
  | finite negative magnitude => finite (!negative) magnitude

/-- Sum; an exact zero is negative only when both summands are. -/
def add : Double → Double → Double
  | nan, _ => nan
  | _, nan => nan
  | infinite left, infinite right => if left = right then infinite left else nan
  | infinite left, finite _ _ => infinite left
  | finite _ _, infinite right => infinite right
  | finite left leftMagnitude, finite right rightMagnitude =>
      let total := signedUnits left leftMagnitude + signedUnits right rightMagnitude
      if total = 0 then zero (left && right)
      else ofRatio (total < 0) total.natAbs 1

def sub (left right : Double) : Double :=
  left.add right.neg

def mul : Double → Double → Double
  | nan, _ => nan
  | _, nan => nan
  | infinite left, infinite right => infinite (left != right)
  | infinite left, finite right magnitude =>
      if magnitude.units = 0 then nan else infinite (left != right)
  | finite left magnitude, infinite right =>
      if magnitude.units = 0 then nan else infinite (left != right)
  | finite left leftMagnitude, finite right rightMagnitude =>
      ofRatio (left != right) (leftMagnitude.units * rightMagnitude.units) unitsPerOne

def div : Double → Double → Double
  | nan, _ => nan
  | _, nan => nan
  | infinite _, infinite _ => nan
  | infinite left, finite right _ => infinite (left != right)
  | finite left _, infinite right => zero (left != right)
  | finite left leftMagnitude, finite right rightMagnitude =>
      if rightMagnitude.units = 0 then
        if leftMagnitude.units = 0 then nan else infinite (left != right)
      else ofRatio (left != right) (leftMagnitude.units * unitsPerOne) rightMagnitude.units

/-- Drops the fraction and keeps the sign, also of a result of zero. -/
def trunc : Double → Double
  | finite negative magnitude =>
      ofRatio negative (magnitude.units / unitsPerOne * unitsPerOne) 1
  | number => number

/-- The integer toward zero, moved into an interval; not-a-number gives zero. -/
def toIntWithin (low high : Int) : Double → Int
  | nan => 0
  | infinite negative => if negative then low else high
  | finite negative magnitude =>
      let whole : Int := (magnitude.units / unitsPerOne : Nat)
      max low (min high (if negative then -whole else whole))

/-- The double nearest to `coefficient * 10 ^ exponent`. The first two branches give what the
last two would give without computing enormous powers. -/
def ofDecimal (negative : Bool) (coefficient : Nat) (exponent : Int) : Double :=
  if coefficient = 0 then zero negative
  else
    match exponent with
    | .ofNat up =>
        if 310 < up then infinite negative
        else ofRatio negative (coefficient * Nat.pow 10 up * unitsPerOne) 1
    | .negSucc below =>
        let down := below + 1
        if coefficient.log2 + 1101 < 3 * down then zero negative
        else ofRatio negative (coefficient * unitsPerOne) (Nat.pow 10 down)

@[simp] theorem neg_neg (number : Double) : number.neg.neg = number := by
  cases number <;> simp [neg]

/-- Comparing the other way round swaps less and greater. -/
theorem compare?_swap (left right : Double) :
    right.compare? left = (left.compare? right).map Ordering.swap := by
  unfold compare?
  cases left.place? <;> cases right.place? <;> simp [Int.compare_swap]

end Double

end RadarRelay.Number
