import RadarRelay.Proofs.Calendar.Shifting
import RadarRelay.Proofs.Filter.Meaning
import Mathlib.Data.List.Forall2

/-!
# Exact arithmetic in expressions

Sums, differences, products and quotients of integers, dates, moments and
intervals have an exact result on unlimited scales. An expression of arithmetic
evaluates to nothing else, at any depth, and it does evaluate whenever the
results on the way are within the limits of their kinds. Multiples of intervals
alone may pass the limit that sums keep; as long as they do not, every interval
is a safe operand again and no computation stops the program.
-/

namespace RadarRelay

open RadarRelay.Number RadarRelay.Calendar

def Operator.isArithmetic : Operator → Bool
  | add | sub | mul | div => true
  | _ => false

theorem Operator.strict_of_isArithmetic {operator : Operator}
    (arithmetic : operator.isArithmetic = true) : operator.strict = true := by
  cases operator with
  | and | or | not => cases arithmetic
  | _ => rfl

/-! ## Quantities -/

/-- What arithmetic is about, without limits. Instants and lengths count nanoseconds. -/
inductive Quantity where
  | number (count : Int)
  | day (number : Int)
  | instant (position : Int)
  | length (extent : Int)

namespace Quantity

/-- The exact result of an operator, where it has one. A day is moved by the whole days of a
length, a length is multiplied by numbers of 32 bits, and a quotient loses its fraction. -/
def combine : Operator → Quantity → Quantity → Option Quantity
  | .add, number a, number b => some (number (a + b))
  | .add, day a, length b | .add, length b, day a => some (day (a + b.tdiv nanosPerDay))
  | .add, instant a, length b | .add, length b, instant a => some (instant (a + b))
  | .add, length a, length b => some (length (a + b))
  | .sub, number a, number b => some (number (a - b))
  | .sub, day a, length b => some (day (a - b.tdiv nanosPerDay))
  | .sub, instant a, length b => some (instant (a - b))
  | .sub, day a, day b => some (length ((a - b) * nanosPerDay))
  | .sub, instant a, instant b => some (length (a - b))
  | .sub, length a, length b => some (length (a - b))
  | .mul, number a, number b => some (number (a * b))
  | .mul, length a, number b | .mul, number b, length a =>
      if fitsInt32 b then some (length (a * b)) else none
  | .div, number a, number b => if b = 0 then none else some (number (a.tdiv b))
  | _, _, _ => none

theorem isArithmetic_of_combine {operator : Operator} {a b c : Quantity}
    (exact : combine operator a b = some c) : operator.isArithmetic = true := by
  cases operator with
  | add | sub | mul | div => rfl
  | _ => cases exact

/-- Whether a quantity, if it is a length, is within the limit of sums. -/
def Safe : Quantity → Prop
  | length extent => (Interval.mk extent).Bounded
  | _ => True

end Quantity

/-- What a scalar of arithmetic stands for: an integer of 64 bits, a date, a moment outside of leap
seconds, or an interval. -/
inductive Value.Measures : Value → Quantity → Prop
  | int {number : Int} (fits : fitsInt64 number = true) : Measures (.int number) (.number number)
  | date (date : Date) : Measures (.date date) (.day date.dayNumber)
  | moment {moment : Moment} (plain : moment.time.Plain) :
      Measures (.moment moment) (.instant moment.instant)
  | interval {interval : Interval} (wide : interval.Wide) :
      Measures (.interval interval) (.length interval.nanoseconds)

/-- Whether some value stands for a quantity, and is a safe operand. -/
def Quantity.Available (quantity : Quantity) : Prop :=
  quantity.Safe ∧ ∃ value : Value, value.Measures quantity

theorem Quantity.Available.of_measures {value : Value} {quantity : Quantity}
    (measures : value.Measures quantity) (safe : quantity.Safe) : quantity.Available :=
  ⟨safe, value, measures⟩

theorem Quantity.Available.of_bounded {extent : Int} (bounded : (Interval.mk extent).Bounded) :
    Quantity.Available (.length extent) :=
  .of_measures (.interval bounded.wide) bounded

namespace Value

variable {value left right : Value} {a b : Quantity} {operator : Operator}

theorem Measures.single (measures : value.Measures a) : value.single = .ok value := by
  cases measures <;> rfl

theorem measures_number_iff {number : Int} :
    value.Measures (.number number) ↔ fitsInt64 number = true ∧ int number = value :=
  ⟨fun | .int fits => ⟨fits, rfl⟩, fun | ⟨fits, rfl⟩ => .int fits⟩

theorem measures_day_iff {number : Int} :
    value.Measures (.day number) ↔
      ∃ day, Date.ofDayNumber? number = some day ∧ date day = value := by
  simp only [Date.ofDayNumber?_eq_some_iff]
  exact ⟨fun | .date day => ⟨day, rfl, rfl⟩, fun ⟨day, at_, same⟩ => at_ ▸ same ▸ .date day⟩

theorem measures_instant_iff {position : Int} :
    value.Measures (.instant position) ↔
      ∃ found, Moment.ofInstant? position = some found ∧ moment found = value := by
  simp only [Moment.ofInstant?_eq_some_iff]
  exact ⟨fun | .moment plain => ⟨_, ⟨plain, rfl⟩, rfl⟩,
    fun ⟨_, ⟨plain, at_⟩, same⟩ => at_ ▸ same ▸ .moment plain⟩

theorem measures_length_iff {extent : Int} :
    value.Measures (.length extent) ↔
      (Interval.mk extent).Wide ∧ interval ⟨extent⟩ = value :=
  ⟨fun | .interval wide => ⟨wide, rfl⟩, fun ⟨wide, same⟩ => same ▸ .interval wide⟩

theorem measures_safe_length_iff {extent : Int} :
    value.Measures (.length extent) ∧ Quantity.Safe (.length extent) ↔
      ∃ found, Interval.ofNanoseconds? extent = some found ∧ interval found = value := by
  simp only [Interval.ofNanoseconds?_eq_some_iff, measures_length_iff]
  constructor
  · rintro ⟨⟨-, rfl⟩, safe⟩
    exact ⟨_, ⟨rfl, safe⟩, rfl⟩
  · rintro ⟨found, ⟨rfl, bounded⟩, rfl⟩
    exact ⟨⟨bounded.wide, rfl⟩, bounded⟩

/-! ## One operation -/

/-- What is said of an outcome of an operator with an exact result: unless it stops the program,
which safe operands rule out, it is the value of that result, if there is one. -/
structure Settles (operator : Operator) (exact : Option Quantity) (safe : Prop)
    (outcome : Evaluated Value) : Prop where
  eq_ok_iff : outcome = .error .crash ∨ ∀ value, outcome = .ok value ↔
    ∃ result, exact = some result ∧ value.Measures result ∧ (operator ≠ .mul → result.Safe)
  calm : safe → outcome ≠ .error .crash

variable {safe : Prop}

theorem Settles.of_eq_ok {exact : Option Quantity} {outcome : Evaluated Value}
    (settles : Settles operator exact safe outcome) (found : outcome = .ok value) :
    ∃ result, exact = some result ∧ value.Measures result ∧ (operator ≠ .mul → result.Safe) := by
  rcases settles.eq_ok_iff with crashed | iff
  · cases found.symm.trans crashed
  · exact (iff value).1 found

theorem Settles.eq_ok_iff_of_safe {exact : Option Quantity} {outcome : Evaluated Value}
    (settles : Settles operator exact safe outcome) (isSafe : safe) :
    outcome = .ok value ↔
      ∃ result, exact = some result ∧ value.Measures result ∧ (operator ≠ .mul → result.Safe) :=
  (settles.eq_ok_iff.resolve_left (settles.calm isSafe)) value

theorem settles_of_no_result {fault : EvaluationFault} (error : fault ≠ .crash) :
    Settles operator none safe (.error fault) where
  eq_ok_iff := .inr fun _ => ⟨nofun, nofun⟩
  calm _ same := error (Except.error.inj same)

theorem settles_checked (operator : Operator) (number : Int) :
    Settles operator (some (.number number)) safe (checked operator number) := by
  unfold checked
  split <;> rename_i fits <;> refine ⟨.inr fun value => ?_, fun _ => nofun⟩ <;>
    simp [measures_number_iff, fits, Quantity.Safe]

theorem ofCalendar_eq_ok_iff {α : Type} {view : α → Value} {computed : Except Fault α} :
    ofCalendar operator view computed = .ok value ↔
      ∃ found, computed = .ok found ∧ view found = value := by
  match computed with
  | .ok found => simp [ofCalendar]
  | .error .overflow => simp [ofCalendar]
  | .error .secondsOverflow => simp [ofCalendar]

theorem ofCalendar_eq_crash_iff {α : Type} {view : α → Value} {computed : Except Fault α} :
    ofCalendar operator view computed = .error .crash ↔ computed = .error .secondsOverflow := by
  match computed with
  | .ok _ => simp [ofCalendar]
  | .error .overflow => simp [ofCalendar]
  | .error .secondsOverflow => simp [ofCalendar]

/-- A calendar computation gives the exact result when its successes are the values that stand for
that. -/
theorem settles_ofCalendar {α : Type} {view : α → Value} {computed : Except Fault α}
    {found : Option α} {result : Quantity}
    (cases : computed = .error .secondsOverflow ∨ computed = orOverflow found)
    (calm : safe → computed ≠ .error .secondsOverflow)
    (stands : ∀ value, value.Measures result ∧ (operator ≠ .mul → result.Safe) ↔
      ∃ place, found = some place ∧ view place = value) :
    Settles operator (some result) safe (ofCalendar operator view computed) where
  eq_ok_iff := by
    refine cases.imp ofCalendar_eq_crash_iff.2 fun settled value => ?_
    simp only [ofCalendar_eq_ok_iff, Option.some.injEq, exists_eq_left', stands, settled,
      orOverflow_eq_ok_iff]
  calm isSafe crashed := calm isSafe (ofCalendar_eq_crash_iff.1 crashed)

theorem settles_day (number : Int) :
    Settles operator (some (.day number)) safe
      (ofCalendar operator date (orOverflow (Date.ofDayNumber? number))) :=
  settles_ofCalendar (.inr rfl) (fun _ => orOverflow_ne_secondsOverflow _) fun value => by
    simp only [measures_day_iff, Quantity.Safe, implies_true, and_true]

theorem settles_instant {position : Int} {computed : Except Fault Moment}
    (cases : computed = .error .secondsOverflow ∨
      computed = orOverflow (Moment.ofInstant? position))
    (calm : safe → computed ≠ .error .secondsOverflow) :
    Settles operator (some (.instant position)) safe (ofCalendar operator moment computed) :=
  settles_ofCalendar cases calm fun value => by
    simp only [measures_instant_iff, Quantity.Safe, implies_true, and_true]

theorem settles_length {extent : Int} {computed : Except Fault Interval}
    (bounded : operator ≠ .mul)
    (cases : computed = .error .secondsOverflow ∨
      computed = orOverflow (Interval.ofNanoseconds? extent))
    (calm : safe → computed ≠ .error .secondsOverflow) :
    Settles operator (some (.length extent)) safe (ofCalendar operator interval computed) :=
  settles_ofCalendar cases calm fun value => by
    simp only [← measures_safe_length_iff, bounded, ne_eq, not_false_eq_true, forall_const]

theorem settles_addInterval (day : Date) (span : Interval) :
    Settles operator (some (.day (day.dayNumber + span.nanoseconds.tdiv nanosPerDay))) safe
      (ofCalendar operator date (day.addInterval span)) := by
  rw [← Interval.wholeDays_eq_tdiv]
  exact settles_day _

theorem settles_subInterval (day : Date) (span : Interval) :
    Settles operator (some (.day (day.dayNumber - span.nanoseconds.tdiv nanosPerDay))) safe
      (ofCalendar operator date (day.subInterval span)) := by
  rw [← Interval.wholeDays_eq_tdiv, Int.sub_eq_add_neg]
  exact settles_day _

/-- A distance between two places of a scale. -/
theorem settles_distance {distance : Interval} {extent : Int} (exact : distance = ⟨extent⟩)
    (bounded : distance.Bounded) :
    Settles operator (some (.length extent)) safe (.ok (interval distance)) := by
  subst exact
  refine ⟨.inr fun value => ?_, fun _ => nofun⟩
  simp only [Except.ok.injEq, Option.some.injEq, exists_eq_left', measures_length_iff,
    bounded.wide, true_and]
  exact ⟨fun same => ⟨same, fun _ => bounded⟩, And.left⟩

theorem settles_mul (span : Interval) (factor : Int) :
    Settles .mul (if fitsInt32 factor then some (.length (span.nanoseconds * factor)) else none)
      safe (ofCalendar .mul interval (span.mul factor)) where
  eq_ok_iff := .inr fun value => by
    simp only [ofCalendar_eq_ok_iff, Interval.mul_eq_ok_iff]
    split <;> rename_i fits
    · simp only [fits, true_and, Option.some.injEq, exists_eq_left', measures_length_iff, ne_eq,
        not_true_eq_false, false_implies, and_true]
      constructor
      · rintro ⟨product, ⟨same, wide⟩, rfl⟩
        rw [← same]
        exact ⟨wide, rfl⟩
      · rintro ⟨wide, rfl⟩
        exact ⟨_, ⟨rfl, wide⟩, rfl⟩
    · simp [fits]
  calm _ crashed := Interval.mul_ne_secondsOverflow span factor (ofCalendar_eq_crash_iff.1 crashed)

theorem add_settles (leftMeasures : left.Measures a) (rightMeasures : right.Measures b) :
    Settles .add (Quantity.combine .add a b) (a.Safe ∧ b.Safe) (add left right) := by
  cases leftMeasures with
  | int _ =>
      cases rightMeasures with
      | int _ => exact settles_checked _ _
      | _ => exact settles_of_no_result nofun
  | date day =>
      cases rightMeasures with
      | interval _ => exact settles_addInterval day _
      | _ => exact settles_of_no_result nofun
  | moment plain =>
      cases rightMeasures with
      | interval _ =>
          exact settles_instant (Moment.addInterval_cases plain _)
            fun safe => Moment.addInterval_ne_secondsOverflow plain safe.2
      | _ => exact settles_of_no_result nofun
  | interval _ =>
      cases rightMeasures with
      | int _ => exact settles_of_no_result nofun
      | date day => exact settles_addInterval day _
      | moment plain =>
          exact settles_instant (Moment.addInterval_cases plain _)
            fun safe => Moment.addInterval_ne_secondsOverflow plain safe.1
      | interval _ =>
          exact settles_length nofun (Interval.add_cases _ _)
            fun safe => Interval.add_ne_secondsOverflow safe.1 safe.2

theorem sub_settles (leftMeasures : left.Measures a) (rightMeasures : right.Measures b) :
    Settles .sub (Quantity.combine .sub a b) (a.Safe ∧ b.Safe) (sub left right) := by
  cases leftMeasures with
  | int _ =>
      cases rightMeasures with
      | int _ => exact settles_checked _ _
      | _ => exact settles_of_no_result nofun
  | date day =>
      cases rightMeasures with
      | date earlier =>
          exact settles_distance (day.since_eq earlier) (day.since_bounded earlier)
      | interval _ => exact settles_subInterval day _
      | _ => exact settles_of_no_result nofun
  | moment plain =>
      cases rightMeasures with
      | moment earlierPlain =>
          exact settles_distance (Moment.since_eq plain earlierPlain)
            (Moment.since_bounded plain earlierPlain)
      | interval _ =>
          exact settles_instant (Moment.subInterval_cases plain _)
            fun safe => Moment.subInterval_ne_secondsOverflow plain safe.2
      | _ => exact settles_of_no_result nofun
  | interval _ =>
      cases rightMeasures with
      | interval _ =>
          exact settles_length nofun (Interval.sub_cases _ _)
            fun safe => Interval.sub_ne_secondsOverflow safe.1 safe.2
      | _ => exact settles_of_no_result nofun

theorem mul_settles (leftMeasures : left.Measures a) (rightMeasures : right.Measures b) :
    Settles .mul (Quantity.combine .mul a b) (a.Safe ∧ b.Safe) (mul left right) := by
  cases leftMeasures with
  | int _ =>
      cases rightMeasures with
      | int _ => exact settles_checked _ _
      | interval _ => exact settles_mul _ _
      | _ => exact settles_of_no_result nofun
  | interval _ =>
      cases rightMeasures with
      | int _ => exact settles_mul _ _
      | _ => exact settles_of_no_result nofun
  | _ => cases rightMeasures <;> exact settles_of_no_result nofun

theorem div_settles (leftMeasures : left.Measures a) (rightMeasures : right.Measures b) :
    Settles .div (Quantity.combine .div a b) (a.Safe ∧ b.Safe) (div left right) := by
  cases leftMeasures with
  | int _ =>
      cases rightMeasures with
      | @int divisor _ =>
          simp only [div, Quantity.combine]
          split
          · exact settles_of_no_result nofun
          · exact settles_checked _ _
      | _ => exact settles_of_no_result nofun
  | _ => cases rightMeasures <;> exact settles_of_no_result nofun

theorem combine_settles (arithmetic : operator.isArithmetic = true)
    (leftMeasures : left.Measures a) (rightMeasures : right.Measures b) :
    Settles operator (Quantity.combine operator a b) (a.Safe ∧ b.Safe)
      (combine operator left right) := by
  cases operator with
  | add =>
      rw [combine, leftMeasures.single, rightMeasures.single]
      exact add_settles leftMeasures rightMeasures
  | sub =>
      rw [combine, leftMeasures.single, rightMeasures.single]
      exact sub_settles leftMeasures rightMeasures
  | mul =>
      rw [combine, leftMeasures.single, rightMeasures.single]
      exact mul_settles leftMeasures rightMeasures
  | div =>
      rw [combine, leftMeasures.single, rightMeasures.single]
      exact div_settles leftMeasures rightMeasures
  | _ => cases arithmetic

/-- Arithmetic takes two operands. -/
theorem apply_arithmetic (arithmetic : operator.isArithmetic = true) (operands : List Value) :
    apply operator operands = match operands with
      | [left, right] => combine operator left right
      | _ => .error (.operandCount operator .two operands.length) := by
  cases operator with
  | add | sub | mul | div => rfl
  | _ => cases arithmetic

end Value

/-! ## Whole expressions -/

namespace Expression

/-- Whether an expression stands inside another one, or is it. -/
inductive PartOf : Expression → Expression → Prop
  | self (expression : Expression) : PartOf expression expression
  | operand {part operand : Expression} {operator : Operator} {operands : List Expression}
      (member : operand ∈ operands) (inside : PartOf part operand) :
      PartOf part (call operator operands)

/-- Expressions of arithmetic over safe literals. -/
inductive Arithmetic : Expression → Prop
  | literal {value : Value} {quantity : Quantity} (measures : value.Measures quantity)
      (safe : quantity.Safe) : Arithmetic (literal value)
  | call {operator : Operator} {operands : List Expression}
      (arithmetic : operator.isArithmetic = true)
      (each : ∀ operand ∈ operands, Arithmetic operand) : Arithmetic (call operator operands)

/-- The exact result of an expression, all results on the way being of an allowed kind. -/
inductive Exact (allowed : Quantity → Prop) : Expression → Quantity → Prop
  | literal {value : Value} {quantity : Quantity} (measures : value.Measures quantity)
      (isAllowed : allowed quantity) : Exact allowed (literal value) quantity
  | call {operator : Operator} {left right : Expression} {a b result : Quantity}
      (leftExact : Exact allowed left a) (rightExact : Exact allowed right b)
      (combined : Quantity.combine operator a b = some result) (isAllowed : allowed result) :
      Exact allowed (call operator [left, right]) result

variable {metadata : Metadata} {expression part : Expression} {operator : Operator}
  {operands : List Expression} {value : Value}

theorem Arithmetic.pair {left right : Expression} (arithmetic : operator.isArithmetic = true)
    (leftArithmetic : left.Arithmetic) (rightArithmetic : right.Arithmetic) :
    (Expression.call operator [left, right]).Arithmetic := by
  refine .call arithmetic fun operand member => ?_
  rcases List.mem_pair.1 member with rfl | rfl
  · exact leftArithmetic
  · exact rightArithmetic

theorem partOf_literal_iff : part.PartOf (literal value) ↔ part = literal value :=
  ⟨fun inside => by cases inside; rfl, fun same => same ▸ .self _⟩

theorem partOf_call_iff : part.PartOf (call operator operands) ↔
    part = call operator operands ∨ ∃ operand ∈ operands, part.PartOf operand := by
  constructor
  · intro inside
    cases inside with
    | self => exact .inl rfl
    | operand member inside => exact .inr ⟨_, member, inside⟩
  · rintro (rfl | ⟨operand, member, inside⟩)
    · exact .self _
    · exact .operand member inside

theorem PartOf.trans {whole : Expression} (inside : part.PartOf expression)
    (within : expression.PartOf whole) : part.PartOf whole := by
  induction within with
  | self => exact inside
  | operand member _ ih => exact .operand member ih

theorem PartOf.arithmetic (inside : part.PartOf expression) (arithmetic : expression.Arithmetic) :
    part.Arithmetic := by
  induction inside with
  | self => exact arithmetic
  | operand member _ ih =>
      cases arithmetic with
      | call _ each => exact ih (each _ member)

/-- Operands are evaluated each on its own; the first fault is that of all. -/
theorem evaluateAll_cases (metadata : Metadata) (operands : List Expression) :
    (∃ operand ∈ operands, ∃ fault, operand.evaluate metadata = .error fault ∧
      evaluateAll metadata operands = .error fault) ∨
    ∃ values, evaluateAll metadata operands = .ok values ∧
      List.Forall₂ (fun operand value => operand.evaluate metadata = .ok value) operands
        values := by
  induction operands with
  | nil => exact .inr ⟨[], rfl, .nil⟩
  | cons operand operands ih =>
      simp only [evaluateAll]
      cases first : operand.evaluate metadata with
      | error fault => exact .inl ⟨operand, List.mem_cons_self, fault, first, rfl⟩
      | ok value =>
          rcases ih with ⟨other, member, fault, failed, all⟩ | ⟨values, all, each⟩
          · exact .inl ⟨other, List.mem_cons_of_mem _ member, fault, failed, by rw [all]; rfl⟩
          · exact .inr ⟨value :: values, by rw [all]; rfl, .cons first each⟩

/-- Arithmetic on operands comes to a fault of one of them, to the operation on the values of two
operands, or to the fault that there are not two. -/
theorem evaluate_arithmetic_cases (arithmetic : operator.isArithmetic = true)
    (operands : List Expression) :
    (∃ operand ∈ operands, ∃ fault, operand.evaluate metadata = .error fault ∧
      (call operator operands).evaluate metadata = .error fault) ∨
    (∃ left right a b, operands = [left, right] ∧ left.evaluate metadata = .ok a ∧
      right.evaluate metadata = .ok b ∧
      (call operator operands).evaluate metadata = Value.combine operator a b) ∨
    (call operator operands).evaluate metadata =
      .error (.operandCount operator .two operands.length) := by
  rw [evaluate_call (Operator.strict_of_isArithmetic arithmetic)]
  rcases evaluateAll_cases metadata operands with ⟨operand, member, fault, failed, all⟩ |
    ⟨values, all, each⟩
  · exact .inl ⟨operand, member, fault, failed, by rw [all]; rfl⟩
  · right
    have outcome : (Except.ok values >>= Value.apply operator : Evaluated Value) =
        Value.apply operator values := rfl
    rw [all, outcome, Value.apply_arithmetic arithmetic, each.length_eq]
    split
    · obtain ⟨left, _, leftValue, rest, rfl⟩ := List.forall₂_cons_right_iff.1 each
      obtain ⟨right, _, rightValue, none, rfl⟩ := List.forall₂_cons_right_iff.1 rest
      obtain rfl := List.forall₂_nil_right_iff.1 none
      exact .inl ⟨left, right, _, _, rfl, leftValue, rightValue, rfl⟩
    · exact .inr rfl

theorem evaluate_arithmetic_pair (arithmetic : operator.isArithmetic = true)
    {left right : Expression} {a b : Value} (leftValue : left.evaluate metadata = .ok a)
    (rightValue : right.evaluate metadata = .ok b) :
    (call operator [left, right]).evaluate metadata = Value.combine operator a b := by
  rw [evaluate_call (Operator.strict_of_isArithmetic arithmetic),
    evaluateAll_pair leftValue rightValue]
  exact Value.apply_arithmetic arithmetic [a, b]

/-! ### Results -/

/-- The values of arithmetic are exact, at any depth. -/
theorem exact_of_evaluate (arithmetic : expression.Arithmetic)
    (found : expression.evaluate metadata = .ok value) :
    ∃ quantity, expression.Exact (fun _ => True) quantity ∧ value.Measures quantity := by
  induction arithmetic generalizing value with
  | literal measures _ =>
      cases found
      exact ⟨_, .literal measures trivial, measures⟩
  | @call operator operands arithmetic _ ih =>
      rcases evaluate_arithmetic_cases arithmetic operands with
        ⟨_, _, _, _, failed⟩ | ⟨left, right, a, b, rfl, leftValue, rightValue, combined⟩ | failed
      · cases found.symm.trans failed
      · obtain ⟨p, leftExact, leftMeasures⟩ := ih left List.mem_cons_self leftValue
        obtain ⟨q, rightExact, rightMeasures⟩ :=
          ih right (List.mem_cons_of_mem _ List.mem_cons_self) rightValue
        rw [combined] at found
        obtain ⟨result, exact, measures, -⟩ :=
          (Value.combine_settles arithmetic leftMeasures rightMeasures).of_eq_ok found
        exact ⟨result, .call leftExact rightExact exact trivial, measures⟩
      · cases found.symm.trans failed

theorem Exact.available {allowed : Quantity → Prop} {quantity : Quantity}
    (exact : expression.Exact allowed quantity) : allowed quantity := by
  cases exact <;> assumption

/-- Where all results on the way are within the limits of their kinds, arithmetic has a value. -/
theorem evaluate_of_exact {quantity : Quantity}
    (exact : expression.Exact Quantity.Available quantity) :
    ∃ value, expression.evaluate metadata = .ok value ∧ value.Measures quantity := by
  induction exact with
  | literal measures _ => exact ⟨_, rfl, measures⟩
  | call leftExact rightExact combined isAllowed leftIh rightIh =>
      obtain ⟨a, leftValue, leftMeasures⟩ := leftIh
      obtain ⟨b, rightValue, rightMeasures⟩ := rightIh
      have arithmetic := Quantity.isArithmetic_of_combine combined
      obtain ⟨safe, value, measures⟩ := isAllowed
      have settles := Value.combine_settles arithmetic leftMeasures rightMeasures
      refine ⟨value, ?_, measures⟩
      rw [evaluate_arithmetic_pair arithmetic leftValue rightValue]
      exact (settles.eq_ok_iff_of_safe ⟨leftExact.available.1, rightExact.available.1⟩).2
        ⟨_, combined, measures, fun _ => safe⟩

/-- Whether no multiple of an interval within an expression passes the limit of sums. -/
def Modest (metadata : Metadata) (expression : Expression) : Prop :=
  ∀ operands span, (call .mul operands).PartOf expression →
    (call .mul operands).evaluate metadata = .ok (.interval span) → span.Bounded

theorem Modest.within (modest : expression.Modest metadata) (inside : part.PartOf expression) :
    part.Modest metadata :=
  fun operands span deeper => modest operands span (deeper.trans inside)

/-- Where no multiple passes the limit, every value is a safe operand and nothing stops the
program. -/
theorem Modest.safe_and_calm (arithmetic : expression.Arithmetic)
    (modest : expression.Modest metadata) :
    (∀ value, expression.evaluate metadata = .ok value →
      ∃ quantity, value.Measures quantity ∧ quantity.Safe) ∧
    expression.evaluate metadata ≠ .error .crash := by
  induction arithmetic with
  | literal measures safe =>
      refine ⟨fun value found => ?_, nofun⟩
      cases found
      exact ⟨_, measures, safe⟩
  | @call operator operands arithmetic _ ih =>
      have each operand (member : operand ∈ operands) :=
        ih operand member (modest.within (.operand member (.self operand)))
      rcases evaluate_arithmetic_cases arithmetic operands with
        ⟨operand, member, fault, failed, same⟩ |
        ⟨left, right, a, b, rfl, leftValue, rightValue, combined⟩ | failed
      · rw [same, ← failed]
        exact ⟨fun value found => absurd found (by rw [failed]; nofun), (each operand member).2⟩
      · obtain ⟨p, leftMeasures, leftSafe⟩ := (each left List.mem_cons_self).1 a leftValue
        obtain ⟨q, rightMeasures, rightSafe⟩ :=
          (each right (List.mem_cons_of_mem _ List.mem_cons_self)).1 b rightValue
        have settles := Value.combine_settles arithmetic leftMeasures rightMeasures
        refine ⟨fun value found => ?_, combined ▸ settles.calm ⟨leftSafe, rightSafe⟩⟩
        obtain ⟨result, -, measures, safe⟩ := settles.of_eq_ok (combined ▸ found)
        refine ⟨result, measures, ?_⟩
        by_cases multiple : operator = .mul
        · subst multiple
          cases measures with
          | interval _ => exact modest _ _ (.self _) found
          | _ => trivial
        · exact safe multiple
      · rw [failed]
        exact ⟨nofun, nofun⟩

/-- Arithmetic is exact, or it has no value. At every depth a value stands for the exact result, and
there is one when all results on the way are within the limits of their kinds. As long as no
multiple of an interval passes the limit of sums, nothing stops the program, and every interval at
every depth is within that limit. -/
theorem evaluate_arithmetic (metadata : Metadata) (arithmetic : expression.Arithmetic) :
    (∀ (part : Expression) (value : Value), part.PartOf expression →
      part.evaluate metadata = .ok value →
      ∃ quantity, part.Exact (fun _ => True) quantity ∧ value.Measures quantity) ∧
    (∀ (part : Expression) (quantity : Quantity), part.PartOf expression →
      part.Exact Quantity.Available quantity →
      ∃ value, part.evaluate metadata = .ok value ∧ value.Measures quantity) ∧
    (expression.Modest metadata →
      expression.evaluate metadata ≠ .error .crash ∧
      ∀ (part : Expression) (span : Interval), part.PartOf expression →
        part.evaluate metadata = .ok (.interval span) → span.Bounded) := by
  refine ⟨fun part value inside => exact_of_evaluate (inside.arithmetic arithmetic),
    fun part quantity _ => evaluate_of_exact, fun modest => ⟨?calm, ?bounded⟩⟩
  case calm => exact (modest.safe_and_calm arithmetic).2
  case bounded =>
    intro part span inside found
    obtain ⟨quantity, measures, safe⟩ :=
      ((modest.within inside).safe_and_calm (inside.arithmetic arithmetic)).1 _ found
    cases measures
    exact safe

/-- A moment moved back by three days for each day between two dates. -/
theorem evaluate_arithmetic_of_days :
    let days := call .sub [literal (.date ⟨19783, by decide⟩), literal (.date ⟨19781, by decide⟩)]
    let factor := call .div [literal (.int (-7)), literal (.int 2)]
    let start : Moment := ⟨⟨19781, by decide⟩, ⟨1, 500000000⟩⟩
    let moved := call .add [literal (.moment start), call .mul [days, factor]]
    moved.Arithmetic ∧ moved.Modest .empty ∧
      (∃ value, moved.evaluate .empty = .ok value ∧
        value.Measures (.instant (start.instant + 2 * nanosPerDay * -3))) ∧
      moved.evaluate .empty ≠ .error .crash := by
  intro days factor start moved
  have arithmetic : moved.Arithmetic :=
    .pair (by rfl) (.literal (.moment (by decide)) trivial)
      (.pair (by rfl) (.pair (by rfl) (.literal (.date _) trivial) (.literal (.date _) trivial))
        (.pair (by rfl) (.literal (.int (by rfl)) trivial) (.literal (.int (by rfl)) trivial)))
  have modest : moved.Modest .empty := by
    intro operands span inside found
    have value : (call .mul [days, factor]).evaluate .empty =
      .ok (.interval ⟨2 * nanosPerDay * -3⟩) := rfl
    simp only [moved, days, factor, partOf_call_iff, partOf_literal_iff, List.mem_pair,
      exists_eq_or_imp, exists_eq_left, call.injEq, reduceCtorEq, false_and, false_or, or_false,
      true_and] at inside
    rw [inside, value] at found
    cases found
    decide
  have exact : moved.Exact Quantity.Available
      (.instant (start.instant + 2 * nanosPerDay * -3)) := by
    have distance : days.Exact Quantity.Available (.length (2 * nanosPerDay)) :=
      .call (.literal (.date _) (.of_measures (.date _) trivial))
        (.literal (.date _) (.of_measures (.date _) trivial)) (by rfl) (.of_bounded (by decide))
    have quotient : factor.Exact Quantity.Available (.number (-3)) :=
      .call (.literal (.int (by rfl)) (.of_measures (.int (by rfl)) trivial))
        (.literal (.int (by rfl)) (.of_measures (.int (by rfl)) trivial)) (by rfl)
        (.of_measures (.int (by rfl)) trivial)
    have found : Moment.ofInstant? (start.instant + 2 * nanosPerDay * -3) =
        some ⟨⟨19775, by decide⟩, start.time⟩ :=
      Moment.ofInstant?_eq_some_iff.2 ⟨by decide, by decide⟩
    have plain : start.time.Plain := by decide
    have multiple : (call .mul [days, factor]).Exact Quantity.Available
        (.length (2 * nanosPerDay * -3)) :=
      .call distance quotient (by rfl) (.of_bounded (by decide))
    exact .call (.literal (.moment plain) (.of_measures (.moment plain) trivial)) multiple (by rfl)
      (.of_measures (Value.measures_instant_iff.2 ⟨_, found, rfl⟩) trivial)
  obtain ⟨-, available, safe⟩ := evaluate_arithmetic .empty arithmetic
  exact ⟨arithmetic, modest, available moved _ (.self moved) exact, (safe modest).1⟩

/-- The longest interval of whole seconds, many times over. -/
def multiple (factor : Int) : Expression :=
  call .mul [literal (.interval ⟨9223372036854775 * nanosPerSecond⟩), literal (.int factor)]

/-- A multiple can pass the limit, and the sum of two such multiples stops the program. -/
theorem evaluate_multiple :
    (multiple 2).Arithmetic ∧
      (multiple 2).evaluate .empty = .ok (.interval ⟨18446744073709550 * nanosPerSecond⟩) ∧
      ¬ (Interval.mk (18446744073709550 * nanosPerSecond)).Bounded ∧
    (call .add [multiple 999, multiple 999]).Arithmetic ∧
      (call .add [multiple 999, multiple 999]).evaluate .empty = .error .crash := by
  have isArithmetic (factor : Int) (fits : fitsInt64 factor = true) :
      (multiple factor).Arithmetic := by
    have longest : (Interval.mk (9223372036854775 * nanosPerSecond)).Bounded := by decide
    exact .pair (by rfl) (.literal (.interval longest.wide) longest) (.literal (.int fits) trivial)
  exact ⟨isArithmetic 2 rfl, rfl, by decide,
    .pair (by rfl) (isArithmetic 999 rfl) (isArithmetic 999 rfl), rfl⟩

end Expression

end RadarRelay
