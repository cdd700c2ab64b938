import RadarRelay.Proofs.Filter.Meaning

/-!
# How comparisons agree

A comparison asks whether some scalar of one side and some scalar of the other stand
in a relation. Scalars are compared in one place, and comparing them the other way
round gives the mirrored order. So two values meet in an order exactly when they meet
in its mirror image the other way round, and every comparison can be said by the
orders in which its sides meet: lists, empty sides and incomparable kinds included.
-/

namespace RadarRelay

open RadarRelay.Number RadarRelay.Calendar

/-! ## The order of scalars -/

namespace Calendar

theorem Date.compare_swap (left right : Date) : right.compare left = (left.compare right).swap :=
  (Int.compare_swap left.dayNumber right.dayNumber).symm

theorem TimeOfDay.compare_swap (left right : TimeOfDay) :
    right.compare left = (left.compare right).swap := by
  simp only [TimeOfDay.compare, Ordering.swap_then, ← Std.OrientedCmp.eq_swap]

theorem Moment.compare_swap (left right : Moment) :
    right.compare left = (left.compare right).swap := by
  simp only [Moment.compare, Ordering.swap_then, ← Date.compare_swap, ← TimeOfDay.compare_swap]

end Calendar

namespace Number.Double

theorem exists_place? {number : Double} (isNumber : number ≠ nan) :
    ∃ place, number.place? = some place := by
  cases number with
  | nan => exact absurd rfl isNumber
  | infinite negative => exact ⟨_, rfl⟩
  | finite negative magnitude => exact ⟨_, rfl⟩

end Number.Double

namespace Value

/-- Comparing two scalars the other way round mirrors their order; what is incomparable stays so. -/
theorem compare?_swap (left right : Value) :
    right.compare? left = (left.compare? right).map Ordering.swap := by
  cases left <;> cases right
  case int.int | text.text | bool.bool | interval.interval =>
    exact congrArg some Std.OrientedCmp.eq_swap
  case int.double | double.int | double.double => exact Double.compare?_swap _ _
  case date.date => exact congrArg some (Date.compare_swap _ _)
  case time.time => exact congrArg some (TimeOfDay.compare_swap _ _)
  case moment.moment => exact congrArg some (Moment.compare_swap _ _)
  all_goals rfl

/-- A scalar is as great as itself, unless it is not a number. -/
theorem compare?_self {value : Value} (scalar : ∀ items, value ≠ list items)
    (isNumber : value ≠ double .nan) : value.compare? value = some .eq := by
  have comparable : ∃ order, value.compare? value = some order := by
    cases value with
    | list items => exact absurd rfl (scalar items)
    | double number =>
        obtain ⟨place, found⟩ := Double.exists_place? fun same => isNumber (congrArg double same)
        exact ⟨compare place place, by simp [compare?, Double.compare?, found]⟩
    | _ => exact ⟨_, rfl⟩
  obtain ⟨order, found⟩ := comparable
  have mirrored := compare?_swap value value
  rw [found] at mirrored
  cases order with
  | eq => exact found
  | lt | gt => cases mirrored

/-! ## Meeting in an order -/

/-- Some scalar of one value and some scalar of another stand in an order. -/
def Meets (left right : Value) (order : Ordering) : Prop :=
  ∃ item ∈ left.scalars, ∃ other ∈ right.scalars, item.compare? other = some order

variable {left right : Value}

/-- Seen from the other side, values meet in the mirrored order. -/
theorem meets_swap {order : Ordering} : Meets right left order ↔ Meets left right order.swap := by
  have mirrored (item other : Value) :
      other.compare? item = some order ↔ item.compare? other = some order.swap := by
    rw [compare?_swap item other]
    cases item.compare? other with
    | none => simp
    | some found => cases found <;> cases order <;> simp
  constructor
  · intro ⟨other, listedOther, item, listed, found⟩
    exact ⟨item, listed, other, listedOther, (mirrored item other).mp found⟩
  · intro ⟨item, listed, other, listedOther, found⟩
    exact ⟨other, listedOther, item, listed, (mirrored item other).mpr found⟩

/-- Values that meet have scalars. -/
theorem Meets.ne_nil {order : Ordering} (meets : Meets left right order) :
    left.scalars ≠ [] ∧ right.scalars ≠ [] := by
  obtain ⟨item, listed, other, listedOther, -⟩ := meets
  exact ⟨List.ne_nil_of_mem listed, List.ne_nil_of_mem listedOther⟩

/-- A value with more scalars on the left meets whatever it met before. -/
theorem Meets.mono {larger : Value} {order : Ordering} (meets : Meets left right order)
    (more : left.scalars ⊆ larger.scalars) : Meets larger right order := by
  obtain ⟨item, listed, found⟩ := meets
  exact ⟨item, more listed, found⟩

theorem isIn_iff : isIn left right = true ↔ Meets left right .eq := by
  simp [isIn, somePair, equals, Meets]

/-- A comparison other than being different holds of values that meet in an order it admits. The
test for empty sides adds nothing to it. -/
theorem holds_iff {operator : Operator} (positive : operator ≠ .ne) :
    holds operator left right = true ↔
      ∃ order, admits operator order = true ∧ Meets left right order := by
  have relating (item other : Value) : relates operator item other = true ↔
      ∃ order, admits operator order = true ∧ item.compare? other = some order := by
    rw [relates]
    cases item.compare? other <;> simp
  rw [holds, if_neg positive]
  constructor
  · intro holding
    -- The early answer for an empty side is no; otherwise the pair that was found is the one.
    split at holding
    · cases holding
    · simp only [somePair, List.any_eq_true, relating] at holding
      obtain ⟨item, listed, other, listedOther, order, admitted, found⟩ := holding
      exact ⟨order, admitted, item, listed, other, listedOther, found⟩
  · intro ⟨order, admitted, meets⟩
    have scalars := meets.ne_nil
    obtain ⟨item, listed, other, listedOther, found⟩ := meets
    rw [if_neg (by simp [scalars])]
    simp only [somePair, List.any_eq_true, relating]
    exact ⟨item, listed, other, listedOther, order, admitted, found⟩

/-- There are three ways to stand in an order. -/
theorem exists_order {property : Ordering → Prop} :
    (∃ order, property order) ↔ property .lt ∨ property .eq ∨ property .gt := by
  constructor
  · intro ⟨order, holding⟩
    cases order <;> simp [holding]
  · intro holding
    rcases holding with less | equal | greater
    · exact ⟨.lt, less⟩
    · exact ⟨.eq, equal⟩
    · exact ⟨.gt, greater⟩

theorem holds_eq_iff : holds .eq left right = true ↔ Meets left right .eq := by
  simp [holds_iff, admits]

theorem holds_lt_iff : holds .lt left right = true ↔ Meets left right .lt := by
  simp [holds_iff, admits]

theorem holds_gt_iff : holds .gt left right = true ↔ Meets left right .gt := by
  simp [holds_iff, admits]

theorem holds_le_iff :
    holds .le left right = true ↔ Meets left right .lt ∨ Meets left right .eq := by
  simp [holds_iff, exists_order, admits]

theorem holds_ge_iff :
    holds .ge left right = true ↔ Meets left right .gt ∨ Meets left right .eq := by
  simp [holds_iff, exists_order, admits, or_comm]

/-- Values differ when both have scalars and they do not meet as equals. -/
theorem holds_ne_iff :
    holds .ne left right = true ↔
      left.scalars ≠ [] ∧ right.scalars ≠ [] ∧ ¬ Meets left right .eq := by
  rw [← isIn_iff, holds, isIn]
  by_cases empty : left.scalars = [] <;> by_cases emptyOther : right.scalars = [] <;>
    simp [empty, emptyOther]

/-! ## Laws of the comparisons -/

theorem isIn_eq_holds (left right : Value) : isIn left right = holds .eq left right :=
  Bool.eq_iff_iff.mpr (isIn_iff.trans holds_eq_iff.symm)

theorem holds_eq_swap (left right : Value) : holds .eq right left = holds .eq left right := by
  rw [Bool.eq_iff_iff, holds_eq_iff, holds_eq_iff]
  exact meets_swap

theorem holds_gt_swap (left right : Value) : holds .gt right left = holds .lt left right := by
  rw [Bool.eq_iff_iff, holds_gt_iff, holds_lt_iff]
  exact meets_swap

theorem holds_le_eq (left right : Value) :
    holds .le left right = (holds .lt left right || holds .eq left right) := by
  rw [Bool.eq_iff_iff, Bool.or_eq_true, holds_le_iff, holds_lt_iff, holds_eq_iff]

theorem holds_ge_eq (left right : Value) :
    holds .ge left right = (holds .gt left right || holds .eq left right) := by
  rw [Bool.eq_iff_iff, Bool.or_eq_true, holds_ge_iff, holds_gt_iff, holds_eq_iff]

theorem holds_ne_eq (left right : Value) :
    holds .ne left right =
      (!left.scalars.isEmpty && !right.scalars.isEmpty && !holds .eq left right) := by
  rw [Bool.eq_iff_iff, holds_ne_iff, ← holds_eq_iff]
  simp [and_assoc]

end Value

/-! ## Comparisons of expressions -/

namespace Expression

variable {metadata : Metadata} {left right : Expression} {a b : Value}

/-- The comparisons of two operands that have values agree with each other: three verdicts, on
whether the values meet as equal, as less and as greater, determine all of them. -/
theorem comparisons_agree (leftValue : left.evaluate metadata = .ok a)
    (rightValue : right.evaluate metadata = .ok b) :
    ∃ equal less greater : Bool,
      (call .eq [left, right]).evaluate metadata = .ok (.bool equal) ∧
      (call .eq [right, left]).evaluate metadata = .ok (.bool equal) ∧
      (call .in [left, right]).evaluate metadata = .ok (.bool equal) ∧
      (call .ne [left, right]).evaluate metadata =
        .ok (.bool (!a.scalars.isEmpty && !b.scalars.isEmpty && !equal)) ∧
      (call .lt [left, right]).evaluate metadata = .ok (.bool less) ∧
      (call .gt [right, left]).evaluate metadata = .ok (.bool less) ∧
      (call .gt [left, right]).evaluate metadata = .ok (.bool greater) ∧
      (call .lt [right, left]).evaluate metadata = .ok (.bool greater) ∧
      (call .le [left, right]).evaluate metadata = .ok (.bool (less || equal)) ∧
      (call .ge [left, right]).evaluate metadata = .ok (.bool (greater || equal)) ∧
      (equal = true ↔ Value.Meets a b .eq) ∧
      (less = true ↔ Value.Meets a b .lt) ∧
      (greater = true ↔ Value.Meets a b .gt) := by
  have verdict (operator : Operator) (compares : operator.compares = true) :=
    evaluate_comparison compares leftValue rightValue
  have mirrored (operator : Operator) (compares : operator.compares = true) :=
    evaluate_comparison compares rightValue leftValue
  refine ⟨Value.holds .eq a b, Value.holds .lt a b, Value.holds .gt a b, verdict .eq rfl, ?_, ?_, ?_,
    verdict .lt rfl, ?_, verdict .gt rfl, ?_, ?_, ?_, Value.holds_eq_iff, Value.holds_lt_iff,
    Value.holds_gt_iff⟩
  · rw [← Value.holds_eq_swap]
    exact mirrored .eq rfl
  · rw [← Value.isIn_eq_holds]
    exact verdict .in rfl
  · rw [← Value.holds_ne_eq]
    exact verdict .ne rfl
  · rw [← Value.holds_gt_swap]
    exact mirrored .gt rfl
  · rw [Value.holds_gt_swap]
    exact mirrored .lt rfl
  · rw [← Value.holds_le_eq]
    exact verdict .le rfl
  · rw [← Value.holds_ge_eq]
    exact verdict .ge rfl

/-- Counts of a file, one of them no number, are compared with a list that holds not-a-number: the
sides meet as equal and as less. -/
theorem comparisons_agree_of_mixed_lists :
    let metadata : Metadata :=
      { Metadata.empty with
        attributes := [⟨"/dataset1/where/nbins", "480"⟩, ⟨"/dataset2/where/nbins", "many"⟩] }
    let left : Expression := .attr "where/nbins" .int
    let right : Expression := .literal (.list [.double .nan, .int 480, .int 500])
    left.evaluate metadata = .ok (.list [.int 480, .text "many"]) ∧
      right.evaluate metadata = .ok (.list [.double .nan, .int 480, .int 500]) ∧
      (call .in [left, right]).evaluate metadata = .ok (.bool true) ∧
      (call .ne [left, right]).evaluate metadata = .ok (.bool false) ∧
      (call .gt [right, left]).evaluate metadata = .ok (.bool true) ∧
      (call .le [left, right]).evaluate metadata = .ok (.bool true) := by
  intro metadata left right
  have leftValue : left.evaluate metadata = .ok (.list [.int 480, .text "many"]) := rfl
  have rightValue :
      right.evaluate metadata = .ok (.list [.double .nan, .int 480, .int 500]) := rfl
  obtain ⟨equal, less, -, -, -, isIn, differs, -, mirrored, -, -, lessEqual, -, meetsEqual,
    meetsLess, -⟩ := comparisons_agree leftValue rightValue
  have isEqual : equal = true :=
    meetsEqual.mpr ⟨.int 480, by simp, .int 480, by simp, rfl⟩
  have isLess : less = true :=
    meetsLess.mpr ⟨.int 480, by simp, .int 500, by simp, rfl⟩
  subst isEqual isLess
  exact ⟨leftValue, rightValue, isIn, differs, mirrored, lessEqual⟩

end Expression

end RadarRelay
