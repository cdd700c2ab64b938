import RadarRelay.Filter.Match
import RadarRelay.Filter.Tree

/-!
# Boolean meaning of filters

A filter whose tests are comparisons is a Boolean formula over its tests. Its
expression evaluates to the value of that formula for every file, although the
evaluation stops at the first operand that settles a conjunction or disjunction:
no comparison has a fault that the order of evaluation could hide. Whoever
rearranges a filter by the laws of Boolean algebra therefore changes no verdict.
-/

namespace RadarRelay

/-- Whether an operator compares an attribute with a literal. -/
def Operator.compares : Operator → Bool
  | eq | ne | lt | gt | le | ge | like | .in => true
  | _ => false

/-- Whether an operator is applied to the values of all its operands. -/
def Operator.strict : Operator → Bool
  | and | or | not => false
  | _ => true

theorem Operator.strict_of_compares {operator : Operator} (compares : operator.compares = true) :
    operator.strict = true := by
  cases operator with
  | and | or | not => cases compares
  | _ => rfl

namespace Value

/-- Whether two values stand in the relation of an operator that compares. -/
def related : Operator → Value → Value → Bool
  | .like, left, right => isLike left right
  | .in, left, right => isIn left right
  | comparison, left, right => holds comparison left right

/-- A comparison of two values has no fault. -/
theorem apply_eq_related {operator : Operator} (compares : operator.compares = true)
    (left right : Value) :
    apply operator [left, right] = .ok (bool (related operator left right)) := by
  cases operator <;> first | rfl | cases compares

end Value

namespace Expression

variable {metadata : Metadata} {left right : Expression} {a b : Value}

theorem evaluate_call {operator : Operator} (strict : operator.strict = true)
    (operands : List Expression) :
    (call operator operands).evaluate metadata =
      evaluateAll metadata operands >>= Value.apply operator := by
  cases operator with
  | and | or | not => cases strict
  | _ => rfl

/-- Two operands that have values are evaluated to these. -/
theorem evaluateAll_pair (leftValue : left.evaluate metadata = .ok a)
    (rightValue : right.evaluate metadata = .ok b) :
    evaluateAll metadata [left, right] = .ok [a, b] := by
  simp only [evaluateAll, leftValue, rightValue]
  rfl

/-- A comparison of operands that have values gives the verdict on these. -/
theorem evaluate_comparison {operator : Operator} (compares : operator.compares = true)
    (leftValue : left.evaluate metadata = .ok a) (rightValue : right.evaluate metadata = .ok b) :
    (call operator [left, right]).evaluate metadata =
      .ok (.bool (Value.related operator a b)) := by
  rw [evaluate_call (Operator.strict_of_compares compares), evaluateAll_pair leftValue rightValue,
    ← Value.apply_eq_related compares a b]
  rfl

end Expression

namespace Filter

mutual

/-- Whether every test of a filter is a comparison. -/
def comparing : Filter → Bool
  | test _ operator _ _ => operator.compares
  | and children => comparingAll children
  | or children => comparingAll children
  | not child => comparing child
  | always => true

@[inherit_doc comparing]
def comparingAll : List Filter → Bool
  | [] => true
  | child :: children => comparing child && comparingAll children

end

mutual

/-- A filter read as a formula: conjunction, disjunction and negation of what its tests say. -/
def holds (metadata : Metadata) : Filter → Bool
  | test name operator type literal =>
      Value.related operator (metadata.attributeValue name type)
        (Value.coerce type (.ofJson literal))
  | and children => holdsAll metadata children
  | or children => holdsAny metadata children
  | not child => !holds metadata child
  | always => true

/-- Whether all filters hold. -/
def holdsAll (metadata : Metadata) : List Filter → Bool
  | [] => true
  | child :: children => holds metadata child && holdsAll metadata children

/-- Whether some filter holds. -/
def holdsAny (metadata : Metadata) : List Filter → Bool
  | [] => false
  | child :: children => holds metadata child || holdsAny metadata children

end

@[simp] theorem comparingAll_eq_all (children : List Filter) :
    comparingAll children = children.all comparing := by
  induction children with
  | nil => rfl
  | cons child children ih => simp [comparingAll, ih]

@[simp] theorem holdsAll_eq_all (metadata : Metadata) (children : List Filter) :
    holdsAll metadata children = children.all (holds metadata) := by
  induction children with
  | nil => rfl
  | cons child children ih => simp [holdsAll, ih]

@[simp] theorem holdsAny_eq_any (metadata : Metadata) (children : List Filter) :
    holdsAny metadata children = children.any (holds metadata) := by
  induction children with
  | nil => rfl
  | cons child children ih => simp [holdsAny, ih]

/-! ## Evaluation -/

variable {metadata : Metadata}

/-- Operands that evaluate to truth values are asked one after the other, and the first false one
gives the value of the conjunction. -/
theorem allTrue_compile {children : List Filter}
    (evaluated : ∀ child ∈ children,
      child.compile.evaluate metadata = .ok (.bool (child.holds metadata))) :
    Expression.allTrue metadata (children.map compile) =
      .ok (children.all (holds metadata)) := by
  induction children with
  | nil => rfl
  | cons child children ih =>
      have rest := ih fun other member => evaluated other (List.mem_cons_of_mem _ member)
      rw [List.map_cons, Expression.allTrue, evaluated child List.mem_cons_self, rest]
      cases verdict : child.holds metadata <;>
        simp [verdict, bind, Except.bind, pure, Except.pure, Value.truthy]

/-- The first true operand gives the value of the disjunction. -/
theorem anyTrue_compile {children : List Filter}
    (evaluated : ∀ child ∈ children,
      child.compile.evaluate metadata = .ok (.bool (child.holds metadata))) :
    Expression.anyTrue metadata (children.map compile) =
      .ok (children.any (holds metadata)) := by
  induction children with
  | nil => rfl
  | cons child children ih =>
      have rest := ih fun other member => evaluated other (List.mem_cons_of_mem _ member)
      rw [List.map_cons, Expression.anyTrue, evaluated child List.mem_cons_self, rest]
      cases verdict : child.holds metadata <;>
        simp [verdict, bind, Except.bind, pure, Except.pure, Value.truthy]

/-- A comparison evaluates to what it says of the file. -/
theorem evaluate_test {operator : Operator} (compares : operator.compares = true)
    (name : String) (type : ValueType) (literal : Json) :
    (test name operator type literal).compile.evaluate metadata =
      .ok (.bool ((test name operator type literal).holds metadata)) := by
  rw [compile, holds]
  exact Expression.evaluate_comparison compares rfl rfl

mutual

/-- A filter that compares evaluates to the value of its formula. -/
theorem evaluate_compile (filter : Filter) (compares : filter.comparing = true) :
    filter.compile.evaluate metadata = .ok (.bool (filter.holds metadata)) := by
  cases filter with
  | test name operator type literal => exact evaluate_test compares name type literal
  | and children =>
      have evaluated := evaluate_compileAll children compares
      rw [compile, compileAll_eq_map, Expression.evaluate, allTrue_compile evaluated, holds,
        holdsAll_eq_all]
      rfl
  | or children =>
      have evaluated := evaluate_compileAll children compares
      rw [compile, compileAll_eq_map, Expression.evaluate, anyTrue_compile evaluated, holds,
        holdsAny_eq_any]
      rfl
  | not child =>
      have evaluated := evaluate_compile child compares
      rw [compile, Expression.evaluate, evaluated, holds]
      rfl
  | always => rfl

@[inherit_doc evaluate_compile]
theorem evaluate_compileAll (filters : List Filter) (compares : comparingAll filters = true) :
    ∀ filter ∈ filters,
      filter.compile.evaluate metadata = .ok (.bool (filter.holds metadata)) := by
  cases filters with
  | nil => simp
  | cons first rest =>
      rw [comparingAll, Bool.and_eq_true] at compares
      intro filter member
      rcases List.mem_cons.mp member with same | later
      · rw [same]
        exact evaluate_compile first compares.1
      · exact evaluate_compileAll rest compares.2 filter later

end

/-- The verdict on a file is the value of the formula, and no fault is reported. -/
theorem check_compile {State : Type} {filter : Filter} (compares : filter.comparing = true) :
    (filter.compile.check metadata : Activity State Bool) = pure (filter.holds metadata) := by
  have evaluated : filter.compile.evaluate metadata = .ok (.bool (filter.holds metadata)) :=
    evaluate_compile filter compares
  simp only [Expression.check, Expression.fault?, Expression.accepts, evaluated, Value.truthy]

/-- A file is accepted when the formula holds of it. -/
theorem accepts_compile {filter : Filter} (compares : filter.comparing = true) :
    filter.compile.accepts metadata = filter.holds metadata := by
  rw [Expression.accepts, evaluate_compile filter compares]
  rfl

/-! ## Rearranging -/

/-- One filter comes from another by the laws of Boolean algebra, used anywhere in the tree. -/
inductive Rearranged : Filter → Filter → Prop where
  | refl (filter : Filter) : Rearranged filter filter
  | symm {left right : Filter} : Rearranged left right → Rearranged right left
  | trans {left middle right : Filter} :
      Rearranged left middle → Rearranged middle right → Rearranged left right
  | permAnd {lefts rights : List Filter} :
      lefts.Perm rights → Rearranged (and lefts) (and rights)
  | permOr {lefts rights : List Filter} :
      lefts.Perm rights → Rearranged (or lefts) (or rights)
  | flattenAnd (before inner after : List Filter) :
      Rearranged (and (before ++ and inner :: after)) (and (before ++ inner ++ after))
  | flattenOr (before inner after : List Filter) :
      Rearranged (or (before ++ or inner :: after)) (or (before ++ inner ++ after))
  | notNot (child : Filter) : Rearranged (not (not child)) child
  | notAnd (children : List Filter) : Rearranged (not (and children)) (or (children.map not))
  | notOr (children : List Filter) : Rearranged (not (or children)) (and (children.map not))
  | inAnd (before after : List Filter) {left right : Filter} :
      Rearranged left right →
        Rearranged (and (before ++ left :: after)) (and (before ++ right :: after))
  | inOr (before after : List Filter) {left right : Filter} :
      Rearranged left right →
        Rearranged (or (before ++ left :: after)) (or (before ++ right :: after))
  | inNot {left right : Filter} : Rearranged left right → Rearranged (not left) (not right)

namespace Rearranged

variable {left right : Filter}

/-- Rearranging adds no test and drops none. -/
theorem comparing_eq (rearranged : Rearranged left right) : left.comparing = right.comparing := by
  induction rearranged with
  | refl => rfl
  | symm _ ih => exact ih.symm
  | trans _ _ first second => exact first.trans second
  | permAnd same | permOr same =>
      simp only [comparing, comparingAll_eq_all]
      exact same.all_eq
  | flattenAnd before inner after | flattenOr before inner after =>
      simp [comparing]
  | notNot => rfl
  | notAnd children | notOr children =>
      simp only [comparing, comparingAll_eq_all, List.all_map]
      rfl
  | inAnd before after _ ih | inOr before after _ ih => simp [comparing, ih]
  | inNot _ ih => simpa [comparing] using ih

/-- Rearranging keeps the meaning. -/
theorem holds_eq (rearranged : Rearranged left right) (metadata : Metadata) :
    left.holds metadata = right.holds metadata := by
  induction rearranged with
  | refl => rfl
  | symm _ ih => exact ih.symm
  | trans _ _ first second => exact first.trans second
  | permAnd same =>
      simp only [holds, holdsAll_eq_all]
      exact same.all_eq
  | permOr same =>
      simp only [holds, holdsAny_eq_any]
      exact same.any_eq
  | flattenAnd before inner after => simp [holds]
  | flattenOr before inner after => simp [holds]
  | notNot child => simp [holds]
  | notAnd children =>
      simp only [holds, holdsAll_eq_all, holdsAny_eq_any, List.not_all_eq_any_not, List.any_map]
      rfl
  | notOr children =>
      simp only [holds, holdsAll_eq_all, holdsAny_eq_any, List.not_any_eq_all_not, List.all_map]
      rfl
  | inAnd before after _ ih | inOr before after _ ih => simp [holds, ih]
  | inNot _ ih => simp [holds, ih]

end Rearranged

/-- A filter that compares never has a fault, its value is that of its formula, and every
rearrangement of it gives the same verdict on every file. -/
theorem compile_keeps_meaning (filter : Filter) (compares : filter.comparing = true)
    (metadata : Metadata) :
    filter.compile.evaluate metadata = .ok (.bool (filter.holds metadata)) ∧
      ∀ other : Filter, Rearranged filter other → ∀ State : Type,
        (other.compile.check metadata : Activity State Bool) = filter.compile.check metadata := by
  constructor
  · exact evaluate_compile filter compares
  · intro other rearranged State
    have alsoCompares : other.comparing = true := by
      rw [← rearranged.comparing_eq]
      exact compares
    rw [check_compile compares, check_compile alsoCompares, rearranged.holds_eq metadata]

/-- Not both a volume and from Sweden: a Swedish volume fails, also when the negation is moved to
the tests. -/
theorem compile_keeps_meaning_of_exclusion :
    let volume : Filter := test "/what/object" .eq .string (.string "PVOL")
    let swedish : Filter := test "_bdb/source_name" .like .string (.string "se*")
    let metadata : Metadata :=
      { Metadata.empty with attributes := [⟨"/what/object", "PVOL"⟩], sourceName := "sehem" }
    (not (and [volume, swedish])).comparing = true ∧
      (not (and [volume, swedish])).compile.evaluate metadata = .ok (.bool false) ∧
      Rearranged (not (and [volume, swedish])) (or [not volume, not swedish]) ∧
      ((or [not volume, not swedish]).compile.check metadata : Activity Unit Bool) =
        (not (and [volume, swedish])).compile.check metadata := by
  intro volume swedish metadata
  have compares : (not (and [volume, swedish])).comparing = true := rfl
  have rearranged : Rearranged (not (and [volume, swedish])) (or [not volume, not swedish]) :=
    .notAnd [volume, swedish]
  have meaning := compile_keeps_meaning (not (and [volume, swedish])) compares metadata
  have verdict : (not (and [volume, swedish])).holds metadata = false := by decide +kernel
  refine ⟨compares, ?_, rearranged, meaning.2 _ rearranged Unit⟩
  rw [meaning.1, verdict]

end Filter

end RadarRelay
