import RadarRelay.Proofs.Filter.Comparisons

/-!
# Tests of attributes

A test sees the texts that its name selects in a file, each read as the type of the
test, and its literal is read as the same type. Where the name selects nothing, the
operators that compare are false and the others lack an operand; only a disjunction
passes over the missing side and is as true as its literal. Where the name selects
the text that the literal is, both are read alike, so they meet as equals, unless
what they are read as is not a number.
-/

namespace RadarRelay

open RadarRelay.Number RadarRelay.Text RadarRelay.Calendar

/-! ## What a test sees -/

namespace Value

theorem coerce_text (type : ValueType) (content : String) :
    coerce type (text content) = read type content := by
  rw [coerce]

/-- What a text is read as is no list, and only as a double it may be not-a-number. -/
theorem read_scalar (type : ValueType) (content : String) :
    (∀ items, read type content ≠ list items) ∧
      (read type content = double .nan → type = .double) := by
  cases type with
  | string => simp [read]
  | int => cases found : readInt64? (trim content).toList <;> simp [read, found]
  | double => cases found : readDouble? (trim content).toList <;> simp [read, found]
  | bool => cases found : readBool? content <;> simp [read, found]
  | date => cases found : readDate? (trim content) <;> simp [read, found]
  | time => cases found : readTime? (trim content) <;> simp [read, found]
  | dateTime => cases found : readMoment? (trim content) <;> simp [read, found]

/-- A text stands for the one scalar that it is read as. -/
theorem scalars_read (type : ValueType) (content : String) :
    (read type content).scalars = [read type content] := by
  cases scalar : read type content with
  | list items => exact absurd scalar ((read_scalar type content).1 items)
  | _ => rfl

/-- A text that is read twice gives equal scalars, unless they are not numbers. -/
theorem compare?_read_self {type : ValueType} {content : String}
    (isNumber : ¬ (type = .double ∧ read .double content = double .nan)) :
    (read type content).compare? (read type content) = some .eq := by
  obtain ⟨scalar, onlyDouble⟩ := read_scalar type content
  refine compare?_self scalar fun isNan => isNumber ?_
  have isDouble := onlyDouble isNan
  rw [isDouble] at isNan
  exact ⟨isDouble, isNan⟩

end Value

namespace Metadata

/-- A test sees the selected texts as they are read as its type. -/
theorem scalars_attributeValue (metadata : Metadata) (name : String) (type : ValueType) :
    (metadata.attributeValue name type).scalars = (metadata.select name).map (Value.read type) := by
  simp [attributeValue, Value.coerce, Function.comp_def]

end Metadata

/-! ## Nothing selected -/

namespace Value

/-- Nothing stands in no relation to anything. -/
theorem related_nothing (operator : Operator) (right : Value) :
    related operator (list []) right = false := by
  cases operator with
  | like =>
      rw [related, isLike]
      split <;> rfl
  | _ => rfl

/-- An operator that compares is false of nothing; one that computes lacks an operand. -/
theorem apply_nothing {operator : Operator} (strict : operator.strict = true) (right : Value) :
    apply operator [list [], right] =
      if operator.compares then .ok (bool false) else .error (.notSingle 0) := by
  cases compares : operator.compares with
  | true =>
      rw [apply_eq_related compares, related_nothing]
      rfl
  | false =>
      cases operator with
      | and | or | not => cases strict
      | eq | ne | lt | gt | le | ge | like | «in» => cases compares
      | _ => rfl

end Value

namespace Filter

variable {metadata : Metadata} {name : String}

theorem evaluate_attr_unresolved (unresolved : metadata.select name = []) (type : ValueType) :
    (Expression.attr name type).evaluate metadata = .ok (.list []) := by
  rw [Expression.evaluate, Metadata.attributeValue, unresolved]
  rfl

/-- A test of nothing that looks at both sides is false or has a fault. -/
theorem evaluate_unresolved (unresolved : metadata.select name = []) {operator : Operator}
    (strict : operator.strict = true) (type : ValueType) (literal : Json) :
    (test name operator type literal).compile.evaluate metadata =
      if operator.compares then .ok (.bool false) else .error (.notSingle 0) := by
  rw [compile, Expression.evaluate_call strict,
    Expression.evaluateAll_pair (evaluate_attr_unresolved unresolved type) rfl]
  exact Value.apply_nothing strict _

/-- A disjunction with nothing is as true as its literal. -/
theorem evaluate_or_unresolved (unresolved : metadata.select name = []) (type : ValueType)
    (literal : Json) :
    (test name .or type literal).compile.evaluate metadata =
      .ok (.bool (Value.coerce type (.ofJson literal)).truthy) := by
  rw [compile, Expression.evaluate, Expression.anyTrue,
    evaluate_attr_unresolved unresolved type]
  generalize Value.coerce type (.ofJson literal) = value
  have onlyLiteral : Expression.anyTrue metadata [.literal value] = .ok value.truthy := by
    show (if value.truthy then Except.ok true else Except.ok false) = _
    cases value.truthy <;> rfl
  exact congrArg (Except.map Value.bool) onlyLiteral

/-- A test whose name selects nothing holds only as a disjunction with a literal that counts as
true. -/
theorem accepts_unresolved (unresolved : metadata.select name = []) (operator : Operator)
    (type : ValueType) (literal : Json) :
    (test name operator type literal).compile.accepts metadata = true ↔
      operator = .or ∧ (Value.coerce type (.ofJson literal)).truthy = true := by
  rw [Expression.accepts]
  cases strict : operator.strict with
  | true =>
      have notOr : operator ≠ .or := by
        intro same
        rw [same] at strict
        cases strict
      rw [evaluate_unresolved unresolved strict]
      cases operator.compares <;> simp [Value.truthy, notOr]
  | false =>
      cases operator with
      | or =>
          rw [evaluate_or_unresolved unresolved]
          simp [Value.truthy]
      | and =>
          rw [compile, Expression.evaluate, Expression.allTrue,
            evaluate_attr_unresolved unresolved type]
          simp [Value.truthy, bind, Except.bind, pure, Except.pure, Except.map]
      | not => simp [compile, Expression.evaluate, throw, throwThe, MonadExceptOf.throw]
      | _ => cases strict

/-- Also being different is false of a missing attribute. -/
theorem accepts_unresolved_of_difference :
    (Metadata.empty.withAttribute "/what/object" "PVOL").select "how/missing" = [] ∧
      (test "how/missing" .ne .int (.string "7")).compile.accepts
        (Metadata.empty.withAttribute "/what/object" "PVOL") = false := by
  have unresolved : (Metadata.empty.withAttribute "/what/object" "PVOL").select "how/missing" = [] :=
    by decide +kernel
  have verdict := accepts_unresolved unresolved .ne .int (.string "7")
  exact ⟨unresolved, by simpa using verdict⟩

/-- A disjunction can be configured as a test, and it holds of a file that has no attributes. -/
theorem accepts_unresolved_of_disjunction :
    ofValue (.object
        [ ("filter_type", .string "attribute_filter"), ("name", .string "how/missing"),
          ("operation", .string "or"), ("value", .string "x"), ("value_type", .string "string") ]) =
      .ok (test "how/missing" .or .string (.string "x")) ∧
      Metadata.empty.select "how/missing" = [] ∧
      (test "how/missing" .or .string (.string "x")).compile.accepts .empty = true := by
  exact ⟨rfl, by decide +kernel, rfl⟩

end Filter

/-! ## A text against itself -/

namespace Selector

/-- Whether a name is of none of the special forms. -/
def ordinary (name : String) : Bool :=
  !startsWithAny
    [ "what/source:", "_bdb/source:", "_baltrad/source:", "_bdb/source_name",
      "_baltrad/source_name" ] name

/-- An ordinary name selects by the ends of paths. -/
theorem ofName_of_ordinary {name : String} (isOrdinary : ordinary name = true) :
    ofName name = pathEnd (split '/' name.toList) := by
  simp only [ordinary, startsWithAny, List.any_cons, List.any_nil, Bool.or_false,
    Bool.not_eq_true', Bool.or_eq_false_iff] at isOrdinary
  simp only [ofName, startsWithAny, List.any_cons, List.any_nil, Bool.or_false, isOrdinary,
    Bool.false_eq_true, if_false]

end Selector

/-- An attribute is selected by its whole path. -/
theorem Metadata.mem_select_of_path {metadata : Metadata} {name content : String}
    (isOrdinary : Selector.ordinary name = true)
    (present : ⟨name, content⟩ ∈ metadata.attributes) : content ∈ metadata.select name := by
  rw [select, Selector.ofName_of_ordinary isOrdinary, Selector.select]
  refine List.mem_map.mpr ⟨⟨name, content⟩, List.mem_filter.mpr ⟨present, ?_⟩, rfl⟩
  simp

namespace Filter

variable {metadata : Metadata} {name content : String} {type : ValueType}

/-- An attribute and a literal that gives the same text meet as equals. -/
theorem meets_of_present {literal : Value} (isOrdinary : Selector.ordinary name = true)
    (present : ⟨name, content⟩ ∈ metadata.attributes)
    (isNumber : ¬ (type = .double ∧ Value.read .double content = .double .nan))
    (given : Value.read type content ∈ literal.scalars) :
    Value.Meets (metadata.attributeValue name type) literal .eq := by
  refine ⟨Value.read type content, ?_, Value.read type content, given,
    Value.compare?_read_self isNumber⟩
  rw [Metadata.scalars_attributeValue]
  exact List.mem_map_of_mem (Metadata.mem_select_of_path isOrdinary present)

/-- A test whose literal is the text of an attribute holds when it asks for equality or for
membership in a list with the text, and does not hold when it asks for a difference; only texts
that are read as not-a-number are excepted. -/
theorem typed_equality_reflexive (isOrdinary : Selector.ordinary name = true)
    (present : ⟨name, content⟩ ∈ metadata.attributes)
    (isNumber : ¬ (type = .double ∧ Value.read .double content = .double .nan)) :
    (test name .eq type (.string content)).compile.accepts metadata = true ∧
      (test name .le type (.string content)).compile.accepts metadata = true ∧
      (test name .ge type (.string content)).compile.accepts metadata = true ∧
      (∀ items, .string content ∈ items →
        (test name .in type (.array items)).compile.accepts metadata = true) ∧
      (test name .ne type (.string content)).compile.evaluate metadata = .ok (.bool false) := by
  have given : Value.read type content ∈
      (Value.coerce type (.ofJson (.string content))).scalars := by
    rw [Value.ofJson, Value.coerce_text, Value.scalars_read]
    exact List.mem_singleton_self _
  have equal := meets_of_present isOrdinary present isNumber given
  refine ⟨?_, ?_, ?_, ?_, ?_⟩
  · rw [accepts_compile rfl]
    exact Value.holds_eq_iff.mpr equal
  · rw [accepts_compile rfl]
    exact Value.holds_le_iff.mpr (.inr equal)
  · rw [accepts_compile rfl]
    exact Value.holds_ge_iff.mpr (.inr equal)
  · intro items listed
    have among : Value.read type content ∈ (Value.coerce type (.ofJson (.array items))).scalars := by
      simp only [Value.ofJson, Value.coerce, Value.scalars_list, Value.coerceItems_eq_map,
        Value.ofItems_eq_map, List.map_map]
      exact List.mem_map.mpr ⟨.string content, listed, by simp [Value.ofJson, Value.coerce]⟩
    rw [accepts_compile rfl]
    exact Value.isIn_iff.mpr (meets_of_present isOrdinary present isNumber among)
  · rw [evaluate_test rfl]
    have different : (test name .ne type (.string content)).holds metadata ≠ true :=
      fun differs => (Value.holds_ne_iff.mp differs).2.2 equal
    rw [Bool.eq_false_iff.mpr different]

/-- An angle with a zero too many is written in the filter as it is in the file, where another
angle is not a number. -/
theorem typed_equality_reflexive_of_angle :
    let metadata : Metadata :=
      { Metadata.empty with
        attributes := [⟨"/how/where/elangle", "nan"⟩, ⟨"where/elangle", " 0.50"⟩] }
    ⟨"where/elangle", " 0.50"⟩ ∈ metadata.attributes ∧
      (test "where/elangle" .le .double (.string " 0.50")).compile.accepts metadata = true ∧
      (test "where/elangle" .in .double (.array [.null, .string " 0.50"])).compile.accepts
        metadata = true ∧
      (test "where/elangle" .ne .double (.string " 0.50")).compile.evaluate metadata =
        .ok (.bool false) := by
  intro metadata
  have isOrdinary : Selector.ordinary "where/elangle" = true := by decide +kernel
  have present : ⟨"where/elangle", " 0.50"⟩ ∈ metadata.attributes := by decide
  have isNumber :
      ¬ (ValueType.double = .double ∧ Value.read .double " 0.50" = .double .nan) := by
    intro ⟨_, isNan⟩
    have found : readDouble? (trim " 0.50").toList = some (.ofDecimal false 50 (-2)) := by
      decide +kernel
    have isFinite : Double.ofDecimal false 50 (-2) ≠ .nan := by decide +kernel
    simp only [Value.read, found] at isNan
    exact isFinite (Value.double.inj isNan)
  obtain ⟨-, lessEqual, -, isIn, differs⟩ :=
    typed_equality_reflexive isOrdinary present isNumber
  exact ⟨present, lessEqual, isIn _ (by simp), differs⟩

/-- Not-a-number is not even equal to itself. -/
example : (test "where/elangle" .eq .double (.string "nan")).compile.accepts
    (Metadata.empty.withAttribute "where/elangle" "nan") = false := by
  decide +kernel

end Filter

end RadarRelay
