import RadarRelay.Filter.Match
import RadarRelay.Filter.Tree

/-!
# Filters that have been written

The object that stands for a filter has all that reading asks for: each kind of
node is written with the type, the fields and the shape that are looked for when
it is read. Reading what was written therefore gives the filter back, however deep
the tree, and with it the expression and every verdict.
-/

namespace RadarRelay.Filter

/-- A test is found again under the names of its fields. -/
theorem testOfFields_toJson (name : String) (operator : Operator) (type : ValueType)
    (literal : Json) :
    testOfFields
        [ ("filter_type", .string "attribute_filter"),
          ("name", .string name),
          ("operation", .string operator.symbol),
          ("value", literal),
          ("value_type", .string type.name) ] =
      .ok (test name operator type literal) := by
  simp [testOfFields, textField, Json.lookup, Json.string?, bind, Except.bind, pure, Except.pure]

mutual

/-- A filter that has been written is read back. -/
theorem ofJson_toJson (filter : Filter) : ofJson filter.toJson = .ok filter := by
  cases filter with
  | test name operator type literal => exact testOfFields_toJson name operator type literal
  | and children =>
      have read := ofItems_toItems children
      show (do return and (← ofItems (toItems children)) : Except Fault Filter) = .ok (and children)
      rw [read]
      rfl
  | or children =>
      have read := ofItems_toItems children
      show (do return or (← ofItems (toItems children)) : Except Fault Filter) = .ok (or children)
      rw [read]
      rfl
  | not child =>
      have read := ofJson_toJson child
      show (do return not (← ofJson (toJson child)) : Except Fault Filter) = .ok (not child)
      rw [read]
      rfl
  | always => rfl

/-- So are filters that have been written as the items of an array. -/
theorem ofItems_toItems (filters : List Filter) : ofItems (toItems filters) = .ok filters := by
  cases filters with
  | nil => rfl
  | cons filter filters =>
      rw [toItems, ofItems, ofJson_toJson filter, ofItems_toItems filters]
      rfl

end

/-- What was written for a filter is read as a filter. It is the same one, so it stands for the same
expression and gives the same verdict on every file. -/
theorem ofValue_toJson (filter : Filter) :
    ∃ reread, ofValue filter.toJson = .ok reread ∧ reread = filter ∧
      reread.compile = filter.compile ∧
      ∀ (metadata : Metadata) (State : Type),
        (reread.compile.check metadata : Activity State Bool) = filter.compile.check metadata := by
  have read : ofValue filter.toJson = .ok filter := by
    rw [ofValue, ofJson_toJson]
    rfl
  exact ⟨filter, read, rfl, rfl, fun _ _ => rfl⟩

end RadarRelay.Filter
