import RadarRelay.Error
import RadarRelay.Filter.Expression
import RadarRelay.Json.Printer

/-!
# Filters

A filter is a tree of tests on attributes. In a configuration it is an object
whose `filter_type` says which node it is; `toJson` writes that object and
`ofJson` reads it, passing over fields that it does not know. `compile` turns a
filter into the expression that is evaluated for a file.
-/

namespace RadarRelay

open RadarRelay.Number RadarRelay.Text

inductive Filter where
  | test (name : String) (operator : Operator) (type : ValueType) (literal : Json)
  | and (children : List Filter)
  | or (children : List Filter)
  | not (child : Filter)
  | always

namespace Filter

instance : Inhabited Filter := ⟨always⟩

/-- Why a value is not a filter. -/
inductive Fault where
  | notObject
  | noType
  | unknownType (name : String)
  | noText (field : String)
  | unknownOperator (symbol : String)
  | noLiteral
  | noChildren (type : String)
  | noChild
  deriving DecidableEq, Repr

/-- The wording of a fault. -/
def Fault.message : Fault → String
  | notObject => "filter must be a JSON object"
  | noType => "filter is missing 'filter_type'"
  | unknownType name => "unknown filter_type '" ++ name ++ "'"
  | noText field => "attribute_filter requires a string '" ++ field ++ "'"
  | unknownOperator symbol => Operator.unknownMessage symbol
  | noLiteral => "attribute_filter requires 'value'"
  | noChildren type => type ++ " requires a list as 'value'"
  | noChild => "not_filter requires a nested filter as 'value'"

/-- A fault as an error of the configuration. -/
def Fault.error (fault : Fault) : Error :=
  .config fault.message

/-- A field that holds a text. -/
def textField (fields : List (String × Json)) (name : String) : Except Fault String :=
  match (Json.lookup name fields).bind Json.string? with
  | some text => .ok text
  | none => .error (.noText name)

/-- Reads a test; the fields are looked at in a fixed order. -/
def testOfFields (fields : List (String × Json)) : Except Fault Filter := do
  let name ← textField fields "name"
  let symbol ← textField fields "operation"
  let some operator := Operator.ofSymbol? symbol | throw (.unknownOperator symbol)
  let type ← textField fields "value_type"
  let some literal := Json.lookup "value" fields | throw .noLiteral
  return test name operator (.ofName type) literal

/-- The type that an object says it has. -/
def typeOfFields (fields : List (String × Json)) : Except Fault String :=
  match (Json.lookup "filter_type" fields).bind Json.string? with
  | some type => .ok type
  | none => .error .noType

mutual

/-- Reads a filter from the object that stands for it. -/
def ofJson : Json → Except Fault Filter
  | .object fields => do
      match ← typeOfFields fields with
      | "attribute_filter" => testOfFields fields
      | "and_filter" => return and (← childrenOfFields "and_filter" fields)
      | "or_filter" => return or (← childrenOfFields "or_filter" fields)
      | "not_filter" => return not (← childOfFields fields)
      | "always_filter" => return always
      | type => throw (.unknownType type)
  | _ => throw .notObject

/-- Reads the filter in the field `value`. -/
def childOfFields : List (String × Json) → Except Fault Filter
  | [] => throw .noChild
  | (name, value) :: fields => if name = "value" then ofJson value else childOfFields fields

/-- Reads the filters in the field `value`. -/
def childrenOfFields (type : String) : List (String × Json) → Except Fault (List Filter)
  | [] => throw (.noChildren type)
  | (name, value) :: fields =>
      if name = "value" then
        match value with
        | .array items => ofItems items
        | _ => throw (.noChildren type)
      else childrenOfFields type fields

@[inherit_doc ofJson]
def ofItems : List Json → Except Fault (List Filter)
  | [] => return []
  | item :: items => do
      let filter ← ofJson item
      return filter :: (← ofItems items)

end

mutual

/-- The object that stands for a filter. -/
def toJson : Filter → Json
  | test name operator type literal =>
      .object
        [ ("filter_type", .string "attribute_filter"),
          ("name", .string name),
          ("operation", .string operator.symbol),
          ("value", literal),
          ("value_type", .string type.name) ]
  | and children =>
      .object [("filter_type", .string "and_filter"), ("value", .array (toItems children))]
  | or children =>
      .object [("filter_type", .string "or_filter"), ("value", .array (toItems children))]
  | not child =>
      .object [("filter_type", .string "not_filter"), ("value", toJson child)]
  | always =>
      .object [("filter_type", .string "always_filter"), ("value", .object [])]

@[inherit_doc toJson]
def toItems : List Filter → List Json
  | [] => []
  | child :: children => toJson child :: toItems children

end

mutual

/-- The expression that a filter stands for. Literals are read as the type of their test. -/
def compile : Filter → Expression
  | test name operator type literal =>
      .call operator [.attr name type, .literal (Value.coerce type (.ofJson literal))]
  | and children => .call .and (compileAll children)
  | or children => .call .or (compileAll children)
  | not child => .call .not [compile child]
  | always => .literal (.bool true)

@[inherit_doc compile]
def compileAll : List Filter → List Expression
  | [] => []
  | child :: children => compile child :: compileAll children

end

mutual

/-- Equality of filters; literals are compared as values are. -/
def same : Filter → Filter → Bool
  | test leftName leftOperator leftType left, test rightName rightOperator rightType right =>
      leftName == rightName && leftOperator == rightOperator && leftType == rightType &&
        left.same right
  | and lefts, and rights => sameAll lefts rights
  | or lefts, or rights => sameAll lefts rights
  | not left, not right => same left right
  | always, always => true
  | _, _ => false

@[inherit_doc same]
def sameAll : List Filter → List Filter → Bool
  | [], [] => true
  | left :: lefts, right :: rights => same left right && sameAll lefts rights
  | _, _ => false

end

/-- Whether a filter is the one that accepts everything. -/
def isAlways : Filter → Bool
  | always => true
  | _ => false

/-- Reads a filter from a free-form value. -/
def ofValue (value : Json) : Except Error Filter :=
  (ofJson value).mapError Fault.error

@[simp] theorem compileAll_eq_map (children : List Filter) :
    compileAll children = children.map compile := by
  induction children with
  | nil => rfl
  | cons child children ih => simp [compileAll, ih]

@[simp] theorem toItems_eq_map (children : List Filter) :
    toItems children = children.map toJson := by
  induction children with
  | nil => rfl
  | cons child children ih => simp [toItems, ih]

end Filter

end RadarRelay
