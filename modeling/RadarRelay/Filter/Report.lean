import RadarRelay.Filter.Tree

/-!
# Filters in reports

Reports show a filter by its structure, with free-form values spelled out.
-/

namespace RadarRelay

open RadarRelay.Text

/-- A value type in a report. -/
def ValueType.report : ValueType → String
  | string => "String"
  | int => "Int"
  | double => "Double"
  | bool => "Bool"
  | date => "Date"
  | time => "Time"
  | dateTime => "DateTime"

namespace Json

mutual

/-- A free-form value in a report. -/
def report : Json → String
  | null => "Null"
  | bool value => "Bool(" ++ (if value then "true" else "false") ++ ")"
  | number value => "Number(" ++ String.ofList value.print ++ ")"
  | string value => "String(" ++ quoted value ++ ")"
  | array items => "Array [" ++ String.intercalate ", " (reportItems items) ++ "]"
  | object fields => "Object \x7b" ++ String.intercalate ", " (reportFields fields) ++ "\x7d"

@[inherit_doc report]
def reportItems : List Json → List String
  | [] => []
  | item :: items => report item :: reportItems items

/-- Each field with its name. -/
def reportFields : List (String × Json) → List String
  | [] => []
  | (name, value) :: fields => (quoted name ++ ": " ++ report value) :: reportFields fields

end

end Json

namespace Filter

mutual

/-- A filter in a report. -/
def report : Filter → String
  | test name operator type literal =>
      "Attribute \x7b name: " ++ quoted name ++ ", operation: " ++ operator.name ++
        ", value_type: " ++ type.report ++ ", value: " ++ literal.report ++ " \x7d"
  | and children => "And([" ++ String.intercalate ", " (reportAll children) ++ "])"
  | or children => "Or([" ++ String.intercalate ", " (reportAll children) ++ "])"
  | not child => "Not(" ++ report child ++ ")"
  | always => "Always"

@[inherit_doc report]
def reportAll : List Filter → List String
  | [] => []
  | child :: children => report child :: reportAll children

end

end Filter

end RadarRelay
