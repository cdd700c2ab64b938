import RadarRelay.Filter.Operator
import RadarRelay.Filter.Value

/-!
# Expressions

An expression is a literal, an attribute of the file under evaluation, or an
operator with operands. `render` writes expressions in prefix form between
parentheses.
-/

namespace RadarRelay

open RadarRelay.Text

inductive Expression where
  | literal (value : Value)
  | attr (name : String) (type : ValueType)
  | call (operator : Operator) (operands : List Expression)

namespace Expression

instance : Inhabited Expression := ⟨literal default⟩

mutual

/-- The text of an expression. -/
def render : Expression → String
  | literal value => value.render
  | attr name type => "(attr " ++ quoted name ++ " " ++ quoted type.name ++ ")"
  | call operator operands => "(" ++ operator.symbol ++ renderOperands operands ++ ")"

/-- The texts of operands, each after a space. -/
def renderOperands : List Expression → String
  | [] => ""
  | operand :: operands => " " ++ render operand ++ renderOperands operands

end

mutual

/-- Equality of expressions; literals are compared as values are. -/
def same : Expression → Expression → Bool
  | literal left, literal right => left.same right
  | attr leftName leftType, attr rightName rightType =>
      leftName == rightName && leftType == rightType
  | call left leftOperands, call right rightOperands =>
      left == right && sameOperands leftOperands rightOperands
  | _, _ => false

@[inherit_doc same]
def sameOperands : List Expression → List Expression → Bool
  | [], [] => true
  | left :: lefts, right :: rights => same left right && sameOperands lefts rights
  | _, _ => false

end

end Expression

end RadarRelay
