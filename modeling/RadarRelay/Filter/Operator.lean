/-!
# Operators

The closed set of operators that filters and expressions use, each with the
symbol it is configured with.
-/

namespace RadarRelay

inductive Operator where
  | add
  | sub
  | mul
  | div
  | eq
  | ne
  | lt
  | gt
  | ge
  | le
  | and
  | or
  | not
  | like
  | in
  | date
  | time
  | dateTime
  | interval
  deriving DecidableEq, Repr

namespace Operator

/-- Every operator once. -/
def all : List Operator :=
  [ add, sub, mul, div, eq, ne, lt, gt, ge, le, and, or, not, like, .in, date, time, dateTime,
    interval ]

def symbol : Operator → String
  | add => "+"
  | sub => "-"
  | mul => "*"
  | div => "/"
  | eq => "="
  | ne => "!="
  | lt => "<"
  | gt => ">"
  | ge => ">="
  | le => "<="
  | and => "and"
  | or => "or"
  | not => "not"
  | like => "like"
  | .in => "in"
  | date => "date"
  | time => "time"
  | dateTime => "datetime"
  | interval => "interval"

/-- The name of an operator in a report. -/
def name : Operator → String
  | add => "Add"
  | sub => "Sub"
  | mul => "Mul"
  | div => "Div"
  | eq => "Eq"
  | ne => "Ne"
  | lt => "Lt"
  | gt => "Gt"
  | ge => "Ge"
  | le => "Le"
  | and => "And"
  | or => "Or"
  | not => "Not"
  | like => "Like"
  | .in => "In"
  | date => "Date"
  | time => "Time"
  | dateTime => "DateTime"
  | interval => "Interval"

/-- The operator with a given symbol. -/
def ofSymbol? (symbol : String) : Option Operator :=
  all.find? fun operator => operator.symbol == symbol

/-- The wording for a symbol that no operator has. -/
def unknownMessage (symbol : String) : String :=
  "unknown operation '" ++ symbol ++ "'"

theorem mem_all (operator : Operator) : operator ∈ all := by
  cases operator <;> decide

@[simp] theorem ofSymbol?_symbol (operator : Operator) :
    ofSymbol? operator.symbol = some operator := by
  cases operator <;> rfl

theorem symbol_of_ofSymbol? {symbol : String} {operator : Operator}
    (found : ofSymbol? symbol = some operator) : operator.symbol = symbol := by
  have := List.find?_some found
  simpa using this

end Operator

end RadarRelay
