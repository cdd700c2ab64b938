import RadarRelay.Filter.Expression
import RadarRelay.Filter.Lookup
import RadarRelay.Filter.Wildcard

/-!
# Evaluation of expressions

An expression is evaluated against the metadata of one file. Attributes give
lists; comparisons ask whether some scalar of one side stands in the relation to
some scalar of the other, so an attribute that selects nothing satisfies no
comparison. Arithmetic is exact on integers, dates and intervals, or a fault.
`And` and `or` stop at the first operand that settles them.
-/

namespace RadarRelay

open RadarRelay.Number RadarRelay.Calendar

/-- How many operands an operator takes, as far as a fault says. -/
inductive Arity where
  | one
  | two
  | other
  deriving DecidableEq, Repr

/-- The wording of an arity. -/
def Arity.wording : Arity → String
  | one => "exactly 1"
  | two => "exactly 2"
  | other => "a different number of"

/-- Why an expression has no value. -/
inductive EvaluationFault where
  | operandCount (operator : Operator) (expected : Arity) (actual : Nat)
  | notSingle (count : Nat)
  | notInteger (operator : Operator) (found : Value)
  | invalidArguments (operator : Operator) (numbers : List Int)
  | undefined (operator : Operator) (left right : Value)
  | overflow (operator : Operator)
  | divisionByZero
  /-- An intermediate result that stops the program. -/
  | crash

/-- The wording of an evaluation fault. -/
def EvaluationFault.message : EvaluationFault → String
  | operandCount operator expected actual =>
      "'" ++ operator.symbol ++ "' takes " ++ expected.wording ++ " operand(s), got " ++
        natText actual
  | notSingle count => "expected a single value, got " ++ natText count ++ " values"
  | notInteger operator found =>
      "'" ++ operator.symbol ++ "' expects integer arguments, got " ++ found.render
  | invalidArguments operator numbers =>
      "invalid arguments to '" ++ operator.symbol ++ "': [" ++
        String.intercalate ", " (numbers.map intText) ++ "]"
  | undefined operator left right =>
      "'" ++ operator.symbol ++ "' is not defined for " ++ left.render ++ " and " ++ right.render
  | overflow operator => "overflow in '" ++ operator.symbol ++ "'"
  | divisionByZero => "division by zero"
  | crash => "overflow"

abbrev Evaluated := Except EvaluationFault

namespace Value

/-- The scalar that a value stands for. -/
def single (value : Value) : Evaluated Value :=
  match value.scalars with
  | [scalar] => .ok scalar
  | items => .error (.notSingle items.length)

/-- Whether an ordering satisfies a comparison operator. -/
def admits : Operator → Ordering → Bool
  | .eq, ordering => ordering == .eq
  | .lt, ordering => ordering == .lt
  | .gt, ordering => ordering == .gt
  | .le, ordering => ordering != .gt
  | .ge, ordering => ordering != .lt
  | _, _ => false

/-- Whether two scalars are comparable and stand in the relation of an operator. -/
def relates (operator : Operator) (left right : Value) : Bool :=
  match left.compare? right with
  | some ordering => admits operator ordering
  | none => false

/-- Whether some scalar of one value and some scalar of another satisfy a test. -/
def somePair (test : Value → Value → Bool) (left right : Value) : Bool :=
  left.scalars.any fun item => right.scalars.any (test item)

/-- Comparison of values. Values differ when neither is empty and no scalars agree. -/
def holds (operator : Operator) (left right : Value) : Bool :=
  if left.scalars.isEmpty || right.scalars.isEmpty then false
  else if operator = .ne then !somePair equals left right
  else somePair (relates operator) left right

/-- Membership: some scalar of one value equals some scalar of the other. -/
def isIn (left right : Value) : Bool :=
  somePair equals left right

/-- Whether a scalar is a text that begins as a pattern describes. -/
def fits (pattern : String) : Value → Bool
  | text content => Wildcard.matchesStart pattern.toList content.toList
  | _ => false

/-- Wildcard match of some scalar; the pattern is the first scalar of the right side. -/
def isLike (left right : Value) : Bool :=
  match right.scalars with
  | text pattern :: _ => left.scalars.any (fits pattern)
  | _ => false

/-- Two numbers as doubles. -/
def doubles? : Value → Value → Option (Double × Double)
  | int left, int right => some (.ofInt left, .ofInt right)
  | int left, double right => some (.ofInt left, right)
  | double left, int right => some (left, .ofInt right)
  | double left, double right => some (left, right)
  | _, _ => none

/-- An integer result, unless it leaves 64 bits. -/
def checked (operator : Operator) (number : Int) : Evaluated Value :=
  if fitsInt64 number then .ok (int number) else .error (.overflow operator)

/-- The result of a calendar computation. -/
def ofCalendar {result : Type} (operator : Operator) (view : result → Value) :
    Except Fault result → Evaluated Value
  | .ok found => .ok (view found)
  | .error .overflow => .error (.overflow operator)
  | .error .secondsOverflow => .error .crash

def add (left right : Value) : Evaluated Value :=
  match left, right with
  | int left, int right => checked .add (left + right)
  | date day, interval span | interval span, date day =>
      ofCalendar .add date (day.addInterval span)
  | moment start, interval span | interval span, moment start =>
      ofCalendar .add moment (start.addInterval span)
  | interval left, interval right => ofCalendar .add interval (left.add right)
  | _, _ =>
      match doubles? left right with
      | some (left, right) => .ok (double (left.add right))
      | none => .error (.undefined .add left right)

def sub (left right : Value) : Evaluated Value :=
  match left, right with
  | int left, int right => checked .sub (left - right)
  | date day, interval span => ofCalendar .sub date (day.subInterval span)
  | moment start, interval span => ofCalendar .sub moment (start.subInterval span)
  | date left, date right => .ok (interval (left.since right))
  | moment left, moment right => .ok (interval (left.since right))
  | interval left, interval right => ofCalendar .sub interval (left.sub right)
  | _, _ =>
      match doubles? left right with
      | some (left, right) => .ok (double (left.sub right))
      | none => .error (.undefined .sub left right)

def mul (left right : Value) : Evaluated Value :=
  match left, right with
  | int left, int right => checked .mul (left * right)
  | interval span, int factor | int factor, interval span =>
      ofCalendar .mul interval (span.mul factor)
  | _, _ =>
      match doubles? left right with
      | some (left, right) => .ok (double (left.mul right))
      | none => .error (.undefined .mul left right)

/-- Quotients lose their fraction, of doubles as well as of integers. -/
def div (left right : Value) : Evaluated Value :=
  match left, right with
  | int left, int right =>
      if right = 0 then .error .divisionByZero else checked .div (left.tdiv right)
  | _, _ =>
      match doubles? left right with
      | some (left, right) =>
          if right.isZero then .error .divisionByZero else .ok (double (left.div right).trunc)
      | none => .error (.undefined .div left right)

/-- The integers that the operands of a constructing operator stand for. -/
def integers (operator : Operator) : List Value → Evaluated (List Int)
  | [] => .ok []
  | operand :: operands => do
      match ← operand.single with
      | int number => return number :: (← integers operator operands)
      | found => throw (.notInteger operator found)

/-- A part of a date or time; parts left out are zero, and parts have 32 bits. -/
def part? (numbers : List Int) (index : Nat) : Option Nat :=
  let number := numbers.getD index 0
  if 0 ≤ number ∧ number ≤ 0xffff_ffff then some number.toNat else none

def constructDate? (numbers : List Int) : Option Date := do
  let year := numbers.getD 0 0
  guard (fitsInt32 year)
  Date.ofCivil? ⟨year, ← part? numbers 1, ← part? numbers 2⟩

/-- The time whose parts start at an index. -/
def constructTime? (numbers : List Int) (start : Nat) : Option TimeOfDay := do
  TimeOfDay.ofParts? (← part? numbers start) (← part? numbers (start + 1))
    (← part? numbers (start + 2))

/-- Days, seconds and microseconds; each sum on the way has to be in range. -/
def constructInterval? (numbers : List Int) : Option Interval := do
  let days ← Interval.ofDays? (numbers.getD 0 0)
  let seconds ← Interval.ofSeconds? (numbers.getD 1 0)
  let whole ← (days.add seconds).toOption
  (whole.add (.ofMicroseconds (numbers.getD 2 0))).toOption

/-- Builds a date, a time, a moment or an interval from integers. -/
def construct (operator : Operator) (numbers : List Int) : Evaluated Value :=
  let count := numbers.length
  let built (found : Option Value) : Evaluated Value :=
    match found with
    | some value => .ok value
    | none => .error (.invalidArguments operator numbers)
  match operator with
  | .date =>
      if count = 3 then built ((constructDate? numbers).map date)
      else .error (.operandCount operator .other count)
  | .time =>
      if 2 ≤ count ∧ count ≤ 3 then built ((constructTime? numbers 0).map time)
      else .error (.operandCount operator .other count)
  | .dateTime =>
      if 3 ≤ count ∧ count ≤ 6 then
        built do return moment ⟨← constructDate? numbers, ← constructTime? numbers 3⟩
      else .error (.operandCount operator .other count)
  | _ =>
      if 1 ≤ count ∧ count ≤ 3 then built ((constructInterval? numbers).map interval)
      else .error (.operandCount operator .other count)

/-- Applies an operator of two operands. -/
def combine (operator : Operator) (left right : Value) : Evaluated Value :=
  match operator with
  | .add => do add (← left.single) (← right.single)
  | .sub => do sub (← left.single) (← right.single)
  | .mul => do mul (← left.single) (← right.single)
  | .div => do div (← left.single) (← right.single)
  | .like => .ok (bool (isLike left right))
  | .in => .ok (bool (isIn left right))
  | comparison => .ok (bool (holds comparison left right))

/-- Applies an operator to evaluated operands. -/
def apply (operator : Operator) (operands : List Value) : Evaluated Value :=
  match operator with
  | .date | .time | .dateTime | .interval => do
      construct operator (← integers operator operands)
  | _ =>
      match operands with
      | [left, right] => combine operator left right
      | _ => .error (.operandCount operator .two operands.length)

end Value

namespace Metadata

/-- The value of an attribute: the texts that its name selects, each read as a type. -/
def attributeValue (metadata : Metadata) (name : String) (type : ValueType) : Value :=
  Value.coerce type (.list ((metadata.select name).map .text))

end Metadata

namespace Expression

mutual

/-- Evaluates an expression; operands are evaluated from left to right. -/
def evaluate (metadata : Metadata) : Expression → Evaluated Value
  | literal value => .ok value
  | attr name type => .ok (metadata.attributeValue name type)
  | call .and operands => (allTrue metadata operands).map .bool
  | call .or operands => (anyTrue metadata operands).map .bool
  | call .not operands => do
      match operands with
      | [operand] => return .bool !(← evaluate metadata operand).truthy
      | operands => throw (.operandCount .not .one operands.length)
  | call operator operands => do
      Value.apply operator (← evaluateAll metadata operands)

/-- Whether all operands are true; the first false one ends the evaluation. -/
def allTrue (metadata : Metadata) : List Expression → Evaluated Bool
  | [] => .ok true
  | operand :: operands => do
      if (← evaluate metadata operand).truthy then allTrue metadata operands else return false

/-- Whether some operand is true; the first true one ends the evaluation. -/
def anyTrue (metadata : Metadata) : List Expression → Evaluated Bool
  | [] => .ok false
  | operand :: operands => do
      if (← evaluate metadata operand).truthy then return true else anyTrue metadata operands

@[inherit_doc evaluate]
def evaluateAll (metadata : Metadata) : List Expression → Evaluated (List Value)
  | [] => .ok []
  | operand :: operands => do
      let value ← evaluate metadata operand
      return value :: (← evaluateAll metadata operands)

end

/-- Whether a file satisfies an expression. Without a value there is no match. -/
def accepts (expression : Expression) (metadata : Metadata) : Bool :=
  match expression.evaluate metadata with
  | .ok value => value.truthy
  | .error _ => false

/-- Why an expression has no value for a file, when it has none. -/
def fault? (expression : Expression) (metadata : Metadata) : Option EvaluationFault :=
  match expression.evaluate metadata with
  | .ok _ => none
  | .error fault => fault

end Expression

end RadarRelay
