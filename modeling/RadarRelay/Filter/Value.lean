import RadarRelay.Calendar.Format
import RadarRelay.Json.Printer
import RadarRelay.Number.DoubleText
import RadarRelay.Text.Quoted

/-!
# Values of expressions

Expressions evaluate to scalars of eight kinds and to lists. A value type says
how texts are to be read; reading a text as a type that it does not fit leaves
it a text. Scalars of one kind are ordered, integers and doubles are ordered
together, and all other pairs are incomparable.
-/

namespace RadarRelay

open RadarRelay.Number RadarRelay.Calendar RadarRelay.Text

/-- How the values of an attribute, and what they are compared with, are read. -/
inductive ValueType where
  | string
  | int
  | double
  | bool
  | date
  | time
  | dateTime
  deriving DecidableEq, Repr

namespace ValueType

def name : ValueType → String
  | string => "string"
  | int => "int"
  | double => "double"
  | bool => "bool"
  | date => "date"
  | time => "time"
  | dateTime => "datetime"

/-- Lower case of the ASCII letters. -/
def asciiLower (text : String) : String :=
  String.ofList (text.toList.map Char.toLower)

/-- The type with a configured name, in any case; names of no type mean texts. -/
def ofName (name : String) : ValueType :=
  let lower := asciiLower name
  if lower = "int" || lower = "integer" || lower = "long" then int
  else if lower = "double" || lower = "float" || lower = "real" then double
  else if lower = "bool" || lower = "boolean" then bool
  else if lower = "date" then date
  else if lower = "time" then time
  else if lower = "datetime" then dateTime
  else string

@[simp] theorem ofName_name (type : ValueType) : ofName type.name = type := by
  cases type <;> rfl

end ValueType

inductive Value where
  | bool (value : Bool)
  | int (value : Int)
  | double (value : Double)
  | text (value : String)
  | date (value : Date)
  | time (value : TimeOfDay)
  | moment (value : Moment)
  | interval (value : Interval)
  | list (items : List Value)

namespace Value

instance : Inhabited Value := ⟨list []⟩

mutual

/-- The value of a configured literal. Null is the empty list, and an object is its own text. -/
def ofJson : Json → Value
  | .null => list []
  | .bool value => bool value
  | .number (.whole value) => if fitsInt64 value then int value else double (.ofInt value)
  | .number (.real value) => double value
  | .string value => text value
  | .array items => list (ofItems items)
  | .object fields => text (Json.object fields).text

@[inherit_doc ofJson]
def ofItems : List Json → List Value
  | [] => []
  | item :: items => ofJson item :: ofItems items

end

/-- The word for a Boolean, in any case, or the digit for it. -/
def readBool? (content : String) : Option Bool :=
  let lower := ValueType.asciiLower (trim content)
  if lower = "true" || lower = "1" then some true
  else if lower = "false" || lower = "0" then some false
  else none

/-- Reads a text as a type; a text that does not fit stays as it is. -/
def read (type : ValueType) (content : String) : Value :=
  let trimmed := trim content
  let found := match type with
    | .string => none
    | .int => (readInt64? trimmed.toList).map int
    | .double => (readDouble? trimmed.toList).map double
    | .bool => (readBool? content).map bool
    | .date => (readDate? trimmed).map date
    | .time => (readTime? trimmed).map time
    | .dateTime => (readMoment? trimmed).map moment
  found.getD (text content)

mutual

/-- Reads texts as a type, and integers as doubles where the type asks for them; every item of a
list is read on its own. -/
def coerce (type : ValueType) : Value → Value
  | text content => read type content
  | int value => if type = .double then double (.ofInt value) else int value
  | list items => list (coerceItems type items)
  | value => value

@[inherit_doc coerce]
def coerceItems (type : ValueType) : List Value → List Value
  | [] => []
  | item :: items => coerce type item :: coerceItems type items

end

/-- What counts as true. Zeros, the empty text, the zero interval and the empty list do not. -/
def truthy : Value → Bool
  | bool value => value
  | int value => value != 0
  | double value => !value.isZero
  | text value => value != ""
  | interval value => !value.isZero
  | list items => !items.isEmpty
  | date _ => true
  | time _ => true
  | moment _ => true

/-- The order of two scalars, where they have one. -/
def compare? : Value → Value → Option Ordering
  | int left, int right => some (compare left right)
  | int left, double right => (Double.ofInt left).compare? right
  | double left, int right => left.compare? (.ofInt right)
  | double left, double right => left.compare? right
  | text left, text right => some (compare left right)
  | bool left, bool right => some (compare left right)
  | date left, date right => some (left.compare right)
  | time left, time right => some (left.compare right)
  | moment left, moment right => some (left.compare right)
  | interval left, interval right => some (compare left.nanoseconds right.nanoseconds)
  | _, _ => none

/-- Whether two scalars are comparable and equal. -/
def equals (left right : Value) : Bool :=
  left.compare? right == some .eq

mutual

/-- Equality of values of one kind; not-a-number differs from itself. -/
def same : Value → Value → Bool
  | bool left, bool right => left == right
  | int left, int right => left == right
  | double left, double right => left.same right
  | text left, text right => left == right
  | date left, date right => left == right
  | time left, time right => left == right
  | moment left, moment right => left == right
  | interval left, interval right => left == right
  | list left, list right => sameItems left right
  | _, _ => false

@[inherit_doc same]
def sameItems : List Value → List Value → Bool
  | [], [] => true
  | left :: lefts, right :: rights => same left right && sameItems lefts rights
  | _, _ => false

end

mutual

/-- How a value appears in an expression. -/
def render : Value → String
  | bool value => if value then "true" else "false"
  | int value => intText value
  | double value => Style.plain.text value
  | text value => quoted value
  | date value => value.text ""
  | time value => value.text ""
  | moment value => value.text "" "T" ""
  | interval value => value.text
  | list items => "[" ++ String.intercalate " " (renderItems items) ++ "]"

@[inherit_doc render]
def renderItems : List Value → List String
  | [] => []
  | item :: items => render item :: renderItems items

end

/-- The scalars that a value stands for: a list for its items, a scalar for itself. -/
def scalars : Value → List Value
  | list items => items
  | scalar => [scalar]

@[simp] theorem scalars_list (items : List Value) : (list items).scalars = items := rfl

@[simp] theorem ofItems_eq_map (items : List Json) : ofItems items = items.map ofJson := by
  induction items with
  | nil => rfl
  | cons item items ih => simp [ofItems, ih]

@[simp] theorem coerceItems_eq_map (type : ValueType) (items : List Value) :
    coerceItems type items = items.map (coerce type) := by
  induction items with
  | nil => rfl
  | cons item items ih => simp [coerceItems, ih]

end Value

end RadarRelay
