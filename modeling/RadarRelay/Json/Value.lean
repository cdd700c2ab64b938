import RadarRelay.Number.Decimal
import RadarRelay.Number.Double

/-!
# Free-form values

A free-form value is what a JSON document denotes. Numbers are whole when they
were written as integers of 64 bits, signed or unsigned, and doubles otherwise.
The fields of an object are kept in ascending order of their names, each name
once; a later field replaces an earlier one of the same name.
-/

namespace RadarRelay

open RadarRelay.Number

namespace Json

/-- A number of a free-form value. -/
inductive Number where
  | whole (value : Int)
  | real (value : Double)
  deriving DecidableEq

end Json

inductive Json where
  | null
  | bool (value : Bool)
  | number (value : Json.Number)
  | string (value : String)
  | array (items : List Json)
  | object (fields : List (String × Json))

namespace Json

instance : Inhabited Json := ⟨null⟩

/-- Numbers agree when both are whole or both are doubles, and their values agree. -/
def Number.same : Number → Number → Bool
  | whole left, whole right => left == right
  | real left, real right => left.same right
  | _, _ => false

/-- The double nearest to a number. -/
def Number.toDouble : Number → Double
  | whole value => .ofInt value
  | real value => value

mutual

/-- Equality of values; numbers are compared by value, so not every value equals itself. -/
def same : Json → Json → Bool
  | null, null => true
  | bool left, bool right => left == right
  | number left, number right => left.same right
  | string left, string right => left == right
  | array left, array right => sameItems left right
  | object left, object right => sameFields left right
  | _, _ => false

@[inherit_doc same]
def sameItems : List Json → List Json → Bool
  | [], [] => true
  | left :: lefts, right :: rights => same left right && sameItems lefts rights
  | _, _ => false

@[inherit_doc same]
def sameFields : List (String × Json) → List (String × Json) → Bool
  | [], [] => true
  | (leftName, left) :: lefts, (rightName, right) :: rights =>
      leftName == rightName && same left right && sameFields lefts rights
  | _, _ => false

end

mutual

/-- How many containers a value has on top of each other. -/
def depth : Json → Nat
  | array items => depthOfItems items + 1
  | object fields => depthOfFields fields + 1
  | _ => 0

@[inherit_doc depth]
def depthOfItems : List Json → Nat
  | [] => 0
  | item :: items => max (depth item) (depthOfItems items)

@[inherit_doc depth]
def depthOfFields : List (String × Json) → Nat
  | [] => 0
  | (_, value) :: fields => max (depth value) (depthOfFields fields)

end

/-- Puts a field in its place, over an earlier one of the same name. -/
def insertField (name : String) (value : Json) : List (String × Json) → List (String × Json)
  | [] => [(name, value)]
  | (otherName, other) :: rest =>
      if name = otherName then (name, value) :: rest
      else if name < otherName then (name, value) :: (otherName, other) :: rest
      else (otherName, other) :: insertField name value rest

/-- The object of fields in any order; the last of several fields of one name counts. -/
def ofFields (fields : List (String × Json)) : Json :=
  object (fields.foldl (fun placed (name, value) => insertField name value placed) [])

/-- The value of a field. -/
def lookup (name : String) : List (String × Json) → Option Json
  | [] => none
  | (otherName, value) :: rest => if name = otherName then some value else lookup name rest

/-- The field of an object; other values have no fields. -/
def field? (name : String) : Json → Option Json
  | object fields => lookup name fields
  | _ => none

def string? : Json → Option String
  | string value => some value
  | _ => none

def array? : Json → Option (List Json)
  | array items => some items
  | _ => none

def isNull : Json → Bool
  | null => true
  | _ => false

/-- A whole number that fits 64 signed bits. -/
def int64? : Json → Option Int
  | number (.whole value) => if fitsInt64 value then some value else none
  | _ => none

/-- A natural number as a value. -/
def ofNat (value : Nat) : Json :=
  number (.whole value)

/-- An optional value; nothing is null. -/
def ofOption {kind : Type} (view : kind → Json) : Option kind → Json
  | some value => view value
  | none => null

@[simp] theorem lookup_insertField_self (name : String) (value : Json)
    (fields : List (String × Json)) : lookup name (insertField name value fields) = some value := by
  induction fields with
  | nil => simp [insertField, lookup]
  | cons field rest ih =>
      obtain ⟨otherName, other⟩ := field
      simp only [insertField]
      split
      · simp [lookup]
      · rename_i different
        split
        · simp [lookup]
        · simp [lookup, different, ih]

theorem lookup_insertField_of_ne {name otherName : String} (different : name ≠ otherName)
    (value : Json) (fields : List (String × Json)) :
    lookup name (insertField otherName value fields) = lookup name fields := by
  induction fields with
  | nil => simp [insertField, lookup, different]
  | cons field rest ih =>
      obtain ⟨headName, head⟩ := field
      simp only [insertField]
      split
      · rename_i equal
        subst equal
        simp [lookup, different]
      · split
        · simp [lookup, different]
        · simp [lookup, ih]

end Json

end RadarRelay
