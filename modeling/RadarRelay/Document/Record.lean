import RadarRelay.Document.Shape

/-!
# Records in documents

A record is an object with known fields, or an array of their values in the
order of their declaration. Fields that have a default may be left out. The
description of a record serves both ways: `decode` fills in a draft that starts
from the defaults, and `encode` writes every field of a finished record.
-/

namespace RadarRelay.Document

open RadarRelay.Number

/-- One field of a record: how it is read into a draft and how it is written. -/
structure Field (record : Type) where
  name : String
  required : Bool
  read : Dialect → Outline → record → Except ShapeFault record
  write : record → Json

namespace Field

/-- A field of a type that has a codec. -/
def ofCodec {record kind : Type} (required : Bool) (name : String) (codec : Codec kind)
    (get : record → kind) (set : record → kind → record) : Field record where
  name
  required
  read dialect outline draft := (codec.decode dialect outline).map (set draft)
  write value := codec.encode (get value)

/-- A field that has to be there. -/
def needed {record kind : Type} : String → Codec kind → (record → kind) →
    (record → kind → record) → Field record :=
  ofCodec true

/-- A field that keeps its default when it is left out. -/
def defaulted {record kind : Type} : String → Codec kind → (record → kind) →
    (record → kind → record) → Field record :=
  ofCodec false

end Field

/-- The description of a record type. -/
structure Record (record : Type) where
  name : String
  /-- Whether fields of other names are refused. -/
  strict : Bool
  /-- The fields in the order of their declaration. -/
  fields : List (Field record)
  /-- The record of which no field has been read. -/
  defaults : record

namespace Record

variable {record : Type}

/-- The names of the fields. -/
def names (shape : Record record) : List String :=
  shape.fields.map (·.name)

/-- The field of a name. -/
def field? (shape : Record record) (name : String) : Option (Field record) :=
  shape.fields.find? fun field => field.name == name

/-- Reads the remaining fields of an object. The names seen so far are kept, since none may
repeat. -/
def readMembers (shape : Record record) (dialect : Dialect) :
    List String → record → List (Spelling × Outline) → Except ShapeFault (List String × record)
  | seen, draft, [] => .ok (seen, draft)
  | seen, draft, (spelling, outline) :: rest => do
      let name ← readSpelling spelling
      match shape.field? name with
      | some field =>
          if seen.contains name then throw (.duplicateField name)
          else
            let next ← field.read dialect outline draft
            shape.readMembers dialect (name :: seen) next rest
      | none =>
          if shape.strict then throw (.unknownField name shape.names)
          else
            let _ ← Codec.json.decode dialect outline
            shape.readMembers dialect seen draft rest

/-- The first required field that an object does not have. -/
def missing? (shape : Record record) (seen : List String) : Option String :=
  (shape.fields.find? fun field => field.required && !seen.contains field.name).map (·.name)

/-- What a record written as an array has to look like. -/
def arrayForm (shape : Record record) : String :=
  let count := shape.fields.length
  "struct " ++ shape.name ++ " with " ++ natText count ++
    (if count = 1 then " element" else " elements")

/-- The fault of a JSON text that goes on behind the last field of an array. -/
def surplusFault : Outline → SyntaxFault
  | .broken .trailingComma => .trailingComma
  | .broken .endInList => .endInList
  | _ => .trailingCharacters

/-- What follows the last field of an array of a given length. -/
def checkSurplus (dialect : Dialect) (length : Nat) : List Outline → Except ShapeFault Unit
  | [] => .ok ()
  | item :: _ =>
      match dialect with
      | .configuration => .ok ()
      | .value => .error (.wrongLength length "fewer elements in array")
      | .text => .error (.broken (.syntactic (surplusFault item)))
      | .alternative => .error .noAlternative

/-- Reads the fields of an array; `index` counts the fields in front of the next one. -/
def readItems (shape : Record record) (dialect : Dialect) (length : Nat) :
    Nat → List (Field record) → record → List Outline → Except ShapeFault record
  | _, [], draft, items => do
      checkSurplus dialect length items
      return draft
  | index, field :: fields, draft, item :: items => do
      let next ← field.read dialect item draft
      shape.readItems dialect length (index + 1) fields next items
  | index, field :: fields, draft, [] =>
      if field.required then .error (.wrongLength index shape.arrayForm)
      else shape.readItems dialect length (index + 1) fields draft []

def decode (shape : Record record) : Decoder record
  | dialect, .object _ members => do
      let (seen, finished) ← shape.readMembers dialect [] shape.defaults members
      match shape.missing? seen with
      | some name => throw (.missingField name)
      | none => return finished
  | dialect, .array _ items =>
      shape.readItems dialect items.length 0 shape.fields shape.defaults items
  | dialect, other => mismatch ("struct " ++ shape.name) dialect other

/-- The fields of a record with their values, in the order of their declaration. -/
def members (shape : Record record) (value : record) : List (String × Json) :=
  shape.fields.map fun field => (field.name, field.write value)

/-- A record as a codec; objects list their fields in ascending order of the names. -/
def codec (shape : Record record) : Codec record where
  decode := shape.decode
  encode value := .ofFields (shape.members value)

end Record

end RadarRelay.Document
