import RadarRelay.Document.Outline
import RadarRelay.Number.DoubleText
import RadarRelay.Text.Quoted

/-!
# Shapes of documents

A decoder reads a value of some type from an outline, or says what is wrong
with the outline. It reads from the front, so that of several faults the first
in reading order is found. Documents come in four dialects. Configuration texts
are lenient about numbers; free-form values and JSON texts are not; a value that
may have one of several shapes is read like a free-form value. Dialects also
differ in what they say of an ill-shaped value.

A codec pairs a decoder with an encoder whose results the decoder reads back.
-/

namespace RadarRelay.Document

open RadarRelay.Number RadarRelay.Text

inductive Dialect where
  /-- A configuration text in JSON5. -/
  | configuration
  /-- A free-form value that was read before. -/
  | value
  /-- A JSON text. -/
  | text
  /-- A part of a configuration text that may have one of several shapes. -/
  | alternative
  deriving DecidableEq, Repr

/-- Why an outline does not have a required shape. -/
inductive ShapeFault where
  | broken (fault : Fault)
  | wrongType (found expected : String)
  | wrongValue (found expected : String)
  | wrongLength (length : Nat) (expected : String)
  | unknownField (name : String) (expected : List String)
  | unknownVariant (name : String) (expected : List String)
  | duplicateField (name : String)
  | missingField (name : String)
  | emptyObject
  | notVariant
  | noAlternative
  | refused (message : String)
  /-- The program stops: at the name of a variant with content but without its content, and where a
  number is required, at a value whose second byte begins a longer character. -/
  | crash
  deriving DecidableEq, Repr

/-- A name between grave accents. -/
def marked (name : String) : String :=
  "\x60" ++ name ++ "\x60"

/-- The names that would have been right. -/
def expectedNames (none : String) : List String → String
  | [] => none
  | [name] => "expected " ++ marked name
  | [first, second] => "expected " ++ marked first ++ " or " ++ marked second
  | names => "expected one of " ++ String.intercalate ", " (names.map marked)

/-- The wording of a shape fault. -/
def ShapeFault.message : ShapeFault → String
  | broken (.syntactic fault) => fault.message
  | broken (.literal fault) => fault.message
  | wrongType found expected => "invalid type: " ++ found ++ ", expected " ++ expected
  | wrongValue found expected => "invalid value: " ++ found ++ ", expected " ++ expected
  | wrongLength length expected =>
      "invalid length " ++ natText length ++ ", expected " ++ expected
  | unknownField name expected =>
      "unknown field " ++ marked name ++ ", " ++ expectedNames "there are no fields" expected
  | unknownVariant name expected =>
      "unknown variant " ++ marked name ++ ", " ++
        expectedNames "there are no variants" expected
  | duplicateField name => "duplicate field " ++ marked name
  | missingField name => "missing field " ++ marked name
  | emptyObject => "expected a nonempty object"
  | notVariant => "expected a string or an object"
  | noAlternative => "data did not match any variant of untagged enum OneOrMany"
  | refused message => message
  | crash => ""

abbrev Decoder (kind : Type) := Dialect → Outline → Except ShapeFault kind

/-- The content of a literal or name. -/
def readSpelling (spelling : Spelling) : Except ShapeFault String :=
  spelling.mapError .broken

/-- What an outline is, for a message. -/
def describe (dialect : Dialect) : Outline → Except ShapeFault String
  | .null => .ok (if dialect = .configuration then "unit value" else "null")
  | .bool value => .ok ("boolean " ++ marked (if value then "true" else "false"))
  | .number numeral =>
      match numeral.free with
      | .ok (.whole value) => .ok ("integer " ++ marked (intText value))
      | .ok (.real value) =>
          let style := if dialect = .configuration then Style.pointed else Style.document
          .ok ("floating point " ++ marked (style.text value))
      | .error fault => .error (.broken (.literal fault))
  | .string _ spelling => (readSpelling spelling).map fun content => "string " ++ quoted content
  | .array _ _ => .ok "sequence"
  | .object _ _ => .ok "map"
  | .broken fault => .error (.broken (.syntactic fault))

/-- The fault of an outline of another type than expected. -/
def mismatch {kind : Type} (expected : String) : Decoder kind := fun dialect outline => do
  throw (.wrongType (← describe dialect outline) expected)

/-- A reader of a type and a writer whose texts it reads back. -/
structure Codec (kind : Type) where
  decode : Decoder kind
  encode : kind → Json

namespace Codec

def bool : Codec Bool where
  decode dialect
    | .bool value => .ok value
    | other => mismatch "a boolean" dialect other
  encode := .bool

/-- A text that messages call by a name of their own. -/
def textNamed (expected : String) : Codec String where
  decode dialect
    | .string _ spelling => readSpelling spelling
    | other => mismatch expected dialect other
  encode := .string

def text : Codec String :=
  textNamed "a string"

def path : Codec String :=
  textNamed "path string"

/-- An integer between two bounds. Configuration texts may write it in any form; it is cut off
after the point and moved between the bounds. -/
def integer (expected : String) (low high : Int) : Codec Int where
  decode
    | .configuration, .number numeral =>
        match numeral.real with
        | .ok value => .ok (value.toIntWithin low high)
        | .error fault => .error (.broken (.literal fault))
    | .configuration, other =>
        match other.opening with
        | .narrow => .error (.broken (.literal .number))
        | .wide => .error .crash
    | dialect, .number numeral =>
        match numeral.free with
        | .ok (.whole value) =>
            if low ≤ value ∧ value ≤ high then .ok value
            else .error (.wrongValue ("integer " ++ marked (intText value)) expected)
        | _ => mismatch expected dialect (.number numeral)
    | dialect, other => mismatch expected dialect other
  encode value := .number (.whole value)

/-- A type that is read and written by way of another one. -/
def view {kind other : Type} (codec : Codec kind) (read : kind → other) (write : other → kind) :
    Codec other where
  decode dialect outline := (codec.decode dialect outline).map read
  encode value := codec.encode (write value)

/-- A natural number of 64 bits. -/
def natural (expected : String) : Codec Nat :=
  (integer expected 0 nat64Max).view Int.toNat fun number => (number : Int)

/-- An integer of 64 bits. -/
def int64 : Codec Int :=
  integer "i64" int64Min int64Max

/-- Any value at all. -/
def json : Codec Json where
  decode _ outline := outline.toJson.mapError .broken
  encode value := value

def option {kind : Type} (codec : Codec kind) : Codec (Option kind) where
  decode dialect
    | .null => .ok none
    | other => (codec.decode dialect other).map some
  encode
    | some value => codec.encode value
    | none => .null

def list {kind : Type} (codec : Codec kind) : Codec (List kind) where
  decode dialect
    | .array _ items => items.mapM (codec.decode dialect)
    | other => mismatch "a sequence" dialect other
  encode items := .array (items.map codec.encode)

/-- A list, or one item that stands for the list of itself. The outline is first read as a free-form
value, so the fault of a literal comes before that of the shape. -/
def oneOrMany {kind : Type} (codec : Codec kind) : Codec (List kind) where
  decode _ outline := do
    let _ ← outline.toJson.mapError .broken
    match codec.list.decode .alternative outline, codec.decode .alternative outline with
    | .ok items, _ => return items
    | .error _, .ok item => return [item]
    | .error _, .error _ => throw .noAlternative
  encode := codec.list.encode

/-- The value of a variant without content. -/
def findVariant {kind : Type} (variants : List (String × kind)) (name : String) :
    Except ShapeFault kind :=
  match variants.lookup name with
  | some value => .ok value
  | none => .error (.unknownVariant name (variants.map (·.1)))

/-- One of several named values: the name, or an object whose field of that name is null. In a
configuration text the field may hold anything, and others may follow it. -/
def variant {kind : Type} (variants : List (String × kind)) (nameOf : kind → String) :
    Codec kind where
  decode dialect outline := do
    let keyed (spelling : Spelling) (content : Outline) : Except ShapeFault kind := do
      let found ← findVariant variants (← readSpelling spelling)
      match dialect, content with
      | .configuration, _ | _, .null => return found
      | _, other => mismatch "unit" dialect other
    match dialect, outline with
    | _, .string _ spelling => findVariant variants (← readSpelling spelling)
    | .configuration, .object _ [] => throw .emptyObject
    | .configuration, .object _ ((name, content) :: _) => keyed name content
    | .configuration, _ => throw .notVariant
    | _, .object _ [(name, content)] => keyed name content
    | _, .object _ _ => throw (.wrongValue "map" "map with a single key")
    | _, other => mismatch "string or map" dialect other
  encode value := .string (nameOf value)

end Codec

end RadarRelay.Document
