import RadarRelay.Json.Value

/-!
# Outlines of documents

An outline is what a text says before anything is asked of its shape: the
nesting of arrays and objects with the literals inside. Fields keep their order
and may repeat. A literal may be well formed and still have no content, for
instance half of a surrogate pair, so contents come with the fault that stands
in their place. Where a text stops being a document, its outline has a `broken`
leaf, the last one in reading order. Whoever reads an outline from the front
therefore meets the first problem of the text first, whether that is a fault of
the text or of its shape.
-/

namespace RadarRelay.Document

open RadarRelay.Number

/-- Why a text is not a document. -/
inductive SyntaxFault where
  | endInList
  | endInObject
  | endInString
  | endInValue
  | expectedColon
  | expectedListSeparator
  | expectedObjectSeparator
  | expectedIdent
  | expectedValue
  | invalidEscape
  | invalidNumber
  | numberOutOfRange
  | controlCharacter
  | keyNotString
  | loneSurrogate
  | unexpectedEndOfEscape
  | trailingComma
  | trailingCharacters
  | nestingTooDeep
  deriving DecidableEq, Repr

/-- The wording of a syntax fault. -/
def SyntaxFault.message : SyntaxFault → String
  | endInList => "EOF while parsing a list"
  | endInObject => "EOF while parsing an object"
  | endInString => "EOF while parsing a string"
  | endInValue => "EOF while parsing a value"
  | expectedColon => "expected \x60:\x60"
  | expectedListSeparator => "expected \x60,\x60 or \x60]\x60"
  | expectedObjectSeparator => "expected \x60,\x60 or \x60\x7d\x60"
  | expectedIdent => "expected ident"
  | expectedValue => "expected value"
  | invalidEscape => "invalid escape"
  | invalidNumber => "invalid number"
  | numberOutOfRange => "number out of range"
  | controlCharacter => "control character (\\u0000-\\u001F) found while parsing a string"
  | keyNotString => "key must be a string"
  | loneSurrogate => "lone leading surrogate in hex escape"
  | unexpectedEndOfEscape => "unexpected end of hex escape"
  | trailingComma => "trailing comma"
  | trailingCharacters => "trailing characters"
  | nestingTooDeep => "recursion limit exceeded"

/-- Why a well-formed literal has no content. -/
inductive LiteralFault where
  | integer
  | hex
  | number
  | numberTooLarge
  | missingTrailSurrogate
  | notTrailSurrogate
  | unexpectedTrailSurrogate
  deriving DecidableEq, Repr

/-- The wording of a literal fault. -/
def LiteralFault.message : LiteralFault → String
  | integer => "error parsing integer"
  | hex => "error parsing hex"
  | number => "error parsing number"
  | numberTooLarge => "error parsing number: too large"
  | missingTrailSurrogate => "missing unicode trail surrogate"
  | notTrailSurrogate => "expecting unicode trail surrogate"
  | unexpectedTrailSurrogate => "unexpected unicode trail surrogate"

/-- Why a part of a document has no content. -/
inductive Fault where
  | syntactic (fault : SyntaxFault)
  | literal (fault : LiteralFault)
  deriving DecidableEq, Repr

/-- The content of a string literal or field name. -/
abbrev Spelling := Except Fault String

/-- A number literal: its value where any value may stand, and its value where a number is
required. -/
structure Numeral where
  free : Except LiteralFault Json.Number
  real : Except LiteralFault Double

/-- The numeral of a number whose value is known. -/
def Numeral.ofNumber (number : Json.Number) : Numeral :=
  ⟨.ok number, .ok number.toDouble⟩

/-- Whether the character behind an opening bracket or quote takes one byte or several. It matters
where a number is required, because the first two bytes of a value that stands there are cut off to
see whether they are those of a hexadecimal literal. -/
inductive Opening where
  | narrow
  | wide
  deriving DecidableEq, Repr

/-- The opening in front of a text. -/
def Opening.before : List Char → Opening
  | [] => narrow
  | character :: _ => if character.toNat < 0x80 then narrow else wide

inductive Outline where
  | null
  | bool (value : Bool)
  | number (value : Numeral)
  | string (opening : Opening) (content : Spelling)
  | array (opening : Opening) (items : List Outline)
  | object (opening : Opening) (fields : List (Spelling × Outline))
  | broken (fault : SyntaxFault)

namespace Outline

mutual

/-- The outline of a value that no text has been kept of. -/
def ofJson : Json → Outline
  | .null => null
  | .bool value => bool value
  | .number value => number (.ofNumber value)
  | .string content => string .narrow (.ok content)
  | .array items => array .narrow (ofItems items)
  | .object fields => object .narrow (ofFields fields)

@[inherit_doc ofJson]
def ofItems : List Json → List Outline
  | [] => []
  | item :: items => ofJson item :: ofItems items

@[inherit_doc ofJson]
def ofFields : List (String × Json) → List (Spelling × Outline)
  | [] => []
  | (name, value) :: fields => (.ok name, ofJson value) :: ofFields fields

end

/-- The opening of a value; constants and numbers are ASCII throughout. -/
def opening : Outline → Opening
  | string opening _ | array opening _ | object opening _ => opening
  | _ => .narrow

/-- Numbers that have no literal become null. -/
def freeNumber : Json.Number → Json
  | .real value => if value.isFinite then .number (.real value) else .null
  | whole => .number whole

mutual

/-- The value that an outline denotes; the first fault in reading order wins. -/
def toJson : Outline → Except Fault Json
  | null => .ok .null
  | bool value => .ok (.bool value)
  | number value => (value.free.mapError .literal).map freeNumber
  | string _ content => content.map .string
  | array _ items => (itemsToJson items).map .array
  | object _ fields => (fieldsToJson fields).map .ofFields
  | broken fault => .error (.syntactic fault)

@[inherit_doc toJson]
def itemsToJson : List Outline → Except Fault (List Json)
  | [] => .ok []
  | item :: items => do
      let value ← toJson item
      let values ← itemsToJson items
      return value :: values

/-- Fields in written order; ordering and repetition are settled when the object is made. -/
def fieldsToJson : List (Spelling × Outline) → Except Fault (List (String × Json))
  | [] => .ok []
  | (name, value) :: fields => do
      let name ← name
      let value ← toJson value
      let values ← fieldsToJson fields
      return (name, value) :: values

end

end Outline

end RadarRelay.Document
