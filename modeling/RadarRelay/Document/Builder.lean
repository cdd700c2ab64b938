import RadarRelay.Document.Outline

/-!
# From tokens to outlines

The builder is a machine that reads one token after the other. Its state is the
place that the next token belongs to, with the path from there to the top of
the document. The two document formats differ in three rules only: whether a
comma may precede a closing bracket, whether a field name may be a bare word,
and how deep documents may nest.

When a token does not fit, the state is closed around a `broken` leaf, so that
what was read before it stays in the outline.
-/

namespace RadarRelay.Document

inductive Token where
  | openArray (opening : Opening)
  | closeArray
  | openObject (opening : Opening)
  | closeObject
  | comma
  | colon
  /-- `null`, `true` or `false`, when they stand for a value. -/
  | constant (value : Outline) (name : Spelling)
  | number (value : Numeral)
  | string (opening : Opening) (content : Spelling)
  /-- A bare word that can only be a field name. -/
  | word (name : Spelling)
  /-- A word that is both a number and a possible field name. -/
  | numberWord (value : Numeral) (name : Spelling)
  /-- A character that starts no token, or a token that is not completed. -/
  | bad (inString : Bool) (fault : SyntaxFault)

/-- A token that is a single character, in front of the remaining text. -/
def Token.punctuation? (rest : List Char) : Char → Option Token
  | '[' => some (.openArray (.before rest))
  | ']' => some .closeArray
  | '\x7b' => some (.openObject (.before rest))
  | '\x7d' => some .closeObject
  | ',' => some .comma
  | ':' => some .colon
  | _ => none

/-- The differences between document formats. -/
structure Rules where
  closeAfterComma : Bool
  wordsAsNames : Bool
  /-- The greatest number of containers around a value, when there is one. -/
  deepest : Option Nat

/-- The path from a place in a document to its top: what was read of each container. Items and
fields are kept newest first. -/
inductive Path where
  | top
  | item (opening : Opening) (items : List Outline) (outer : Path)
  | member (opening : Opening) (fields : List (Spelling × Outline)) (name : Spelling)
      (outer : Path)

namespace Path

/-- The number of containers around a place. -/
def depth : Path → Nat
  | top => 0
  | item _ _ outer => outer.depth + 1
  | member _ _ _ outer => outer.depth + 1

/-- The whole document, once nothing follows in any container of the path. -/
def close : Path → Outline → Outline
  | top, value => value
  | item opening items outer, value => outer.close (.array opening (items.reverse ++ [value]))
  | member opening fields name outer, value =>
      outer.close (.object opening (fields.reverse ++ [(name, value)]))

end Path

/-- What the next token has to be. -/
inductive State where
  /-- A value for this place. -/
  | place (path : Path)
  /-- The first item of an array, or its end. -/
  | firstItem (opening : Opening) (outer : Path)
  /-- The item after a comma. -/
  | nextItem (opening : Opening) (items : List Outline) (outer : Path)
  /-- A comma or the end of an array. -/
  | afterItem (opening : Opening) (items : List Outline) (outer : Path)
  /-- The first name of an object, or its end. -/
  | firstName (opening : Opening) (outer : Path)
  /-- The name after a comma. -/
  | nextName (opening : Opening) (fields : List (Spelling × Outline)) (outer : Path)
  /-- The colon after a name. -/
  | afterName (opening : Opening) (fields : List (Spelling × Outline)) (name : Spelling)
      (outer : Path)
  /-- A comma or the end of an object. -/
  | afterField (opening : Opening) (fields : List (Spelling × Outline)) (outer : Path)
  /-- The document is complete. -/
  | done (document : Outline)

namespace State

/-- Puts a complete value in its place. -/
def fill : Path → Outline → State
  | .top, value => done value
  | .item opening items outer, value => afterItem opening (value :: items) outer
  | .member opening fields name outer, value => afterField opening ((name, value) :: fields) outer

/-- An array that ends with what is wrong with the text. -/
def brokenArray (fault : SyntaxFault) (opening : Opening) (items : List Outline) : Outline :=
  .array opening (items.reverse ++ [.broken fault])

/-- An object that ends with what is wrong with the text. -/
def brokenObject (fault : SyntaxFault) (opening : Opening)
    (fields : List (Spelling × Outline)) : Outline :=
  .object opening (fields.reverse ++ [(.error (.syntactic fault), .broken fault)])

/-- The outline of a text that does not go on as this state requires. -/
def abandon (fault : SyntaxFault) : State → Outline
  | place path => path.close (.broken fault)
  | firstItem opening outer => outer.close (brokenArray fault opening [])
  | nextItem opening items outer => outer.close (brokenArray fault opening items)
  | afterItem opening items outer => outer.close (brokenArray fault opening items)
  | firstName opening outer => outer.close (brokenObject fault opening [])
  | nextName opening fields outer => outer.close (brokenObject fault opening fields)
  | afterName opening fields name outer =>
      outer.close (.object opening (fields.reverse ++ [(name, .broken fault)]))
  | afterField opening fields outer => outer.close (brokenObject fault opening fields)
  | done document => document

/-- The fault of a text that ends in this state; a complete document has none. -/
def endFault? : State → Option SyntaxFault
  | place _ => some .endInValue
  | firstItem _ _ => some .endInList
  | nextItem _ _ _ => some .endInValue
  | afterItem _ _ _ => some .endInList
  | firstName _ _ => some .endInObject
  | nextName _ _ _ => some .endInValue
  | afterName _ _ _ _ => some .endInObject
  | afterField _ _ _ => some .endInObject
  | done _ => none

end State

namespace Rules

/-- Whether another container may be opened at this place. -/
def mayOpen (rules : Rules) (path : Path) : Bool :=
  match rules.deepest with
  | some limit => path.depth < limit
  | none => true

/-- Starts a value at a place. -/
def startValue (rules : Rules) (path : Path) : Token → Except SyntaxFault State
  | .openArray opening =>
      if rules.mayOpen path then .ok (.firstItem opening path) else .error .nestingTooDeep
  | .openObject opening =>
      if rules.mayOpen path then .ok (.firstName opening path) else .error .nestingTooDeep
  | .constant value _ => .ok (.fill path value)
  | .number value => .ok (.fill path (.number value))
  | .numberWord value _ => .ok (.fill path (.number value))
  | .string opening content => .ok (.fill path (.string opening content))
  | .bad _ fault => .error fault
  | _ => .error .expectedValue

/-- Reads a field name. -/
def startField (rules : Rules) (opening : Opening) (fields : List (Spelling × Outline))
    (outer : Path) : Token → Except SyntaxFault State
  | .string _ content => .ok (.afterName opening fields content outer)
  | .word name | .constant _ name | .numberWord _ name =>
      if rules.wordsAsNames then .ok (.afterName opening fields name outer)
      else .error .keyNotString
  | .bad true fault => .error fault
  | _ => .error .keyNotString

/-- Ends an array, of which the items are given newest first. -/
def endArray (opening : Opening) (items : List Outline) (outer : Path) : State :=
  .fill outer (.array opening items.reverse)

/-- Ends an object, of which the fields are given newest first. -/
def endObject (opening : Opening) (fields : List (Spelling × Outline)) (outer : Path) : State :=
  .fill outer (.object opening fields.reverse)

/-- Reads one token. -/
def step (rules : Rules) : State → Token → Except SyntaxFault State
  | .place path, token => rules.startValue path token
  | .firstItem opening outer, .closeArray => .ok (endArray opening [] outer)
  | .firstItem opening outer, token => rules.startValue (.item opening [] outer) token
  | .nextItem opening items outer, .closeArray =>
      if rules.closeAfterComma then .ok (endArray opening items outer) else .error .trailingComma
  | .nextItem opening items outer, token => rules.startValue (.item opening items outer) token
  | .afterItem opening items outer, .closeArray => .ok (endArray opening items outer)
  | .afterItem opening items outer, .comma => .ok (.nextItem opening items outer)
  | .afterItem _ _ _, _ => .error .expectedListSeparator
  | .firstName opening outer, .closeObject => .ok (endObject opening [] outer)
  | .firstName opening outer, token => rules.startField opening [] outer token
  | .nextName opening fields outer, .closeObject =>
      if rules.closeAfterComma then .ok (endObject opening fields outer)
      else .error .trailingComma
  | .nextName opening fields outer, token => rules.startField opening fields outer token
  | .afterName opening fields name outer, .colon =>
      .ok (.place (.member opening fields name outer))
  | .afterName _ _ _ _, _ => .error .expectedColon
  | .afterField opening fields outer, .closeObject => .ok (endObject opening fields outer)
  | .afterField opening fields outer, .comma => .ok (.nextName opening fields outer)
  | .afterField _ _ _, _ => .error .expectedObjectSeparator
  | .done _, _ => .error .trailingCharacters

end Rules

/-- The outline of a text, and the fault of the text where it has one. -/
structure Draft where
  outline : Outline
  fault? : Option SyntaxFault

namespace Rules

/-- Reads the remaining tokens. -/
def run (rules : Rules) (state : State) : List Token → Draft
  | [] =>
      match state.endFault? with
      | some fault => ⟨state.abandon fault, some fault⟩
      | none => ⟨state.abandon .endInValue, none⟩
  | token :: tokens =>
      match rules.step state token with
      | .ok next => rules.run next tokens
      | .error fault => ⟨state.abandon fault, some fault⟩

/-- Reads a whole document. -/
def build (rules : Rules) (tokens : List Token) : Draft :=
  rules.run (.place .top) tokens

end Rules

end RadarRelay.Document
