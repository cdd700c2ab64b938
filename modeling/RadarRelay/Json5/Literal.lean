import RadarRelay.Json.Literal
import RadarRelay.Text.Identifier

/-!
# JSON5 literals

String literals stand between single or double quotes and may be continued on
the next line behind a backslash. Names may be bare identifiers. Number
literals may be signed, hexadecimal, infinite or not a number.

A literal is scanned first and given a meaning afterwards: surrogates have to
come in pairs, and numbers have to fit. A number is a whole number of 64 bits
where any value may stand, when it has neither point nor exponent; where a
number is required it is a double.
-/

namespace RadarRelay.Json5

open RadarRelay.Number RadarRelay.Document RadarRelay.Text
open RadarRelay.Json (hexValue? isLeadSurrogate isTrailSurrogate joinSurrogates)

/-! ## Strings and identifiers -/

/-- A piece of a string or identifier: a character with the source it was written with, or the
unit of a four-digit escape. -/
inductive Piece where
  | character (source : List Char) (meant : Char)
  | unit (value : Nat)

/-- The value of a run of hexadecimal digits. -/
def hexNumber? (characters : List Char) : Option Nat :=
  if characters = [] then none
  else characters.foldlM (fun value character => (hexValue? character).map (value * 16 + ·)) 0

/-- Whatever follows a leading surrogate is read as the hexadecimal digits of its partner. No other
piece than a unit has enough of them for a trailing surrogate. -/
def spell : List Piece → Except LiteralFault (List Char)
  | [] => .ok []
  | .character _ meant :: rest => (spell rest).map (meant :: ·)
  | .unit value :: rest =>
      if isTrailSurrogate value then .error .unexpectedTrailSurrogate
      else if isLeadSurrogate value then
        match rest with
        | [] => .error .missingTrailSurrogate
        | .unit partner :: tail =>
            if isTrailSurrogate partner then
              (spell tail).map (joinSurrogates value partner :: ·)
            else .error .notTrailSurrogate
        | .character source _ :: _ =>
            match hexNumber? source with
            | none => .error .hex
            | some _ => .error .notTrailSurrogate
      else (spell rest).map (Char.ofNat value :: ·)

/-- The content that pieces spell. -/
def spelling (pieces : List Piece) : Spelling :=
  match spell pieces with
  | .ok characters => .ok (String.ofList characters)
  | .error fault => .error (.literal fault)

def isLineEnd (character : Char) : Bool :=
  character == '\n' || character == '\r' || character == '\u2028' || character == '\u2029'

/-- The character that an escape of one character stands for; digits and the marks of longer
escapes stand for nothing here. -/
def simpleEscape? (character : Char) : Option Char :=
  if isDigit character || character == 'x' || character == 'u' then none
  else
    match character with
    | 'b' => some '\x08'
    | 'f' => some '\x0c'
    | 'n' => some '\n'
    | 'r' => some '\r'
    | 't' => some '\t'
    | 'v' => some '\x0b'
    | _ => some character

/-- Where a scanner stands inside a string literal. -/
inductive Escape where
  | plain
  | backslash
  /-- Behind a backslash and a carriage return, which a line feed may follow. -/
  | continued
  /-- Inside an escape of two or four hexadecimal digits. -/
  | hex (long : Bool) (digits : List Char)

/-- Scans a string literal behind its opening quote; without a result the text is no string. -/
def scanString (quote : Char) : Escape → List Piece → List Char → Option (List Piece) × List Char
  | _, _, [] => (none, [])
  | .plain, pieces, character :: rest =>
      if character = quote then (some pieces.reverse, rest)
      else if character = '\\' then scanString quote .backslash pieces rest
      else if isLineEnd character then (none, rest)
      else scanString quote .plain (.character [character] character :: pieces) rest
  | .continued, pieces, character :: rest =>
      if character = '\n' then scanString quote .plain pieces rest
      else if character = quote then (some pieces.reverse, rest)
      else if character = '\\' then scanString quote .backslash pieces rest
      else if isLineEnd character then (none, rest)
      else scanString quote .plain (.character [character] character :: pieces) rest
  | .backslash, pieces, character :: rest =>
      if character = '\r' then scanString quote .continued pieces rest
      else if isLineEnd character then scanString quote .plain pieces rest
      else if character = 'x' then scanString quote (.hex false []) pieces rest
      else if character = 'u' then scanString quote (.hex true []) pieces rest
      else if character = '0' then
        scanString quote .plain (.character [character] '\x00' :: pieces) rest
      else
        match simpleEscape? character with
        | some meant => scanString quote .plain (.character [character] meant :: pieces) rest
        | none => (none, rest)
  | .hex long digits, pieces, character :: rest =>
      if (hexValue? character).isNone then (none, rest)
      else
        let written := digits ++ [character]
        if written.length < (if long then 4 else 2) then
          scanString quote (.hex long written) pieces rest
        else
          let value := (hexNumber? written).getD 0
          let piece :=
            if long then .unit value else .character written (Char.ofNat value)
          scanString quote .plain (piece :: pieces) rest

theorem length_scanString_le (quote : Char) (escape : Escape) (pieces : List Piece)
    (characters : List Char) :
    (scanString quote escape pieces characters).2.length ≤ characters.length := by
  fun_induction scanString quote escape pieces characters <;> simp_all <;> omega

/-- Scans an identifier. A four-digit escape may stand for any of its characters. -/
def scanIdentifier (started : Bool) (pieces : List Piece) :
    List Char → List Piece × List Char
  | [] => (pieces.reverse, [])
  | '\\' :: 'u' :: first :: second :: third :: fourth :: rest =>
      match hexNumber? [first, second, third, fourth] with
      | some value => scanIdentifier true (.unit value :: pieces) rest
      | none => (pieces.reverse, '\\' :: 'u' :: first :: second :: third :: fourth :: rest)
  | character :: rest =>
      if if started then isIdentifierPart character else isIdentifierStart character then
        scanIdentifier true (.character [character] character :: pieces) rest
      else (pieces.reverse, character :: rest)

theorem length_scanIdentifier_le (started : Bool) (pieces : List Piece) (characters : List Char) :
    (scanIdentifier started pieces characters).2.length ≤ characters.length := by
  fun_induction scanIdentifier started pieces characters <;> simp_all <;> omega

/-! ## Numbers -/

/-- Whether a literal is hexadecimal; a sign in front makes it something else. -/
def isHexLiteral : List Char → Bool
  | '0' :: mark :: _ :: _ => mark == 'x' || mark == 'X'
  | _ => false

def infinityWord : List Char := ['I', 'n', 'f', 'i', 'n', 'i', 't', 'y']

def nanWord : List Char := ['N', 'a', 'N']

/-- Whether a literal is written as an integer. -/
def isWhole (characters : List Char) : Bool :=
  !characters.contains '.' &&
    (isHexLiteral characters || (!characters.contains 'e' && !characters.contains 'E')) &&
    characters != infinityWord && characters != '-' :: infinityWord &&
    characters != nanWord && characters != '-' :: nanWord

/-- The value of a hexadecimal literal of at most 32 bits. -/
def hexLiteral (characters : List Char) : Except LiteralFault Nat :=
  match hexNumber? (characters.drop 2) with
  | some value => if value ≤ 0xffff_ffff then .ok value else .error .hex
  | none => .error .hex

/-- The value of a literal where a number is required. -/
def realValue (characters : List Char) : Except LiteralFault Double :=
  if characters = infinityWord then .ok (.infinite false)
  else if characters = '-' :: infinityWord then .ok (.infinite true)
  else if characters = nanWord || characters = '-' :: nanWord then .ok .nan
  else if isHexLiteral characters then (hexLiteral characters).map fun value => .ofInt value
  else
    match readDouble? characters with
    | some value => if value.isFinite then .ok value else .error .numberTooLarge
    | none => .error .number

/-- The value of a literal where any value may stand. -/
def freeValue (characters : List Char) : Except LiteralFault Json.Number :=
  if isWhole characters then
    if isHexLiteral characters then (hexLiteral characters).map fun value => .whole value
    else
      match readInt64? characters with
      | some value => .ok (.whole value)
      | none => .error .integer
  else (realValue characters).map .real

/-- Both values of a number literal. -/
def numeral (characters : List Char) : Numeral :=
  ⟨freeValue characters, realValue characters⟩

/-- Splits a hexadecimal literal off a text. -/
def splitHex? : List Char → Option (List Char × List Char)
  | '0' :: mark :: rest =>
      let written := rest.takeWhile fun character => (hexValue? character).isSome
      if (mark == 'x' || mark == 'X') && written ≠ [] then
        some ('0' :: mark :: written, rest.drop written.length)
      else none
  | _ => none

/-- Splits a decimal literal off a text: digits on at least one side of the point, no zeros in
front, and digits in an exponent part. -/
def splitDecimal? (characters : List Char) : Option (List Char × List Char) :=
  let layout := Json.NumberLayout.split characters
  let fraction := layout.fraction?.getD []
  if layout.whole = [] && fraction = [] then none
  else if layout.whole.head? = some '0' && layout.whole.length ≠ 1 then none
  else if layout.exponent?.map Prod.snd = some [] then none
  else
    some (characters.take (characters.length - layout.rest.length), layout.rest)

/-- Splits a given word off a text. -/
def splitWord? (word characters : List Char) : Option (List Char × List Char) :=
  if word.isPrefixOf characters then some (word, characters.drop word.length) else none

/-- Splits an unsigned number literal off a text. -/
def splitNumber? (characters : List Char) : Option (List Char × List Char) :=
  (splitHex? characters).or <| (splitDecimal? characters).or <|
    (splitWord? infinityWord characters).or (splitWord? nanWord characters)

theorem length_splitNumber?_le {characters written rest : List Char}
    (found : splitNumber? characters = some (written, rest)) :
    rest.length ≤ characters.length := by
  unfold splitNumber? at found
  simp only [Option.or_eq_some_iff] at found
  rcases found with hex | ⟨_, decimal | ⟨_, word | ⟨_, word⟩⟩⟩
  · unfold splitHex? at hex
    split at hex
    · simp only at hex
      split at hex <;> simp_all
      obtain ⟨_, equal⟩ := hex
      rw [← equal]
      simp
      omega
    · simp at hex
  · unfold splitDecimal? at decimal
    simp only at decimal
    repeat' split at decimal
    all_goals simp_all
    rw [← decimal.2]
    exact Nat.le_trans (Json.length_splitExponent_le _)
      (Nat.le_trans (Json.length_splitFraction_le _) (Json.length_spanDigits_le _))
  all_goals
    unfold splitWord? at word
    split at word <;> simp_all
    rw [← word.2]
    simp

end RadarRelay.Json5
