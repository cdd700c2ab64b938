import RadarRelay.Json.Value
import RadarRelay.Number.DoubleText
import RadarRelay.Text.Quoted

/-!
# Text of free-form values

Values are written without blanks, fields in their stored order. Inside
strings only quotes, backslashes and control characters below the space are
escaped.
-/

namespace RadarRelay.Json

open RadarRelay.Number RadarRelay.Text

/-- How one character appears in a string literal. -/
def printChar (character : Char) : List Char :=
  if character = '"' then ['\\', '"']
  else if character = '\\' then ['\\', '\\']
  else if character = '\x08' then ['\\', 'b']
  else if character = '\x0c' then ['\\', 'f']
  else if character = '\n' then ['\\', 'n']
  else if character = '\r' then ['\\', 'r']
  else if character = '\t' then ['\\', 't']
  else if character.toNat < 0x20 then
    ['\\', 'u', '0', '0', hexDigit (character.toNat / 16), hexDigit (character.toNat % 16)]
  else [character]

/-- A string literal. -/
def printString (text : String) : List Char :=
  '"' :: text.toList.flatMap printChar ++ ['"']

/-- A number; doubles that are not finite have no literal and are written as `null`. -/
def Number.print : Number → List Char
  | whole value => (intText value).toList
  | real value =>
      if value.isFinite then (Style.document.text value).toList else ['n', 'u', 'l', 'l']

mutual

/-- The characters of a value. -/
def print : Json → List Char
  | null => ['n', 'u', 'l', 'l']
  | bool true => ['t', 'r', 'u', 'e']
  | bool false => ['f', 'a', 'l', 's', 'e']
  | number value => value.print
  | string value => printString value
  | array [] => ['[', ']']
  | array (item :: items) => '[' :: print item ++ printItems items
  | object [] => ['\x7b', '\x7d']
  | object ((name, value) :: fields) =>
      '\x7b' :: printString name ++ ':' :: print value ++ printFields fields

/-- The remaining items of an array, with a comma in front of each, and its end. -/
def printItems : List Json → List Char
  | [] => [']']
  | item :: items => ',' :: print item ++ printItems items

/-- The remaining fields of an object, with a comma in front of each, and its end. -/
def printFields : List (String × Json) → List Char
  | [] => ['\x7d']
  | (name, value) :: fields =>
      ',' :: printString name ++ ':' :: print value ++ printFields fields

end

/-- The text of a value. -/
def text (value : Json) : String :=
  String.ofList value.print

end RadarRelay.Json
