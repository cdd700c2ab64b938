import RadarRelay.Text.Printable

/-!
# Quoted texts

Messages and expressions show a text between double quotes. Quotes and
backslashes are escaped with a backslash, as are the usual control characters;
other characters that would not be visible are written as `\u` with their code
point in braces.
-/

namespace RadarRelay.Text

/-- A hexadecimal digit in lower case. -/
def hexDigit (value : Nat) : Char :=
  if value < 10 then Char.ofNat ('0'.toNat + value) else Char.ofNat ('a'.toNat + (value - 10))

/-- Hexadecimal digits of a natural number, most significant first. -/
def hexDigits (number : Nat) : List Char :=
  if number < 16 then [hexDigit number]
  else hexDigits (number / 16) ++ [hexDigit (number % 16)]
termination_by number

/-- How one character appears between the quotes. -/
def quotedChar (character : Char) : List Char :=
  if character = '\x00' then ['\\', '0']
  else if character = '\t' then ['\\', 't']
  else if character = '\r' then ['\\', 'r']
  else if character = '\n' then ['\\', 'n']
  else if character = '"' then ['\\', '"']
  else if character = '\\' then ['\\', '\\']
  else if isPrintable character then [character]
  else ['\\', 'u', '\x7b'] ++ hexDigits character.toNat ++ ['\x7d']

/-- A text between double quotes. -/
def quoted (text : String) : String :=
  String.ofList ('"' :: text.toList.flatMap quotedChar ++ ['"'])

/-- Quoted texts between brackets, with a comma and a space between neighbours. -/
def quotedList (texts : List String) : String :=
  "[" ++ String.intercalate ", " (texts.map quoted) ++ "]"

/-- Printable ASCII other than quote and backslash appears as it is. -/
theorem quotedChar_of_plain {character : Char} (low : 0x20 ≤ character.toNat)
    (high : character.toNat ≤ 0x7E) (noQuote : character ≠ '"') (noSlash : character ≠ '\\') :
    quotedChar character = [character] := by
  have visible := isPrintable_of_ascii low high
  have notNull : character ≠ '\x00' := by rintro rfl; simp at low
  have notTab : character ≠ '\t' := by rintro rfl; simp at low
  have notReturn : character ≠ '\r' := by rintro rfl; simp at low
  have notNewline : character ≠ '\n' := by rintro rfl; simp at low
  simp [quotedChar, visible, notNull, notTab, notReturn, notNewline, noQuote, noSlash]

end RadarRelay.Text
