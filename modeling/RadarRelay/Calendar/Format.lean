import RadarRelay.Calendar.Moment
import RadarRelay.Text.Blank

/-!
# Reading dates and times

A format is a list of parts. A numeric part takes as many digits as it can, up
to its width, and skips blanks in front of them; a year may instead carry a
sign and then takes every digit that follows. A literal part takes exactly its
character. A text matches a format when it is used up and the numbers name a
day and a time that exist; second 60 is a leap second.
-/

namespace RadarRelay.Calendar

open RadarRelay.Number RadarRelay.Text

inductive Part where
  | year
  | month
  | day
  | hour
  | minute
  | second
  | literal (character : Char)
  deriving DecidableEq, Repr

abbrev Format := List Part

/-- The numbers read so far; what a format leaves out keeps its first possible value. -/
structure Reading where
  year : Int
  month : Nat
  day : Nat
  hour : Nat
  minute : Nat
  second : Nat
  deriving DecidableEq, Repr

namespace Reading

def start : Reading := ⟨0, 1, 1, 0, 0, 0⟩

def date? (reading : Reading) : Option Date :=
  Date.ofCivil? ⟨reading.year, reading.month, reading.day⟩

def time? (reading : Reading) : Option TimeOfDay :=
  if reading.second = 60 then
    (TimeOfDay.ofParts? reading.hour reading.minute 59).map fun time =>
      { time with nanosecond := 1000000000 }
  else TimeOfDay.ofParts? reading.hour reading.minute reading.second

def moment? (reading : Reading) : Option Moment := do
  return ⟨← reading.date?, ← reading.time?⟩

end Reading

/-- At least one and at most `width` digits, and what follows them. -/
def takeNumber? (width : Nat) (characters : List Char) : Option (Nat × List Char) :=
  let taken := (characters.take width).takeWhile isDigit
  if taken = [] then none else some (digitsValue taken, characters.drop taken.length)

/-- A year: up to four digits, or a sign and any number of digits. -/
def takeYear? (characters : List Char) : Option (Int × List Char) :=
  match characters with
  | '-' :: rest => (takeNumber? rest.length rest).map fun (number, tail) => (-(number : Int), tail)
  | '+' :: rest => (takeNumber? rest.length rest).map fun (number, tail) => (number, tail)
  | _ => (takeNumber? 4 characters).map fun (number, tail) => (number, tail)

/-- Matches one part at the start of the text. -/
def Part.read? (part : Part) (reading : Reading) (characters : List Char) :
    Option (Reading × List Char) :=
  let number := takeNumber? 2 (trimStart characters)
  match part with
  | .year => (takeYear? (trimStart characters)).map fun (value, tail) =>
      ({ reading with year := value }, tail)
  | .month => number.map fun (value, tail) => ({ reading with month := value }, tail)
  | .day => number.map fun (value, tail) => ({ reading with day := value }, tail)
  | .hour => number.map fun (value, tail) => ({ reading with hour := value }, tail)
  | .minute => number.map fun (value, tail) => ({ reading with minute := value }, tail)
  | .second => number.map fun (value, tail) => ({ reading with second := value }, tail)
  | .literal expected =>
      match characters with
      | character :: tail => if character = expected then some (reading, tail) else none
      | [] => none

namespace Format

/-- Matches the parts in order; the text has to be used up. -/
def readFrom? : Format → Reading → List Char → Option Reading
  | [], reading, [] => some reading
  | [], _, _ :: _ => none
  | part :: parts, reading, characters => do
      let (next, tail) ← part.read? reading characters
      readFrom? parts next tail

def read? (format : Format) (text : String) : Option Reading :=
  readFrom? format .start text.toList

/-- `20240102` -/
def compactDate : Format := [.year, .month, .day]

/-- `2024-01-02` -/
def dashedDate : Format := [.year, .literal '-', .month, .literal '-', .day]

/-- `121500` -/
def compactTime : Format := [.hour, .minute, .second]

/-- `12:15:00` -/
def colonTime : Format := [.hour, .literal ':', .minute, .literal ':', .second]

/-- `1215` -/
def hourMinute : Format := [.hour, .minute]

end Format

/-- The first value that one of the formats finds. -/
def readFirst? {result : Type} (formats : List Format) (view : Reading → Option result)
    (text : String) : Option result :=
  formats.findSome? fun format => (format.read? text).bind view

/-- Dates with or without dashes. -/
def readDate? : String → Option Date :=
  readFirst? [.compactDate, .dashedDate] Reading.date?

/-- Times with or without colons, or of four digits. -/
def readTime? : String → Option TimeOfDay :=
  readFirst? [.compactTime, .colonTime, .hourMinute] Reading.time?

/-- Date and time joined by `T`, both compact or both separated, or compact without `T`. -/
def readMoment? : String → Option Moment :=
  readFirst?
    [ Format.compactDate ++ .literal 'T' :: Format.compactTime,
      Format.dashedDate ++ .literal 'T' :: Format.colonTime,
      Format.compactDate ++ Format.compactTime ]
    Reading.moment?

end RadarRelay.Calendar
