import RadarRelay.Number.Decimal

/-!
# Dates

A date is the number of days since 1 January 1970 in the proleptic Gregorian
calendar, within the years -262143 to 262142. Year, month and day are a view of
that number. Day arithmetic is integer arithmetic with a range check.
-/

namespace RadarRelay.Calendar

open RadarRelay.Number

/-- Year, month and day of the month. -/
structure Civil where
  year : Int
  month : Nat
  day : Nat
  deriving DecidableEq, Repr

def isLeapYear (year : Int) : Bool :=
  year % 4 == 0 && (year % 100 != 0 || year % 400 == 0)

def daysInMonth (year : Int) (month : Nat) : Nat :=
  if month = 2 then if isLeapYear year then 29 else 28
  else if month = 4 || month = 6 || month = 9 || month = 11 then 30
  else 31

namespace Civil

/-- The first and last years that a date may have. -/
def firstYear : Int := -262143

@[inherit_doc firstYear]
def lastYear : Int := 262142

/-- Whether there is such a day within the range of years. -/
def valid (civil : Civil) : Bool :=
  firstYear ≤ civil.year && civil.year ≤ lastYear && 1 ≤ civil.month && civil.month ≤ 12 &&
    1 ≤ civil.day && civil.day ≤ daysInMonth civil.year civil.month

/-- Days since 1 January 1970. Years are counted from March, so that a leap day ends its year,
and in cycles of 400 years of 146097 days each. -/
def dayNumber (civil : Civil) : Int :=
  let year := if civil.month ≤ 2 then civil.year - 1 else civil.year
  let cycle := year / 400
  let yearOfCycle := year % 400
  let dayOfYear := (153 * ((civil.month + 9) % 12) + 2) / 5 + civil.day - 1
  let dayOfCycle := yearOfCycle * 365 + yearOfCycle / 4 - yearOfCycle / 100 + (dayOfYear : Int)
  cycle * 146097 + dayOfCycle - 719468

/-- The day with a given number; undoes `dayNumber`. -/
def ofDayNumber (number : Int) : Civil :=
  let shifted := number + 719468
  let cycle := shifted / 146097
  let dayOfCycle := (shifted % 146097).toNat
  let yearOfCycle :=
    (dayOfCycle - dayOfCycle / 1460 + dayOfCycle / 36524 - dayOfCycle / 146096) / 365
  let dayOfYear := dayOfCycle - (365 * yearOfCycle + yearOfCycle / 4 - yearOfCycle / 100)
  let marchMonth := (5 * dayOfYear + 2) / 153
  let month := if marchMonth < 10 then marchMonth + 3 else marchMonth - 9
  let year := (yearOfCycle : Int) + cycle * 400
  { year := if month ≤ 2 then year + 1 else year
    month
    day := dayOfYear - (153 * marchMonth + 2) / 5 + 1 }

end Civil

/-- Day numbers of the first and last dates. -/
def firstDay : Int := Civil.dayNumber ⟨Civil.firstYear, 1, 1⟩

@[inherit_doc firstDay]
def lastDay : Int := Civil.dayNumber ⟨Civil.lastYear, 12, 31⟩

/-- A date within the supported range of years. -/
structure Date where
  dayNumber : Int
  inRange : firstDay ≤ dayNumber ∧ dayNumber ≤ lastDay
  deriving DecidableEq

namespace Date

/-- 1 January 1970. -/
def epoch : Date := ⟨0, by decide⟩

/-- The date with a day number, unless that lies outside the range. -/
def ofDayNumber? (number : Int) : Option Date :=
  if inRange : firstDay ≤ number ∧ number ≤ lastDay then some ⟨number, inRange⟩ else none

/-- The date of a civil day, unless there is no such day. -/
def ofCivil? (civil : Civil) : Option Date :=
  if civil.valid then ofDayNumber? civil.dayNumber else none

def civil (date : Date) : Civil :=
  Civil.ofDayNumber date.dayNumber

/-- The date a number of days later, unless that lies outside the range. -/
def addDays? (date : Date) (days : Int) : Option Date :=
  ofDayNumber? (date.dayNumber + days)

@[simp] theorem ofDayNumber?_dayNumber (date : Date) :
    ofDayNumber? date.dayNumber = some date := by
  simp [ofDayNumber?, date.inRange]

theorem dayNumber_of_addDays? {date later : Date} {days : Int}
    (found : date.addDays? days = some later) : later.dayNumber = date.dayNumber + days := by
  unfold addDays? ofDayNumber? at found
  split at found <;> simp_all
  exact found ▸ rfl

/-- A year of four digits; other years carry a sign. -/
def yearText (year : Int) : String :=
  if 0 ≤ year && year ≤ 9999 then paddedText 4 year.natAbs
  else (if year < 0 then "-" else "+") ++ paddedText 4 year.natAbs

/-- Year, month and day with a separator between them. -/
def text (separator : String) (date : Date) : String :=
  let civil := date.civil
  yearText civil.year ++ separator ++ paddedText 2 civil.month ++ separator ++
    paddedText 2 civil.day

end Date

end RadarRelay.Calendar
