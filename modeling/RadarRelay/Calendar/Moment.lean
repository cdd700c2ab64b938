import RadarRelay.Calendar.Date
import RadarRelay.Calendar.Interval

/-!
# Times of day and moments

A time of day is a second of the day and a fraction of it in nanoseconds. A
fraction of a full second or more denotes a leap second, which prolongs the
second it is attached to. A moment is a date with a time of day.
-/

namespace RadarRelay.Calendar

open RadarRelay.Number

structure TimeOfDay where
  second : Nat
  nanosecond : Nat
  deriving DecidableEq, Repr

namespace TimeOfDay

/-- The beginning of a day. -/
def midnight : TimeOfDay := ⟨0, 0⟩

/-- The time of an hour, minute and second, each within its usual range. -/
def ofParts? (hour minute second : Nat) : Option TimeOfDay :=
  if hour < 24 && minute < 60 && second < 60 then
    some ⟨hour * 3600 + minute * 60 + second, 0⟩
  else none

def hour (time : TimeOfDay) : Nat := time.second / 3600

def minute (time : TimeOfDay) : Nat := time.second / 60 % 60

def isLeap (time : TimeOfDay) : Bool := 1000000000 ≤ time.nanosecond

/-- The second of the minute, 60 during a leap second. -/
def displayedSecond (time : TimeOfDay) : Nat :=
  time.second % 60 + time.nanosecond / 1000000000

/-- Earlier seconds come first, then smaller fractions. -/
def compare (left right : TimeOfDay) : Ordering :=
  (Ord.compare left.second right.second).then (Ord.compare left.nanosecond right.nanosecond)

/-- Hour, minute and second with a separator between them. -/
def text (separator : String) (time : TimeOfDay) : String :=
  paddedText 2 time.hour ++ separator ++ paddedText 2 time.minute ++ separator ++
    paddedText 2 time.displayedSecond

/-- Adds seconds and nanoseconds of equal sign. The sum wraps around midnight and comes with the
number of seconds, a multiple of a day, by which it did. A leap second is left behind unless the
sum stays inside it; leaving it backwards passes its whole length. Every count of seconds on the
way, before and after the carry from the nanoseconds, has 64 bits. -/
def shift (time : TimeOfDay) (seconds nanoseconds : Int) : Except Fault (TimeOfDay × Int) :=
  let fraction : Int := time.nanosecond
  if time.isLeap && seconds == 0 && !(0 < nanoseconds && 2000000000 ≤ fraction + nanoseconds) then
    .ok ({ time with nanosecond := (fraction + nanoseconds).toNat }, 0)
  else
    let leapForward := time.isLeap && 0 ≤ seconds
    let leapBackward := time.isLeap && seconds < 0
    let start : Int := time.second + (if leapBackward then 1 else 0)
    let kept := if leapForward || leapBackward then fraction - nanosPerSecond else fraction
    let total := (start + seconds) * nanosPerSecond + kept + nanoseconds
    let wholeSeconds := total / nanosPerSecond
    let secondOfDay := wholeSeconds % secondsPerDay
    if fitsInt64 (start + seconds) && fitsInt64 wholeSeconds &&
        fitsInt64 (wholeSeconds - secondOfDay) then
      .ok (⟨secondOfDay.toNat, (total % nanosPerSecond).toNat⟩, wholeSeconds - secondOfDay)
    else .error .secondsOverflow

/-- Nanoseconds from `earlier` to `time`. A leap second between them counts once more. -/
def since (time earlier : TimeOfDay) : Int :=
  let seconds : Int := (time.second : Int) - earlier.second
  let leap : Int :=
    if earlier.second < time.second && earlier.isLeap then 1
    else if time.second < earlier.second && time.isLeap then -1
    else 0
  (seconds + leap) * nanosPerSecond + ((time.nanosecond : Int) - earlier.nanosecond)

end TimeOfDay

structure Moment where
  date : Date
  time : TimeOfDay
  deriving DecidableEq

namespace Date

def compare (left right : Date) : Ordering :=
  Ord.compare left.dayNumber right.dayNumber

/-- Only whole days of the interval count. -/
def addInterval (date : Date) (interval : Interval) : Except Fault Date :=
  (date.addDays? interval.wholeDays).elim (.error .overflow) .ok

def subInterval (date : Date) (interval : Interval) : Except Fault Date :=
  (date.addDays? (-interval.wholeDays)).elim (.error .overflow) .ok

/-- The interval from `earlier` to `date`. -/
def since (date earlier : Date) : Interval :=
  ⟨(date.dayNumber - earlier.dayNumber) * secondsPerDay * nanosPerSecond⟩

end Date

namespace Moment

def compare (left right : Moment) : Ordering :=
  (left.date.compare right.date).then (left.time.compare right.time)

/-- Moves a moment by seconds and nanoseconds of equal sign. -/
def shift (moment : Moment) (seconds nanoseconds : Int) : Except Fault Moment := do
  let (time, carried) ← moment.time.shift seconds nanoseconds
  match Interval.ofSeconds? carried with
  | none => throw .overflow
  | some days =>
      let date ← moment.date.addInterval days
      return ⟨date, time⟩

def addInterval (moment : Moment) (interval : Interval) : Except Fault Moment :=
  moment.shift interval.wholeSeconds interval.subsecondNanos

def subInterval (moment : Moment) (interval : Interval) : Except Fault Moment :=
  moment.shift (-interval.wholeSeconds) (-interval.subsecondNanos)

/-- The interval from `earlier` to `moment`. -/
def since (moment earlier : Moment) : Interval :=
  ⟨(moment.date.since earlier.date).nanoseconds + moment.time.since earlier.time⟩

/-- Date and time with separators inside each and between them. -/
def text (dateSeparator between timeSeparator : String) (moment : Moment) : String :=
  moment.date.text dateSeparator ++ between ++ moment.time.text timeSeparator

end Moment

end RadarRelay.Calendar
