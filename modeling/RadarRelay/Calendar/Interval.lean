import RadarRelay.Number.Decimal

/-!
# Intervals

An interval is a signed number of nanoseconds. Sums and differences are
limited to 2^63 - 1 milliseconds either way. A multiple is only limited to
whole seconds of 64 bits, so it can be a longer interval than any sum; adding
two such intervals can exceed the 64 bits of the seconds, which is a fault of
its own.
-/

namespace RadarRelay.Calendar

open RadarRelay.Number

/-- Why a calendar computation has no result. -/
inductive Fault where
  /-- The result lies outside the range of its type. -/
  | overflow
  /-- An intermediate count of seconds leaves 64 bits, which stops the program. -/
  | secondsOverflow
  deriving DecidableEq, Repr

structure Interval where
  nanoseconds : Int
  deriving DecidableEq, Repr

def nanosPerSecond : Int := 1000000000

def secondsPerDay : Int := 86400

namespace Interval

/-- The longest interval that a sum or a literal may have, in nanoseconds. -/
def limit : Int := int64Max * 1000000

/-- Whether an interval is within the limit of sums. -/
def Bounded (interval : Interval) : Prop :=
  -limit ≤ interval.nanoseconds ∧ interval.nanoseconds ≤ limit

instance (interval : Interval) : Decidable interval.Bounded :=
  inferInstanceAs (Decidable (_ ∧ _))

/-- The interval of a number of nanoseconds, unless it is too long. -/
def ofNanoseconds? (nanoseconds : Int) : Option Interval :=
  if (Interval.mk nanoseconds).Bounded then some ⟨nanoseconds⟩ else none

def ofSeconds? (seconds : Int) : Option Interval :=
  ofNanoseconds? (seconds * nanosPerSecond)

def ofMinutes? (minutes : Int) : Option Interval :=
  ofSeconds? (minutes * 60)

def ofDays? (days : Int) : Option Interval :=
  ofSeconds? (days * secondsPerDay)

/-- Microseconds of 64 bits never exceed the limit. -/
def ofMicroseconds (microseconds : Int) : Interval :=
  ⟨microseconds * 1000⟩

theorem bounded_of_ofNanoseconds? {nanoseconds : Int} {interval : Interval}
    (found : ofNanoseconds? nanoseconds = some interval) : interval.Bounded := by
  unfold ofNanoseconds? at found
  split at found
  · rename_i bounded
    simp only [Option.some.injEq] at found
    exact found ▸ bounded
  · simp at found

/-- Whole seconds, rounded down. -/
def floorSeconds (interval : Interval) : Int :=
  interval.nanoseconds.fdiv nanosPerSecond

/-- Whole seconds, rounded toward zero. -/
def wholeSeconds (interval : Interval) : Int :=
  interval.nanoseconds.tdiv nanosPerSecond

/-- What remains beside the whole seconds, with the sign of the interval. -/
def subsecondNanos (interval : Interval) : Int :=
  interval.nanoseconds.tmod nanosPerSecond

/-- Whole days, rounded toward zero. -/
def wholeDays (interval : Interval) : Int :=
  interval.wholeSeconds.tdiv secondsPerDay

def isZero (interval : Interval) : Bool :=
  interval.nanoseconds == 0

def neg (interval : Interval) : Interval :=
  ⟨-interval.nanoseconds⟩

/-- The checks of a sum or difference with a given result: `seconds` combines the operands'
seconds before any carry from the nanoseconds. -/
def checkedSum (seconds nanoseconds : Int) : Except Fault Interval :=
  if fitsInt64 seconds && fitsInt64 (Interval.mk nanoseconds).floorSeconds then
    match ofNanoseconds? nanoseconds with
    | some interval => .ok interval
    | none => .error .overflow
  else .error .secondsOverflow

def add (left right : Interval) : Except Fault Interval :=
  checkedSum (left.floorSeconds + right.floorSeconds) (left.nanoseconds + right.nanoseconds)

def sub (left right : Interval) : Except Fault Interval :=
  checkedSum (left.floorSeconds - right.floorSeconds) (left.nanoseconds - right.nanoseconds)

/-- A multiple by a factor of 32 bits; the seconds of the result stay strictly within 64 bits. -/
def mul (interval : Interval) (factor : Int) : Except Fault Interval :=
  let product : Interval := ⟨interval.nanoseconds * factor⟩
  if fitsInt32 factor && int64Min < product.floorSeconds && product.floorSeconds < int64Max then
    .ok product
  else .error .overflow

/-- Whole seconds followed by `s`. -/
def text (interval : Interval) : String :=
  intText interval.wholeSeconds ++ "s"

/-- A sum within the limit is exact and within the limit again. -/
theorem add_eq_ok {left right sum : Interval} (found : left.add right = .ok sum) :
    sum.nanoseconds = left.nanoseconds + right.nanoseconds ∧ sum.Bounded := by
  unfold add checkedSum at found
  split at found
  · split at found
    · rename_i interval bounded
      simp only [Except.ok.injEq] at found
      subst found
      refine ⟨?_, bounded_of_ofNanoseconds? bounded⟩
      unfold ofNanoseconds? at bounded
      split at bounded <;> simp_all
      exact bounded ▸ rfl
    · simp at found
  · simp at found

end Interval

end RadarRelay.Calendar
