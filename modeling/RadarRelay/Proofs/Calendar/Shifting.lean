import RadarRelay.Calendar.Moment
import Mathlib.Tactic.Ring

/-!
# Exact calendar arithmetic

Dates, moments and intervals are places and lengths on one scale. Arithmetic on
them gives the exact result on that scale when there is a value for it, and a
fault otherwise. The count of seconds leaves its 64 bits on the way only when an
operand is an interval beyond the limit of sums. Leap seconds are not on the
scale: a plain time of day is one outside of them.
-/

namespace RadarRelay.Calendar

open RadarRelay.Number

/-- The outcome of a computation that has no fault but the lack of a result. -/
def orOverflow {α : Type} (found : Option α) : Except Fault α :=
  found.elim (.error .overflow) .ok

theorem orOverflow_ne_secondsOverflow {α : Type} (found : Option α) :
    orOverflow found ≠ .error .secondsOverflow := by
  cases found <;> rintro ⟨⟩

theorem orOverflow_eq_ok_iff {α : Type} {found : Option α} {result : α} :
    orOverflow found = .ok result ↔ found = some result := by
  cases found <;> simp [orOverflow]

def nanosPerDay : Int := secondsPerDay * nanosPerSecond

theorem fitsInt64_iff {number : Int} :
    fitsInt64 number = true ↔ int64Min ≤ number ∧ number ≤ int64Max := by
  simp [fitsInt64]

/-! ## Intervals -/

namespace Interval

/-- Whether the whole seconds of an interval stay strictly within 64 bits. -/
def Wide (interval : Interval) : Prop :=
  int64Min < interval.floorSeconds ∧ interval.floorSeconds < int64Max

variable {interval left right : Interval}

theorem floorSeconds_eq_div (interval : Interval) :
    interval.floorSeconds = interval.nanoseconds / nanosPerSecond :=
  Int.fdiv_eq_ediv_of_nonneg _ (by decide)

theorem wholeSeconds_mul_add (interval : Interval) :
    interval.wholeSeconds * nanosPerSecond + interval.subsecondNanos = interval.nanoseconds := by
  rw [Int.mul_comm]
  exact Int.mul_tdiv_add_tmod _ _

theorem subsecondNanos_lt (interval : Interval) :
    -nanosPerSecond < interval.subsecondNanos ∧ interval.subsecondNanos < nanosPerSecond :=
  ⟨Int.lt_tmod_of_pos _ (by decide), Int.tmod_lt_of_pos _ (by decide)⟩

theorem wholeDays_eq_tdiv (interval : Interval) :
    interval.wholeDays = interval.nanoseconds.tdiv nanosPerDay := by
  have forward {extent : Int} (nonneg : 0 ≤ extent) :
      (extent.tdiv nanosPerSecond).tdiv secondsPerDay = extent.tdiv nanosPerDay := by
    rw [Int.tdiv_eq_ediv_of_nonneg nonneg, Int.tdiv_eq_ediv_of_nonneg nonneg,
      Int.tdiv_eq_ediv_of_nonneg (Int.ediv_nonneg nonneg (by decide)),
      Int.ediv_ediv_of_nonneg (by decide)]
    rfl
  rcases Int.le_total 0 interval.nanoseconds with nonneg | nonpos
  · exact forward nonneg
  · have mirrored := forward (Int.neg_nonneg.2 nonpos)
    rwa [Int.neg_tdiv, Int.neg_tdiv, Int.neg_tdiv, Int.neg_inj] at mirrored

theorem wholeDays_of_days (days : Int) :
    (Interval.mk (days * secondsPerDay * nanosPerSecond)).wholeDays = days := by
  rw [wholeDays, wholeSeconds, Int.mul_tdiv_cancel _ (by decide), Int.mul_tdiv_cancel _ (by decide)]

theorem ofNanoseconds?_eq_some_iff {nanoseconds : Int} :
    ofNanoseconds? nanoseconds = some interval ↔
      interval.nanoseconds = nanoseconds ∧ interval.Bounded := by
  constructor
  · intro found
    have bounded := bounded_of_ofNanoseconds? found
    unfold ofNanoseconds? at found
    split at found
    · cases found
      exact ⟨rfl, bounded⟩
    · cases found
  · rintro ⟨rfl, bounded⟩
    exact if_pos bounded

/-- The seconds of a bounded interval are far from the limits of 64 bits. -/
theorem Bounded.floorSeconds_le (bounded : interval.Bounded) :
    -9223372036854776 ≤ interval.floorSeconds ∧ interval.floorSeconds ≤ 9223372036854775 := by
  simp only [Bounded, limit, int64Max] at bounded
  rw [floorSeconds_eq_div, nanosPerSecond]
  omega

theorem Bounded.wholeSeconds_le (bounded : interval.Bounded) :
    -9223372036854776 ≤ interval.wholeSeconds ∧ interval.wholeSeconds ≤ 9223372036854776 := by
  have whole := interval.wholeSeconds_mul_add
  have rest := interval.subsecondNanos_lt
  simp only [Bounded, limit, int64Max, nanosPerSecond] at bounded whole rest
  omega

theorem Bounded.wide (bounded : interval.Bounded) : interval.Wide := by
  have seconds := bounded.floorSeconds_le
  simp only [Wide, int64Min, int64Max]
  omega

/-! Sums and differences are exact, whatever the operands. -/

theorem checkedSum_cases (seconds nanoseconds : Int) :
    checkedSum seconds nanoseconds = .error .secondsOverflow ∨
      checkedSum seconds nanoseconds = orOverflow (ofNanoseconds? nanoseconds) := by
  unfold checkedSum
  split
  · right
    cases ofNanoseconds? nanoseconds <;> rfl
  · exact .inl rfl

theorem add_cases (left right : Interval) :
    left.add right = .error .secondsOverflow ∨
      left.add right = orOverflow (ofNanoseconds? (left.nanoseconds + right.nanoseconds)) :=
  checkedSum_cases _ _

theorem sub_cases (left right : Interval) :
    left.sub right = .error .secondsOverflow ∨
      left.sub right = orOverflow (ofNanoseconds? (left.nanoseconds - right.nanoseconds)) :=
  checkedSum_cases _ _

/-- Seconds within 64 bits, before and after the carry, are no fault. -/
theorem checkedSum_ne_secondsOverflow {seconds nanoseconds : Int}
    (before : fitsInt64 seconds = true)
    (after : fitsInt64 (Interval.mk nanoseconds).floorSeconds = true) :
    checkedSum seconds nanoseconds ≠ .error .secondsOverflow := by
  rw [checkedSum, before, after]
  cases ofNanoseconds? nanoseconds <;> rintro ⟨⟩

theorem add_ne_secondsOverflow (leftBounded : left.Bounded) (rightBounded : right.Bounded) :
    left.add right ≠ .error .secondsOverflow := by
  have leftSeconds := leftBounded.floorSeconds_le
  have rightSeconds := rightBounded.floorSeconds_le
  refine checkedSum_ne_secondsOverflow ?before ?after <;>
    simp only [fitsInt64_iff, floorSeconds_eq_div, nanosPerSecond, int64Min, int64Max] at * <;>
    omega

theorem sub_ne_secondsOverflow (leftBounded : left.Bounded) (rightBounded : right.Bounded) :
    left.sub right ≠ .error .secondsOverflow := by
  have leftSeconds := leftBounded.floorSeconds_le
  have rightSeconds := rightBounded.floorSeconds_le
  refine checkedSum_ne_secondsOverflow ?before ?after <;>
    simp only [fitsInt64_iff, floorSeconds_eq_div, nanosPerSecond, int64Min, int64Max] at * <;>
    omega

theorem mul_eq_ok_iff {factor : Int} {product : Interval} :
    interval.mul factor = .ok product ↔ fitsInt32 factor = true ∧
      product.nanoseconds = interval.nanoseconds * factor ∧ product.Wide := by
  simp only [mul, Bool.and_eq_true, decide_eq_true_eq]
  split
  · rename_i fits
    constructor
    · rintro ⟨⟩
      exact ⟨fits.1.1, rfl, fits.1.2, fits.2⟩
    · rintro ⟨-, same, -⟩
      rw [← same]
  · rename_i outside
    constructor
    · rintro ⟨⟩
    · rintro ⟨factorFits, same, wide⟩
      rw [← same] at outside
      exact absurd ⟨⟨factorFits, wide.1⟩, wide.2⟩ outside

theorem mul_ne_secondsOverflow (interval : Interval) (factor : Int) :
    interval.mul factor ≠ .error .secondsOverflow := by
  simp only [mul]
  split <;> rintro ⟨⟩

end Interval

/-! ## Dates -/

namespace Date

theorem ofDayNumber?_eq_some_iff {number : Int} {date : Date} :
    ofDayNumber? number = some date ↔ date.dayNumber = number := by
  constructor
  · intro found
    unfold ofDayNumber? at found
    split at found
    · cases found
      rfl
    · cases found
  · rintro rfl
    exact ofDayNumber?_dayNumber date

theorem dayNumber_le (date : Date) : -96465292 ≤ date.dayNumber ∧ date.dayNumber ≤ 95026236 :=
  date.inRange

theorem since_eq (date earlier : Date) :
    date.since earlier = ⟨(date.dayNumber - earlier.dayNumber) * nanosPerDay⟩ := by
  rw [since, nanosPerDay, Int.mul_assoc]

theorem since_bounded (date earlier : Date) : (date.since earlier).Bounded := by
  have later := date.dayNumber_le
  have before := earlier.dayNumber_le
  simp only [since, Interval.Bounded, Interval.limit, int64Max, secondsPerDay, nanosPerSecond]
  omega

/-- Days given as an interval move a date by exactly these days. -/
theorem addInterval_of_ofSeconds? {days : Int} {interval : Interval}
    (found : Interval.ofSeconds? (days * secondsPerDay) = some interval) (date : Date) :
    date.addInterval interval = orOverflow (ofDayNumber? (date.dayNumber + days)) := by
  obtain ⟨length, -⟩ := Interval.ofNanoseconds?_eq_some_iff.1 found
  have whole : interval.wholeDays = days := by
    rw [← Interval.wholeDays_of_days days, ← length]
  rw [addInterval, whole]
  rfl

/-- A number of days that no interval has leads out of the range of dates. -/
theorem ofDayNumber?_of_ofSeconds?_eq_none {days : Int}
    (missing : Interval.ofSeconds? (days * secondsPerDay) = none) (date : Date) :
    ofDayNumber? (date.dayNumber + days) = none := by
  by_contra found
  obtain ⟨later, found⟩ := Option.ne_none_iff_exists'.1 found
  have day := ofDayNumber?_eq_some_iff.1 found
  have range := date.dayNumber_le
  have laterRange := later.dayNumber_le
  have bounded : (Interval.mk (days * secondsPerDay * nanosPerSecond)).Bounded := by
    simp only [Interval.Bounded, Interval.limit, int64Max, secondsPerDay, nanosPerSecond]
    omega
  rw [Interval.ofSeconds?, Interval.ofNanoseconds?, if_pos bounded] at missing
  cases missing

end Date

/-! ## Times of day -/

namespace TimeOfDay

/-- Whether a time is one of the day and not within a leap second. -/
def Plain (time : TimeOfDay) : Prop :=
  time.second < 86400 ∧ time.nanosecond < 1000000000

instance (time : TimeOfDay) : Decidable time.Plain :=
  inferInstanceAs (Decidable (_ ∧ _))

/-- Nanoseconds since midnight. -/
def nanoseconds (time : TimeOfDay) : Int :=
  time.second * nanosPerSecond + time.nanosecond

/-- The time a number of nanoseconds after midnight. -/
def ofNanoseconds (nanoseconds : Int) : TimeOfDay :=
  ⟨(nanoseconds / nanosPerSecond).toNat, (nanoseconds % nanosPerSecond).toNat⟩

variable {time : TimeOfDay}

/-- On plain times, the nanoseconds since midnight are the time. -/
theorem plain_and_nanoseconds_iff {nanoseconds : Int} (nonneg : 0 ≤ nanoseconds)
    (below : nanoseconds < nanosPerDay) :
    time.Plain ∧ time.nanoseconds = nanoseconds ↔ time = ofNanoseconds nanoseconds := by
  obtain ⟨second, nanosecond⟩ := time
  simp only [nanosPerDay, secondsPerDay, nanosPerSecond, Plain, TimeOfDay.nanoseconds,
    ofNanoseconds, mk.injEq] at below ⊢
  omega

theorem isLeap_eq_false (plain : time.Plain) : time.isLeap = false := by
  simpa [isLeap] using plain.2

/-- From a plain time, the shifted time is the exact one, and what it wraps by are whole days. -/
theorem shift_cases (plain : time.Plain) (seconds nanoseconds : Int) :
    time.shift seconds nanoseconds = .error .secondsOverflow ∨
      time.shift seconds nanoseconds =
        .ok (ofNanoseconds
            ((time.nanoseconds + (seconds * nanosPerSecond + nanoseconds)) % nanosPerDay),
          (time.nanoseconds + (seconds * nanosPerSecond + nanoseconds)) / nanosPerDay *
            secondsPerDay) := by
  have total :
      ((time.second : Int) + 0 + seconds) * nanosPerSecond + time.nanosecond + nanoseconds =
        time.nanoseconds + (seconds * nanosPerSecond + nanoseconds) := by
    rw [TimeOfDay.nanoseconds]
    ring
  simp only [shift, isLeap_eq_false plain, Bool.false_and, Bool.false_eq_true, if_false,
    Bool.or_self, total]
  split
  · right
    simp only [ofNanoseconds, nanosPerDay, secondsPerDay, nanosPerSecond, Except.ok.injEq,
      Prod.mk.injEq, mk.injEq]
    omega
  · exact .inl rfl

theorem shift_ne_secondsOverflow (plain : time.Plain) {seconds nanoseconds : Int}
    (secondsBound : -9223372036854776 ≤ seconds ∧ seconds ≤ 9223372036854776)
    (nanosBound : -nanosPerSecond < nanoseconds ∧ nanoseconds < nanosPerSecond) :
    time.shift seconds nanoseconds ≠ .error .secondsOverflow := by
  simp only [shift, isLeap_eq_false plain, Bool.false_and, Bool.false_eq_true, if_false,
    Bool.or_self]
  split
  · rintro ⟨⟩
  · rename_i outside
    obtain ⟨second, nanosecond⟩ := time
    simp only [Plain, Bool.and_eq_true, fitsInt64_iff, nanosPerSecond, secondsPerDay, int64Min,
      int64Max] at *
    omega

end TimeOfDay

/-! ## Moments -/

namespace Moment

/-- Nanoseconds since the beginning of 1 January 1970. -/
def instant (moment : Moment) : Int :=
  moment.date.dayNumber * nanosPerDay + moment.time.nanoseconds

/-- The moment a number of nanoseconds after the beginning of 1 January 1970, unless its date lies
outside the range. -/
def ofInstant? (instant : Int) : Option Moment :=
  (Date.ofDayNumber? (instant / nanosPerDay)).map
    fun date => ⟨date, .ofNanoseconds (instant % nanosPerDay)⟩

variable {moment earlier : Moment} {span : Interval}

theorem ofInstant?_eq_some_iff {instant : Int} :
    ofInstant? instant = some moment ↔ moment.time.Plain ∧ moment.instant = instant := by
  obtain ⟨date, time⟩ := moment
  have onDay := @TimeOfDay.plain_and_nanoseconds_iff time _
    (Int.emod_nonneg instant (by decide : nanosPerDay ≠ 0))
    (Int.emod_lt_of_pos instant (by decide : 0 < nanosPerDay))
  simp only [ofInstant?, Option.map_eq_some_iff, Date.ofDayNumber?_eq_some_iff, mk.injEq,
    Moment.instant]
  constructor
  · rintro ⟨_, day, rfl, same⟩
    obtain ⟨plain, rest⟩ := onDay.2 same.symm
    exact ⟨plain, by rw [day, rest]; exact Int.ediv_mul_add_emod _ _⟩
  · rintro ⟨plain, same⟩
    refine ⟨date, ?day, rfl, (onDay.1 ⟨plain, ?rest⟩).symm⟩ <;>
      simp only [TimeOfDay.Plain, TimeOfDay.nanoseconds, nanosPerDay, secondsPerDay,
        nanosPerSecond] at plain same ⊢ <;> omega

/-- Once the time of day is shifted, the moment is the exact one, or there is none. -/
theorem shift_of_time {total : Int} {seconds nanoseconds : Int}
    (shifted : moment.time.shift seconds nanoseconds =
      .ok (.ofNanoseconds (total % nanosPerDay), total / nanosPerDay * secondsPerDay)) :
    moment.shift seconds nanoseconds =
      orOverflow (ofInstant? (moment.date.dayNumber * nanosPerDay + total)) := by
  obtain ⟨date, time⟩ := moment
  have day : (date.dayNumber * nanosPerDay + total) / nanosPerDay =
      date.dayNumber + total / nanosPerDay := by
    rw [Int.add_comm, Int.add_mul_ediv_right _ _ (by decide), Int.add_comm]
  have rest : (date.dayNumber * nanosPerDay + total) % nanosPerDay = total % nanosPerDay := by
    rw [Int.add_comm, Int.add_mul_emod_self_right]
  simp only [shift, shifted, ofInstant?, day, rest, bind, Except.bind]
  cases found : Interval.ofSeconds? (total / nanosPerDay * secondsPerDay) with
  | none =>
      rw [Date.ofDayNumber?_of_ofSeconds?_eq_none found]
      rfl
  | some days =>
      simp only [Date.addInterval_of_ofSeconds? found]
      cases Date.ofDayNumber? (date.dayNumber + total / nanosPerDay) <;> rfl

/-- From a plain time of day, the shifted moment is the exact one. -/
theorem shift_cases (plain : moment.time.Plain) (seconds nanoseconds : Int) :
    moment.shift seconds nanoseconds = .error .secondsOverflow ∨
      moment.shift seconds nanoseconds =
        orOverflow (ofInstant? (moment.instant + (seconds * nanosPerSecond + nanoseconds))) := by
  rcases TimeOfDay.shift_cases plain seconds nanoseconds with crashed | shifted
  · exact .inl (by simp only [shift, crashed]; rfl)
  · exact .inr (by rw [shift_of_time shifted, instant, Int.add_assoc])

theorem shift_ne_secondsOverflow (plain : moment.time.Plain) {seconds nanoseconds : Int}
    (secondsBound : -9223372036854776 ≤ seconds ∧ seconds ≤ 9223372036854776)
    (nanosBound : -nanosPerSecond < nanoseconds ∧ nanoseconds < nanosPerSecond) :
    moment.shift seconds nanoseconds ≠ .error .secondsOverflow := by
  rcases TimeOfDay.shift_cases plain seconds nanoseconds with crashed | shifted
  · exact absurd crashed (TimeOfDay.shift_ne_secondsOverflow plain secondsBound nanosBound)
  · rw [shift_of_time shifted]
    exact orOverflow_ne_secondsOverflow _

theorem addInterval_cases (plain : moment.time.Plain) (span : Interval) :
    moment.addInterval span = .error .secondsOverflow ∨
      moment.addInterval span = orOverflow (ofInstant? (moment.instant + span.nanoseconds)) := by
  have exact := shift_cases plain span.wholeSeconds span.subsecondNanos
  rwa [span.wholeSeconds_mul_add] at exact

theorem subInterval_cases (plain : moment.time.Plain) (span : Interval) :
    moment.subInterval span = .error .secondsOverflow ∨
      moment.subInterval span = orOverflow (ofInstant? (moment.instant - span.nanoseconds)) := by
  have exact := shift_cases plain (-span.wholeSeconds) (-span.subsecondNanos)
  rwa [show -span.wholeSeconds * nanosPerSecond + -span.subsecondNanos = -span.nanoseconds by
    rw [← span.wholeSeconds_mul_add]; ring, ← Int.sub_eq_add_neg] at exact

theorem addInterval_ne_secondsOverflow (plain : moment.time.Plain) (bounded : span.Bounded) :
    moment.addInterval span ≠ .error .secondsOverflow :=
  shift_ne_secondsOverflow plain bounded.wholeSeconds_le span.subsecondNanos_lt

theorem subInterval_ne_secondsOverflow (plain : moment.time.Plain) (bounded : span.Bounded) :
    moment.subInterval span ≠ .error .secondsOverflow := by
  have seconds := bounded.wholeSeconds_le
  have rest := span.subsecondNanos_lt
  exact shift_ne_secondsOverflow plain (by omega) (by omega)

/-- Between plain times of day, the interval is the exact distance. -/
theorem since_eq (plain : moment.time.Plain) (earlierPlain : earlier.time.Plain) :
    moment.since earlier = ⟨moment.instant - earlier.instant⟩ := by
  simp only [since, Date.since, TimeOfDay.since, TimeOfDay.isLeap_eq_false plain,
    TimeOfDay.isLeap_eq_false earlierPlain, Bool.and_false, Bool.false_eq_true, if_false, instant,
    TimeOfDay.nanoseconds, nanosPerDay, Interval.mk.injEq]
  ring

theorem since_bounded (plain : moment.time.Plain) (earlierPlain : earlier.time.Plain) :
    (moment.since earlier).Bounded := by
  have days := moment.date.dayNumber_le
  have earlierDays := earlier.date.dayNumber_le
  rw [since_eq plain earlierPlain]
  simp only [TimeOfDay.Plain, instant, TimeOfDay.nanoseconds, nanosPerDay, Interval.Bounded,
    Interval.limit, int64Max, secondsPerDay, nanosPerSecond] at *
  omega

end Moment

end RadarRelay.Calendar
