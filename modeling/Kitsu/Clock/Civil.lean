import Mathlib.Tactic.Common
import Mathlib.Tactic.IntervalCases

/-!
# The civil calendar

The calendar of the clock counts years from March, so that the leap day is the
last of its year, in eras of 400 years.  The transformations are those of the
source, with its truncating divisions; over the century that holds the range of
the clock they are inverse to each other.
-/

namespace Kitsu.Clock

def kMinimumClockUnixSeconds : Nat := 1704067200
def kMaximumClockUnixSeconds : Nat := 4102444800
def kMinimumUtcOffsetMinutes : Int := -840
def kMaximumUtcOffsetMinutes : Int := 840

/-- A date and a time of day, as they are shown. -/
structure Civil where
  year : Nat
  month : Nat
  day : Nat
  hour : Nat
  minute : Nat
  second : Nat
deriving DecidableEq, Repr

/-- The offsets of the time zones there are. -/
def validOffset (offset : Int) : Bool :=
  kMinimumUtcOffsetMinutes ≤ offset && offset ≤ kMaximumUtcOffsetMinutes

/-- The instants that the clock can stand for. -/
def validInstant (unixSeconds millisecond : Nat) : Bool :=
  if unixSeconds < kMinimumClockUnixSeconds ||
      unixSeconds > kMaximumClockUnixSeconds || millisecond > 999 then false
  else unixSeconds ≠ kMaximumClockUnixSeconds || millisecond = 0

def leapYear (year : Nat) : Bool :=
  year % 4 = 0 && (year % 100 ≠ 0 || year % 400 = 0)

/-- The days of a month. -/
def monthDays (year month : Nat) : Nat :=
  if month < 1 || month > 12 then 0
  else if month = 2 && leapYear year then 29
  else [31, 28, 31, 30, 31, 30, 31, 31, 30, 31, 30, 31].getD (month - 1) 0

/-- The days from 1970 to a date of the Gregorian calendar. -/
def daysFromCivil (year : Int) (month day : Nat) : Int :=
  let year := year - if month ≤ 2 then 1 else 0
  let era := (if year ≥ 0 then year else year - 399).tdiv 400
  let yearOfEra := (year - era * 400).toNat
  let adjustedMonth := if month > 2 then month - 3 else month + 9
  let dayOfYear := (153 * adjustedMonth + 2) / 5 + day - 1
  let dayOfEra :=
    yearOfEra * 365 + yearOfEra / 4 - yearOfEra / 100 + dayOfYear
  era * 146097 + dayOfEra - 719468

/-- Year, month and day. -/
def civilFromDays (days : Int) : Nat × Nat × Nat :=
  let days := days + 719468
  let era := (if days ≥ 0 then days else days - 146096).tdiv 146097
  let dayOfEra := (days - era * 146097).toNat
  let yearOfEra :=
    (dayOfEra - dayOfEra / 1460 + dayOfEra / 36524 - dayOfEra / 146096) / 365
  let dayOfYear :=
    dayOfEra - (365 * yearOfEra + yearOfEra / 4 - yearOfEra / 100)
  let monthPrime := (5 * dayOfYear + 2) / 153
  let day := dayOfYear - (153 * monthPrime + 2) / 5 + 1
  let month := if monthPrime < 10 then monthPrime + 3 else monthPrime - 9
  let year := (yearOfEra : Int) + era * 400 + if month ≤ 2 then 1 else 0
  ((year % 65536).toNat, month, day)

/-- The instant that a local time stands for, unless it is before 1970. -/
def civilToUnix (civil : Civil) (utcOffsetMinutes : Int) : Option Nat :=
  if civil.month < 1 || civil.month > 12 || civil.day < 1 ||
      civil.day > monthDays civil.year civil.month || civil.hour > 23 ||
      civil.minute > 59 || civil.second > 59 ||
      !validOffset utcOffsetMinutes then none
  else
    let localSeconds : Int :=
      daysFromCivil civil.year civil.month civil.day * 86400 +
        civil.hour * 3600 + civil.minute * 60 + civil.second
    let utcSeconds := localSeconds - utcOffsetMinutes * 60
    if utcSeconds < 0 then none else some utcSeconds.toNat

/-- The local time of an instant. -/
def unixToCivil (unixSeconds : Nat) (utcOffsetMinutes : Int) : Civil :=
  let localSeconds : Int := unixSeconds + utcOffsetMinutes * 60
  let days := localSeconds.tdiv 86400
  let secondsOfDay := localSeconds.tmod 86400
  let (days, secondsOfDay) :=
    if secondsOfDay < 0 then (days - 1, secondsOfDay + 86400)
    else (days, secondsOfDay)
  let (year, month, day) := civilFromDays days
  let secondsOfDay := secondsOfDay.toNat
  { year, month, day
    hour := secondsOfDay / 3600
    minute := secondsOfDay % 3600 / 60
    second := secondsOfDay % 3600 % 60 }

/-! ## Years from March -/

section Years

/-- The years since March 2000 before a day of that century. -/
def yearsBefore (day : Nat) : Nat :=
  (day - day / 1460) / 365

/-- A year has its days in front of it, and no more than a year after it. -/
structure YearOf (day year : Nat) : Prop where
  reached : 365 * year + year / 4 ≤ day
  within : day ≤ 365 * year + year / 4 + 364 +
    (if year % 4 = 3 then 1 else 0)

theorem yearsBefore_cycles {cycles rest : Nat} (short : rest < 1461)
    (century : 1461 * cycles + rest < 36524) :
    yearsBefore (1461 * cycles + rest) =
      4 * cycles + (rest / 365 - rest / 1460) := by
  have quotient : (1461 * cycles + rest) / 1460 =
      cycles + (cycles + rest) / 1460 := by omega
  unfold yearsBefore
  rw [quotient]
  by_cases early : cycles + rest < 1460
  · rw [Nat.div_eq_of_lt early]
    omega
  · have one : (cycles + rest) / 1460 = 1 := by omega
    omega

theorem yearsBefore_yearOf {day : Nat} (century : day < 36524) :
    yearsBefore day < 100 ∧ YearOf day (yearsBefore day) := by
  have split : yearsBefore day =
      4 * (day / 1461) + (day % 1461 / 365 - day % 1461 / 1460) := by
    have cycles := @yearsBefore_cycles (day / 1461) (day % 1461) (by omega)
      (by omega)
    rwa [Nat.div_add_mod] at cycles
  have short : day % 1461 < 1461 := by omega
  have whole : day = 1461 * (day / 1461) + day % 1461 := by omega
  generalize yearsBefore day = year at split
  generalize day / 1461 = cycles at split whole
  generalize day % 1461 = rest at split short whole
  have quarter : year / 4 = cycles := by omega
  have remainder : year % 4 = rest / 365 - rest / 1460 := by omega
  refine ⟨by omega, ?_, ?_⟩
  · rw [quarter]
    omega
  · rw [quarter, remainder]
    split <;> omega

/-- A day lies in one year only. -/
theorem YearOf.unique {day first second : Nat} (one : YearOf day first)
    (other : YearOf day second) : first = second := by
  have reached := one.reached
  have within := one.within
  have otherReached := other.reached
  have otherWithin := other.within
  split at within <;> split at otherWithin <;> omega

end Years

/-! ## Dates of the century -/

section Century

variable {year month day : Nat}

/-- A month counted from March. -/
def fromMarch (month : Nat) : Nat :=
  if month > 2 then month - 3 else month + 9

/-- The days before a month, in a year that begins in March. -/
def monthStart (fromMarch : Nat) : Nat :=
  (153 * fromMarch + 2) / 5

/-- The years since March 2000. -/
def marchYear (year month : Nat) : Nat :=
  year - 2000 - if month ≤ 2 then 1 else 0

/-- A date from March 2000 to February 2100. -/
structure InCentury (year month day : Nat) : Prop where
  month_pos : 1 ≤ month
  month_le : month ≤ 12
  day_pos : 1 ≤ day
  day_le : day ≤ monthDays year month
  from_march : 2000 + (if month ≤ 2 then 1 else 0) ≤ year
  to_february : year < 2100 + (if month ≤ 2 then 1 else 0)

/-- The days from the first of March 2000 to a date. -/
def centuryDay (year month day : Nat) : Nat :=
  365 * marchYear year month + marchYear year month / 4 +
    (monthStart (fromMarch month) + (day - 1))

theorem daysFromCivil_eq (date : InCentury year month day) :
    daysFromCivil year month day = 11017 + centuryDay year month day := by
  obtain ⟨monthPos, monthLe, dayPos, _, fromMarch_, toFebruary⟩ := date
  have shifted : ((year : Int) - if month ≤ 2 then 1 else 0) =
      2000 + marchYear year month := by
    unfold marchYear
    split <;> rename_i early
    · simp only [early, if_true] at fromMarch_
      omega
    · simp only [early, if_false] at fromMarch_
      omega
  have small : marchYear year month < 100 := by
    unfold marchYear
    split <;> rename_i early
    · simp only [early, if_true] at toFebruary
      omega
    · simp only [early, if_false] at toFebruary
      omega
  unfold daysFromCivil centuryDay
  simp only [shifted]
  change _ + ((_ - _ + (monthStart (fromMarch month) + day - 1) : Nat) : Int)
    - _ = _
  generalize marchYear year month = years at small
  have era : ((2000 : Int) + years).tdiv 400 = 5 := by
    rw [Int.tdiv_eq_ediv_of_nonneg (by omega)]
    omega
  rw [if_pos (by omega), era]
  omega

/-- The date of a day of the century. -/
theorem civilFromDays_eq {day : Nat} (century : day < 36524) :
    civilFromDays (11017 + day) =
      let years := yearsBefore day
      let ofYear := day - (365 * years + years / 4)
      let monthPrime := (5 * ofYear + 2) / 153
      let month := if monthPrime < 10 then monthPrime + 3 else monthPrime - 9
      (2000 + years + (if month ≤ 2 then 1 else 0), month,
        ofYear - monthStart monthPrime + 1) := by
  have small := (yearsBefore_yearOf century).1
  have era : ((11017 : Int) + day + 719468).tdiv 146097 = 5 := by
    rw [Int.tdiv_eq_ediv_of_nonneg (by omega)]
    omega
  have ofEra : ((11017 : Int) + day + 719468 - 5 * 146097).toNat = day := by
    omega
  have noCentury : day / 36524 = 0 := Nat.div_eq_of_lt century
  have noEra : day / 146096 = 0 := Nat.div_eq_of_lt (by omega)
  have hundred : yearsBefore day / 100 = 0 := Nat.div_eq_of_lt small
  unfold civilFromDays
  simp only
  rw [if_pos (by omega), era, ofEra, noCentury, noEra, Nat.add_zero,
    Nat.sub_zero]
  unfold yearsBefore at hundred small ⊢
  rw [hundred, Nat.sub_zero]
  refine Prod.ext ?_ rfl
  split <;> split <;> omega

/-- The leap years of the century. -/
theorem leapYear_iff (from_march : 2001 ≤ year) (to_february : year < 2101) :
    leapYear year = true ↔ (year - 2001) % 4 = 3 ∧ year - 2001 < 99 := by
  simp only [leapYear, Bool.and_eq_true, Bool.or_eq_true, decide_eq_true_eq]
  omega

theorem monthDays_le (month_pos : 1 ≤ month) (month_le : month ≤ 12) :
    monthDays year month =
      if month = 2 then if leapYear year then 29 else 28
      else [31, 28, 31, 30, 31, 30, 31, 31, 30, 31, 30, 31].getD
        (month - 1) 0 := by
  unfold monthDays
  rw [if_neg (by simp; omega)]
  by_cases february : month = 2
  · subst february
    cases leapYear year <;> rfl
  · simp [february]

/-- The day of the year gives the month again. -/
theorem dayOfYear (date : InCentury year month day) :
    (5 * (monthStart (fromMarch month) + (day - 1)) + 2) / 153 =
        fromMarch month ∧
      monthStart (fromMarch month) + (day - 1) ≤ 364 +
        (if marchYear year month % 4 = 3 ∧ marchYear year month < 99 then 1
          else 0) := by
  obtain ⟨monthPos, monthLe, dayPos, dayLe, fromMarch_, toFebruary⟩ := date
  rw [monthDays_le monthPos monthLe] at dayLe
  by_cases february : month = 2
  · subst february
    have leap := leapYear_iff fromMarch_ toFebruary
    simp only [if_true] at dayLe
    have years : marchYear year 2 = year - 2001 := by
      unfold marchYear
      simp only [Nat.reduceLeDiff, if_true]
      omega
    have start : monthStart (fromMarch 2) = 337 := by decide
    have march : fromMarch 2 = 11 := by decide
    rw [years, start, march]
    split at dayLe
    · rename_i is
      rw [if_pos (leap.mp is)]
      omega
    · omega
  · rw [if_neg february] at dayLe
    have days : monthStart (fromMarch month) + (day - 1) ≤ 336 ∧
        (5 * (monthStart (fromMarch month) + (day - 1)) + 2) / 153 =
          fromMarch month := by
      interval_cases month
      all_goals
        simp [monthStart, fromMarch] at dayLe february ⊢
        try omega
    omega

theorem centuryDay_yearOf (date : InCentury year month day) :
    centuryDay year month day < 36524 ∧
      YearOf (centuryDay year month day) (marchYear year month) := by
  have ofYear := (dayOfYear date).2
  have small : marchYear year month < 100 := by
    have toFebruary := date.to_february
    unfold marchYear
    split <;> rename_i early
    · simp only [early, if_true] at toFebruary
      omega
    · simp only [early, if_false] at toFebruary
      omega
  unfold centuryDay
  split at ofYear
  · rename_i leap
    refine ⟨by omega, by omega, ?_⟩
    rw [if_pos leap.1]
    omega
  · refine ⟨by omega, by omega, ?_⟩
    split <;> omega

/-- A date of the century is the date of its day. -/
theorem civilFromDays_daysFromCivil (date : InCentury year month day) :
    civilFromDays (daysFromCivil year month day) = (year, month, day) := by
  obtain ⟨century, yearOf⟩ := centuryDay_yearOf date
  have ofYear := (dayOfYear date).1
  have years : yearsBefore (centuryDay year month day) =
      marchYear year month :=
    (yearsBefore_yearOf century).2.unique yearOf
  have rest : centuryDay year month day -
      (365 * marchYear year month + marchYear year month / 4) =
        monthStart (fromMarch month) + (day - 1) := by
    unfold centuryDay
    omega
  rw [daysFromCivil_eq date, civilFromDays_eq century]
  simp only [years, rest, ofYear]
  obtain ⟨monthPos, monthLe, dayPos, _, fromMarch_, toFebruary⟩ := date
  have month_eq : (if fromMarch month < 10 then fromMarch month + 3
      else fromMarch month - 9) = month := by
    unfold fromMarch
    split <;> split <;> omega
  rw [month_eq]
  refine Prod.ext ?_ (Prod.ext rfl ?_)
  · change 2000 + marchYear year month + _ = year
    unfold marchYear
    split <;> rename_i early
    · simp only [early, if_true] at fromMarch_
      omega
    · simp only [early, if_false] at fromMarch_
      omega
  · change monthStart (fromMarch month) + (day - 1) -
      monthStart (fromMarch month) + 1 = day
    omega

/-- A day of the year lies in the month that is computed for it. -/
theorem inMonth {ofYear monthPrime : Nat}
    (prime : monthPrime = (5 * ofYear + 2) / 153) :
    monthStart monthPrime ≤ ofYear ∧ ofYear < monthStart (monthPrime + 1) := by
  unfold monthStart
  omega

/-- The length of a month other than February. -/
theorem monthDays_start {monthPrime : Nat} (year : Nat) (few : monthPrime < 11) :
    monthDays year (if monthPrime < 10 then monthPrime + 3
        else monthPrime - 9) =
      monthStart (monthPrime + 1) - monthStart monthPrime := by
  interval_cases monthPrime
  all_goals rfl

/-- The date of a day of the century lies in the century and on that day. -/
theorem civilFromDays_inCentury {days : Nat} (century : days < 36524)
    (date : civilFromDays (11017 + days) = (year, month, day)) :
    InCentury year month day ∧ centuryDay year month day = days := by
  obtain ⟨small, reached, within⟩ := yearsBefore_yearOf century
  rw [civilFromDays_eq century] at date
  simp only [Prod.mk.injEq] at date
  obtain ⟨yearIs, monthIs, dayIs⟩ := date
  generalize years_eq : yearsBefore days = years at *
  generalize ofYear_eq : days - (365 * years + years / 4) = ofYear at *
  generalize prime_eq : (5 * ofYear + 2) / 153 = monthPrime at *
  obtain ⟨started, notEnded⟩ := inMonth prime_eq.symm
  have twelve : monthPrime < 12 := by
    split at within <;> omega
  have march : fromMarch month = monthPrime := by
    rw [← monthIs, fromMarch]
    split <;> split <;> omega
  have marchYear_eq : marchYear year month = years := by
    rw [← yearIs, monthIs, marchYear]
    omega
  have monthRange : 1 ≤ month ∧ month ≤ 12 := by
    rw [← monthIs]
    split <;> omega
  rw [monthIs] at yearIs
  constructor
  · refine ⟨monthRange.1, monthRange.2, by omega, ?_, by omega, by omega⟩
    by_cases february : monthPrime < 11
    · have length := monthDays_start year february
      rw [monthIs] at length
      omega
    · have last : monthPrime = 11 := by omega
      have start : monthStart 11 = 337 := by decide
      have two : month = 2 := by
        rw [← monthIs, last]
        rfl
      rw [last, start] at dayIs started
      rw [monthDays_le monthRange.1 monthRange.2, if_pos two]
      rw [two] at yearIs
      simp only [Nat.le_refl, if_true] at yearIs
      have leap := @leapYear_iff year (by omega) (by omega)
      split
      · split at within <;> omega
      · rename_i common
        have never : ¬ ((year - 2001) % 4 = 3 ∧ year - 2001 < 99) :=
          fun holds => common (leap.mpr holds)
        split at within <;> omega
  · unfold centuryDay
    rw [marchYear_eq, march]
    omega

end Century

/-! ## Instants -/

section Instants

variable {unixSeconds : Nat} {utcOffsetMinutes : Int} {civil : Civil}

theorem validOffset_iff :
    validOffset utcOffsetMinutes = true ↔
      -840 ≤ utcOffsetMinutes ∧ utcOffsetMinutes ≤ 840 := by
  rw [validOffset, Bool.and_eq_true, decide_eq_true_iff, decide_eq_true_iff]
  rfl

/-- An instant that the clock can show. -/
def InRange (unixSeconds : Nat) : Prop :=
  kMinimumClockUnixSeconds ≤ unixSeconds ∧
    unixSeconds ≤ kMaximumClockUnixSeconds

/-- The seconds that a clock on the wall would count from 1970. -/
def localSeconds (unixSeconds : Nat) (utcOffsetMinutes : Int) : Nat :=
  ((unixSeconds : Int) + utcOffsetMinutes * 60).toNat

theorem localSeconds_eq (inRange : InRange unixSeconds)
    (valid : validOffset utcOffsetMinutes = true) :
    (unixSeconds : Int) + utcOffsetMinutes * 60 =
        localSeconds unixSeconds utcOffsetMinutes ∧
      11017 ≤ localSeconds unixSeconds utcOffsetMinutes / 86400 ∧
      localSeconds unixSeconds utcOffsetMinutes / 86400 < 11017 + 36524 := by
  have bounds := validOffset_iff.mp valid
  unfold InRange kMinimumClockUnixSeconds kMaximumClockUnixSeconds at inRange
  unfold localSeconds
  omega

/-- The time of day and the date of an instant. -/
theorem unixToCivil_eq (inRange : InRange unixSeconds)
    (valid : validOffset utcOffsetMinutes = true) :
    unixToCivil unixSeconds utcOffsetMinutes =
      let wall := localSeconds unixSeconds utcOffsetMinutes
      let date := civilFromDays (11017 + (wall / 86400 - 11017 : Nat))
      { year := date.1
        month := date.2.1
        day := date.2.2
        hour := wall % 86400 / 3600
        minute := wall % 86400 % 3600 / 60
        second := wall % 86400 % 3600 % 60 } := by
  obtain ⟨wall, after, _⟩ := localSeconds_eq inRange valid
  have quotient : ((localSeconds unixSeconds utcOffsetMinutes : Nat) :
      Int).tdiv 86400 =
        11017 + (localSeconds unixSeconds utcOffsetMinutes / 86400 - 11017 :
          Nat) := by
    rw [Int.tdiv_eq_ediv_of_nonneg (by omega)]
    omega
  have remainder : ((localSeconds unixSeconds utcOffsetMinutes : Nat) :
      Int).tmod 86400 =
        (localSeconds unixSeconds utcOffsetMinutes % 86400 : Nat) := by
    rw [Int.tmod_eq_emod_of_nonneg (by omega)]
    omega
  unfold unixToCivil
  simp only [wall, quotient, remainder]
  rw [if_neg (by omega)]
  simp only [Int.toNat_natCast]

theorem civilToUnix_unixToCivil (inRange : InRange unixSeconds)
    (valid : validOffset utcOffsetMinutes = true) :
    civilToUnix (unixToCivil unixSeconds utcOffsetMinutes)
      utcOffsetMinutes = some unixSeconds := by
  obtain ⟨wall, after, before⟩ := localSeconds_eq inRange valid
  rw [unixToCivil_eq inRange valid]
  generalize localSeconds unixSeconds utcOffsetMinutes = seconds at *
  simp only
  rcases dated : civilFromDays (11017 + (seconds / 86400 - 11017 : Nat))
    with ⟨year, month, day⟩
  obtain ⟨date, same⟩ := civilFromDays_inCentury (by omega) dated
  have days := daysFromCivil_eq date
  unfold civilToUnix
  simp only [days, same, valid]
  rw [if_neg, if_neg (by omega)]
  · congr 1
    omega
  · simp only [Bool.or_eq_true, decide_eq_true_eq, Bool.not_true,
      Bool.false_eq_true, or_false, not_or, Nat.not_lt]
    refine ⟨⟨⟨⟨⟨⟨date.month_pos, date.month_le⟩, date.day_pos⟩,
      date.day_le⟩, ?_⟩, ?_⟩, ?_⟩
    all_goals omega

theorem monthDays_le_31 (year month : Nat) : monthDays year month ≤ 31 := by
  unfold monthDays
  split
  · decide
  split
  · decide
  · have table : ∀ days ∈ [31, 28, 31, 30, 31, 30, 31, 31, 30, 31, 30, 31],
        days ≤ 31 := by decide
    rw [List.getD_eq_getElem?_getD]
    cases found : [31, 28, 31, 30, 31, 30, 31, 31, 30, 31, 30, 31][month - 1]?
      with
    | none => exact Nat.zero_le 31
    | some days => exact table days (List.mem_of_getElem? found)

/-- The fields of a shown instant fit the columns they are printed in. -/
theorem unixToCivil_bounds (inRange : InRange unixSeconds)
    (valid : validOffset utcOffsetMinutes = true) :
    let shown := unixToCivil unixSeconds utcOffsetMinutes
    shown.year < 10000 ∧ shown.month < 100 ∧ shown.day < 100 ∧
      shown.hour < 100 ∧ shown.minute < 100 ∧ shown.second < 100 := by
  obtain ⟨_, after, before⟩ := localSeconds_eq inRange valid
  rw [unixToCivil_eq inRange valid]
  generalize localSeconds unixSeconds utcOffsetMinutes = seconds at *
  simp only
  rcases dated : civilFromDays (11017 + (seconds / 86400 - 11017 : Nat))
    with ⟨year, month, day⟩
  obtain ⟨date, _⟩ := civilFromDays_inCentury (by omega) dated
  have year_lt := date.to_february
  have month_le := date.month_le
  have day_le := Nat.le_trans date.day_le (monthDays_le_31 year month)
  have year_small : year < 10000 := by
    split at year_lt <;> omega
  have month_small : month < 100 := by omega
  have day_small : day < 100 := by omega
  refine ⟨year_small, month_small, day_small, ?_, ?_, ?_⟩
  all_goals omega

/-- A date that is counted within the range of the clock is of the century. -/
theorem year_of_days {year month day : Nat} (month_le : month ≤ 12)
    (day_le : day ≤ 31) (after : 12000 ≤ daysFromCivil year month day)
    (before : daysFromCivil year month day ≤ 47500) :
    2000 + (if month ≤ 2 then 1 else 0) ≤ year ∧
      year < 2100 + (if month ≤ 2 then 1 else 0) := by
  have ofYear : (153 * (if month > 2 then month - 3 else month + 9) + 2) / 5 +
      day - 1 ≤ 367 := by
    split <;> omega
  unfold daysFromCivil at after before
  simp only at after before
  generalize (153 * (if month > 2 then month - 3 else month + 9) + 2) / 5 +
    day - 1 = days at ofYear after before
  generalize early : (if month ≤ 2 then 1 else 0) = shift at *
  have shiftInt : (if month ≤ 2 then (1 : Int) else 0) = shift := by
    rw [← early]
    split <;> rfl
  rw [shiftInt] at after before
  by_cases ancient : year < shift
  · have zero : (year : Int) - shift = -1 := by omega
    rw [zero] at after
    simp at after
    omega
  · have shifted : (year : Int) - shift = (year - shift : Nat) := by omega
    rw [shifted] at after before
    generalize marched : year - shift = years at *
    have era : (if (years : Int) ≥ 0 then (years : Int)
        else (years : Int) - 399).tdiv 400 = (years / 400 : Nat) := by
      rw [if_pos (by omega), Int.tdiv_eq_ediv_of_nonneg (by omega)]
      omega
    omega

theorem unixToCivil_civilToUnix
    (converted : civilToUnix civil utcOffsetMinutes = some unixSeconds)
    (inRange : InRange unixSeconds) :
    unixToCivil unixSeconds utcOffsetMinutes = civil := by
  unfold civilToUnix at converted
  split at converted
  · cases converted
  rename_i accepted
  simp only [Bool.or_eq_true, decide_eq_true_eq, Bool.not_eq_true', not_or,
    Bool.not_eq_false, Nat.not_lt] at accepted
  obtain ⟨⟨⟨⟨⟨⟨⟨monthPos, monthLe⟩, dayPos⟩, dayLe⟩, hour⟩, minute⟩,
    second⟩, valid⟩ := accepted
  simp only at converted
  split at converted
  · cases converted
  rename_i future
  have bounds := validOffset_iff.mp valid
  have exact_ := Option.some.inj converted
  obtain ⟨wall, after, before⟩ := localSeconds_eq inRange valid
  have range := inRange
  unfold InRange kMinimumClockUnixSeconds kMaximumClockUnixSeconds at range
  have short := Nat.le_trans dayLe (monthDays_le_31 _ _)
  obtain ⟨fromMarch_, toFebruary⟩ := @year_of_days civil.year civil.month
    civil.day monthLe short (by omega) (by omega)
  have date : InCentury civil.year civil.month civil.day :=
    ⟨monthPos, monthLe, dayPos, dayLe, fromMarch_, toFebruary⟩
  have days := daysFromCivil_eq date
  have again := civilFromDays_daysFromCivil date
  rw [days] at again future exact_
  rw [unixToCivil_eq inRange valid]
  generalize localSeconds unixSeconds utcOffsetMinutes = seconds at *
  have day_eq : seconds / 86400 - 11017 =
      centuryDay civil.year civil.month civil.day := by omega
  simp only [day_eq, again]
  obtain ⟨year, month, day, hours, minutes, secondsLeft⟩ := civil
  simp only at *
  have hour_eq : seconds % 86400 / 3600 = hours := by omega
  have minute_eq : seconds % 86400 % 3600 / 60 = minutes := by omega
  have second_eq : seconds % 86400 % 3600 % 60 = secondsLeft := by omega
  rw [hour_eq, minute_eq, second_eq]

end Instants

end Kitsu.Clock
