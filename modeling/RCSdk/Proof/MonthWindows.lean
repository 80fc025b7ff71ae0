import RCSdk.Spec.NSCalendarUtil

/-!
# The limits of a month

One of the two functions parses the text it wrote with the other's separator, so it never has a
date; the other adds a day in seconds to a time in milliseconds, and reads the bits of a double as
the length of the month.

* `getDayGapInMonth_windows`: the windows of the second last 86.5 seconds.
* `month_law_never`: the windows are right for no month.
-/

namespace RCSdk

namespace NSCalendar

/-- The number a text of digits writes. -/
def number (text : String) : ℤ := Gregorian.value text.toList

section Windows

variable (calendar : NSCalendar) (now : ℚ) (year month : ℤ) (w : TimeWindow)

/-- From the first millisecond of the month into its last second. -/
def IsMonth : Prop :=
  w.beginTimer = calendar.monthStart year month * 1000 ∧
    (calendar.monthEnd year month - 1) * 1000 ≤ w.endTimer ∧
    w.endTimer < calendar.monthEnd year month * 1000

/-- From the first millisecond of the month to the end of its first day, or into the last second
before it. -/
def IsFirstDay : Prop :=
  w.beginTimer = calendar.monthStart year month * 1000 ∧
    (calendar.days.start (calendar.firstDay year month + 1) - 1) * 1000 ≤ w.endTimer ∧
    w.endTimer ≤ calendar.days.start (calendar.firstDay year month + 1) * 1000

/-- The last day of the month, or today in the current one. -/
def lastDayNumber : ℤ :=
  let next := calendar.firstDay year month + Gregorian.daysInMonth year month
  if calendar.firstDay year month ≤ calendar.days.dayOf now ∧ calendar.days.dayOf now < next then
    calendar.days.dayOf now
  else next - 1

/-- Within that day. -/
def IsLastDay : Prop :=
  calendar.days.dayOf (w.beginTimer / 1000) = calendar.lastDayNumber now year month ∧
    calendar.days.dayOf (w.endTimer / 1000) = calendar.lastDayNumber now year month

end Windows

/-- **The limits of a month**, for a year and a month written in digits. -/
def MonthLaw (outOfRange : ℚ → ℤ) (now : ℚ) (calendar : NSCalendar) (year month : String) : Prop :=
  ∃ check gap, calendar.getCheckTimeInMonthWithYear year month = some (some check) ∧
    calendar.getDayGapInMonthWithYear outOfRange now year month = some (some gap) ∧
    calendar.IsMonth (number year) (number month) check ∧
    calendar.IsFirstDay (number year) (number month) gap.firstDay ∧
    calendar.IsLastDay now (number year) (number month) gap.lastDay

variable {outOfRange : ℚ → ℤ} {now : ℚ} {calendar : NSCalendar}

/-- **The windows last 86.5 seconds.** -/
theorem getDayGapInMonth_windows {dateStr : String} {gap : DayGap}
    (h : calendar.getDayGapInMonth outOfRange now dateStr = some (some gap)) :
    gap.firstDay.endTimer = gap.firstDay.beginTimer + 86500 ∧
      gap.lastDay.endTimer = gap.lastDay.beginTimer + 86500 := by
  simp only [getDayGapInMonth, Option.bind_eq_bind, Option.bind_eq_some_iff] at h
  obtain ⟨range, -, h⟩ := h
  cases range with
  | none => simp at h
  | some range =>
    obtain rfl := Option.some.inj (Option.some.inj h)
    constructor
    · push_cast
      ring
    · push_cast
      ring

/-- **No month has the right windows**: the first day of the month is longer than its window. -/
theorem month_law_never (outOfRange : ℚ → ℤ) (now : ℚ) (calendar : NSCalendar)
    (year month : String) : ¬ MonthLaw outOfRange now calendar year month := by
  rintro ⟨check, gap, -, hgap, -, ⟨hbegin, hend, -⟩, -⟩
  have hwindow := (getDayGapInMonth_windows hgap).1
  unfold monthStart at hbegin
  rcases calendar.days.hours (calendar.firstDay (number year) (number month)) with h | h | h <;>
    linarith

/-- UTC, where the calendar answers `NO` for no date. -/
def inUTC : NSCalendar where
  days := .utc
  firstDay year month :=
    365 * (year - 1) + (year - 1) / 4 - (year - 1) / 100 + (year - 1) / 400 - 719162 +
      (((List.range (month - 1).toNat).map fun i => Gregorian.daysInMonth year (i + 1)).sum : ℤ)
  rangeOfNil := some none

/-- **June 2018**, in September 2020: no limits of the month, and two windows of 86.5 seconds, the
second on the day of the call. -/
theorem month_law_june :
    inUTC.monthStart 2018 6 * 1000 = 1527811200000 ∧
    inUTC.monthEnd 2018 6 * 1000 = 1530403200000 ∧
    inUTC.getCheckTimeInMonthWithYear "2018" "6" = some none ∧
    inUTC.getDayGapInMonthWithYear (fun _ => 2 ^ 63 - 1) 1600000000 "2018" "6" =
      some (some ⟨⟨1527811200000, 1527811286500⟩, ⟨1600000000000, 1600000086500⟩⟩) ∧
    ¬ MonthLaw (fun _ => 2 ^ 63 - 1) 1600000000 inUTC "2018" "6" := by
  have hcheck : inUTC.getCheckTimeInMonthWithYear "2018" "6" = some none := by decide +kernel
  refine ⟨by decide +kernel, by decide +kernel, hcheck, by decide +kernel, ?_⟩
  rintro ⟨check, -, hsome, -⟩
  rw [hcheck] at hsome
  cases hsome

end NSCalendar

end RCSdk
