import RCSdk.Lib.Gregorian
import RCSdk.Lib.LocalDays
import RCSdk.Spec.DoubleDatePicker

/-!
# The limits of a month (`NSCalendar+Util.m`)

Two functions take a year and a month, write them into one text, parse it, ask the calendar for the
month of the date and compute from its start and its length. Times are exact; what is converted to
an integer outside the 64 bits is whatever the processor makes of it.
-/

namespace RCSdk

/-- `[NSCalendar currentCalendar]` with its formatter: the days of the time zone, and the day each
month begins with. `rangeOfNil` is what it answers for no date: the start and the length of some
month, that there is none, or an exception. -/
structure NSCalendar where
  days : LocalDays
  firstDay : ℤ → ℤ → ℤ
  rangeOfNil : Option (Option (ℚ × ℚ))

/-- `[format dateFromString:text]` for the formats `yyyy/MM` and `yyyy-MM`, by the separator: the
year and the month of the date, `nil` without the separator. -/
def dateFromString (separator : Char) (text : String) : Option (ℕ × ℕ) :=
  match text.toList.span (· ≠ separator) with
  | (_, []) => none
  | (year, _ :: month) =>
    if year ≠ [] ∧ month ≠ [] ∧ year.all Char.isDigit ∧ month.all Char.isDigit ∧
        1 ≤ Gregorian.value month ∧ Gregorian.value month ≤ 12 then
      some (Gregorian.value year, Gregorian.value month)
    else none

/-- The bits of a whole double below `2 ^ 53`, read as an integer: the exponent, and the digits
after the first. -/
def bitsOfDouble (x : ℚ) : ℤ :=
  let n := ⌊x⌋.toNat
  if n = 0 then 0 else (1023 + n.log2) * 2 ^ 52 + (n * 2 ^ (52 - n.log2) - 2 ^ 52)

/-- `(int64_t)x`, where `outOfRange` is what becomes of a value beyond the 64 bits. -/
def int64Of (outOfRange : ℚ → ℤ) (x : ℚ) : ℤ :=
  if -2 ^ 63 ≤ int64OfDouble x ∧ int64OfDouble x < 2 ^ 63 then int64OfDouble x else outOfRange x

/-- A `BeginTimer` and an `EndTimer`. -/
structure TimeWindow where
  beginTimer : ℚ
  endTimer : ℚ
  deriving DecidableEq, Repr

/-- The dictionary of `getDayGapInMonth:`. -/
structure DayGap where
  firstDay : TimeWindow
  lastDay : TimeWindow
  deriving DecidableEq, Repr

namespace NSCalendar

/-- The first second of a month. -/
def monthStart (calendar : NSCalendar) (year month : ℤ) : ℚ :=
  calendar.days.start (calendar.firstDay year month)

/-- The first second after it. -/
def monthEnd (calendar : NSCalendar) (year month : ℤ) : ℚ :=
  calendar.days.start (calendar.firstDay year month + Gregorian.daysInMonth year month)

/-- `rangeOfUnit:NSCalendarUnitMonth startDate:interval:forDate:`, the start of the month and its
length in seconds; `some none` is `NO`. -/
def rangeOfUnit (calendar : NSCalendar) (date : Option (ℕ × ℕ)) : Option (Option (ℚ × ℚ)) :=
  match date with
  | some (year, month) =>
    some (some (calendar.monthStart year month,
      calendar.monthEnd year month - calendar.monthStart year month))
  | none => calendar.rangeOfNil

/-- `getMonthBeginAndEndWith:`, `some none` for `nil`. -/
def getMonthBeginAndEndWith (calendar : NSCalendar) (dateStr : String) :
    Option (Option TimeWindow) := do
  let newDate := dateFromString '/' dateStr
  let range ← calendar.rangeOfUnit newDate
  match range with
  | none => some none
  | some (beginDate, interval) =>
    let endDate := beginDate + (interval - 1)
    some (some ⟨beginDate * 1000, endDate * 1000⟩)

/-- `getCheckTimeInMonthWithYear:month:`. -/
def getCheckTimeInMonthWithYear (calendar : NSCalendar) (year month : String) :
    Option (Option TimeWindow) :=
  calendar.getMonthBeginAndEndWith (year ++ "-" ++ month)

/-- `getDayGapInMonth:`, at the time `now` in seconds. The calendar writes a double where the
length is read as an integer. -/
def getDayGapInMonth (outOfRange : ℚ → ℤ) (now : ℚ) (calendar : NSCalendar) (dateStr : String) :
    Option (Option DayGap) := do
  let newDate := dateFromString '-' dateStr
  let range ← calendar.rangeOfUnit newDate
  match range with
  | none => some none
  | some (beginDate, length) =>
    let interval := bitsOfDouble length
    let endDate := beginDate + (interval - 1 : ℤ)
    let beginDouble := int64Of outOfRange (beginDate * 1000)
    let endDouble := int64Of outOfRange (endDate * 1000)
    let todayInterval := now * 1000
    let endDouble :=
      if todayInterval < endDouble then int64Of outOfRange todayInterval else endDouble
    -- the times are in milliseconds, what is added is a day in seconds
    some (some ⟨⟨beginDouble, (beginDouble + 24 * 3600 + 100 : ℤ)⟩,
      ⟨endDouble, (endDouble + 24 * 3600 + 100 : ℤ)⟩⟩)

/-- `getDayGapInMonthWithYear:month:`. -/
def getDayGapInMonthWithYear (outOfRange : ℚ → ℤ) (now : ℚ) (calendar : NSCalendar)
    (year month : String) : Option (Option DayGap) :=
  calendar.getDayGapInMonth outOfRange now (year ++ "-" ++ month)

end NSCalendar

end RCSdk
