import Mathlib.Data.Rat.Floor

/-!
# The picker of two dates (`DoubleDatePickerView.m`)

One `UIDatePicker` serves both ends of a range. The times are kept in the dictionary of the caller,
in milliseconds; a key that is not there reads as zero. Times are exact. A run is any sequence of
taps, date changes and times that pass; the view can be shown again after it has delivered, so the
run goes on.
-/

namespace RCSdk

/-- A calendar in a time zone, by the moment at which the day of a time begins, in seconds. -/
structure DayCalendar where
  startOfDay : ℚ → ℚ
  startOfDay_le : ∀ t, startOfDay t ≤ t
  mono : ∀ s t, s ≤ t → startOfDay s ≤ startOfDay t
  idem : ∀ t, startOfDay (startOfDay t) = startOfDay t

/-- Days of 24 hours. -/
def DayCalendar.utc : DayCalendar where
  startOfDay t := 86400 * ⌊t / 86400⌋
  startOfDay_le t := by
    have h := Int.floor_le (t / 86400)
    rw [le_div_iff₀' (by norm_num)] at h
    exact h
  mono s t h := by
    have hd : s / 86400 ≤ t / 86400 := div_le_div_of_nonneg_right h (by norm_num)
    exact mul_le_mul_of_nonneg_left (Int.cast_le.2 (Int.floor_mono hd)) (by norm_num)
  idem t := by
    rw [mul_div_cancel_left₀ _ (by norm_num), Int.floor_intCast]

/-- The value of a double as an `int64_t`. -/
def int64OfDouble (x : ℚ) : ℤ := if 0 ≤ x then ⌊x⌋ else ⌈x⌉

/-- The dictionary of the caller, by the keys the view knows; `others` counts its other keys. -/
structure DateSpace where
  beginTimer : Option ℚ
  endTimer : Option ℚ
  dateKey : Option String
  others : ℕ
  deriving DecidableEq, Repr

/-- `allKeys.count`. -/
def DateSpace.count (d : DateSpace) : ℕ :=
  d.others + (if d.beginTimer.isSome then 1 else 0) + (if d.endTimer.isSome then 1 else 0) +
    (if d.dateKey.isSome then 1 else 0)

/-- `[[dateSpace objectForKey:key] doubleValue]`. -/
def doubleValue (timer : Option ℚ) : ℚ := timer.getD 0

/-- `DoubleDatePickerView`, with the bounds of its picker, the clock, and the times of each call of
its block. -/
structure DoubleDatePickerView where
  dateSpace : DateSpace
  beginLabelSelect : Bool
  minimumDate : Option ℚ
  maximumDate : ℚ
  now : ℚ
  delivered : List (Option ℚ × Option ℚ)
  deriving DecidableEq, Repr

namespace DoubleDatePickerView

/-- `setBeginLabelSelect:`. Both branches set the same bound. -/
def setBeginLabelSelect (beginLabelSelect : Bool) (v : DoubleDatePickerView) :
    DoubleDatePickerView :=
  let v := { v with beginLabelSelect }
  if !beginLabelSelect then
    { v with minimumDate := some (doubleValue v.dateSpace.beginTimer / 1000) }
  else
    { v with minimumDate := some (doubleValue v.dateSpace.beginTimer / 1000) }

/-- `reloadDateLabel`. -/
def reloadDateLabel (v : DoubleDatePickerView) : DoubleDatePickerView :=
  v.setBeginLabelSelect v.beginLabelSelect

/-- `initWithDateSpace:block:`, at the time `now`. -/
def initWithDateSpace (dateSpace : DateSpace) (now : ℚ) : DoubleDatePickerView :=
  let v : DoubleDatePickerView :=
    { dateSpace, beginLabelSelect := false, minimumDate := none, maximumDate := now, now,
      delivered := [] }
  v.reloadDateLabel.setBeginLabelSelect true

/-- `dateLabelPressed:`. -/
def dateLabelPressed (beginLabel : Bool) (v : DoubleDatePickerView) : DoubleDatePickerView :=
  let v := v.setBeginLabelSelect beginLabel
  if !v.beginLabelSelect && v.dateSpace.endTimer.isNone then
    { v with dateSpace := { v.dateSpace with endTimer := some (v.now * 1000) } }.reloadDateLabel
  else v

/-- The block is called. -/
def deliver (v : DoubleDatePickerView) : DoubleDatePickerView :=
  { v with delivered := v.delivered ++ [(v.dateSpace.beginTimer, v.dateSpace.endTimer)] }

/-- A timer set to a date, unless it is at that date. -/
def setUnlessEqual (date : ℚ) (timer : Option ℚ) : Option ℚ :=
  if date ≠ doubleValue timer / 1000 then some (date * 1000) else timer

/-- The dictionary with both ends rounded to the limits of their days. -/
def roundDateSpace (cal : DayCalendar) (d : DateSpace) : DateSpace :=
  let beginDate := doubleValue d.beginTimer / 1000
  let date := cal.startOfDay beginDate
  let d := { d with beginTimer := setUnlessEqual date d.beginTimer }
  let endDate := doubleValue d.endTimer / 1000
  let dateEnd := cal.startOfDay endDate
  let dateEnd := dateEnd + (24 * 3600 - 1)
  { d with endTimer := setUnlessEqual dateEnd d.endTimer }

/-- `sureBtnPressed`. The count takes every key for one of the three it waits for. -/
def sureBtnPressed (cal : DayCalendar) (v : DoubleDatePickerView) : DoubleDatePickerView :=
  if v.dateSpace.count < 3 then v
  else
    let dateSpace := { roundDateSpace cal v.dateSpace with dateKey := some "" }
    { v with dateSpace }.deliver

/-- The days back and the title of a quick button, by its tag. -/
def quickRange (tag : ℕ) : ℤ × String :=
  if tag = 100 then (30, "近30天")
  else if tag = 101 then (183, "近半年")
  else if tag = 102 then (365, "近一年")
  else (0, "")

/-- `selectDefineDate:`. The bounds of the picker stay. -/
def selectDefineDate (tag : ℕ) (v : DoubleDatePickerView) : DoubleDatePickerView :=
  let perDays := (quickRange tag).1
  let minCtime := int64OfDouble ((v.now - perDays * 24 * 60 * 60) * 1000)
  let maxCtime := int64OfDouble (v.now * 1000)
  { v with
    dateSpace := { v.dateSpace with
      beginTimer := some minCtime
      endTimer := some maxCtime
      dateKey := some (quickRange tag).2 } }.deliver

/-- The dictionary after a date was picked. -/
def pick (date : ℚ) (v : DoubleDatePickerView) : DateSpace :=
  if v.beginLabelSelect then { v.dateSpace with beginTimer := some (date * 1000) }
  else { v.dateSpace with endTimer := some (date * 1000) }

/-- `datepickerChange`, with the date the picker reports. -/
def datepickerChange (date : ℚ) (v : DoubleDatePickerView) : DoubleDatePickerView :=
  { v with dateSpace := v.pick date }.reloadDateLabel

/-- The picker can report the date. -/
def InBounds (v : DoubleDatePickerView) (date : ℚ) : Prop :=
  (∀ minimumDate, v.minimumDate = some minimumDate → minimumDate ≤ date) ∧ date ≤ v.maximumDate

instance (v : DoubleDatePickerView) (date : ℚ) : Decidable (v.InBounds date) := by
  unfold InBounds
  cases v.minimumDate <;> infer_instance

/-- What happens to the view. -/
inductive Event where
  | dateLabelPressed (beginLabel : Bool)
  | datepickerChange (date : ℚ)
  | selectDefineDate (tag : ℕ)
  | sureBtnPressed
  | wait (time : ℚ)

/-- One event. The picker reports no date outside its bounds, and no time passes backwards. -/
def step (cal : DayCalendar) (v : DoubleDatePickerView) : Event → Option DoubleDatePickerView
  | .dateLabelPressed beginLabel => some (v.dateLabelPressed beginLabel)
  | .datepickerChange date => some (if v.InBounds date then v.datepickerChange date else v)
  | .selectDefineDate tag => some (v.selectDefineDate tag)
  | .sureBtnPressed => some (v.sureBtnPressed cal)
  | .wait time => some (if 0 ≤ time then { v with now := v.now + time } else v)

end DoubleDatePickerView

end RCSdk
