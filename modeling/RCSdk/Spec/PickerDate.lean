import RCSdk.Lib.Gregorian
import RCSdk.Spec.PickerView

/-!
# The date picker (`STPickerDate.m`, `NSCalendar+ST.m`)

Three wheels, for the year, the month and the day, from a begin time to today. The rows count
from the begin time in its year and month and from the first elsewhere, and stop at today. A run
is any sequence of configurations, selections and scrolls; today does not change in a run.
-/

namespace RCSdk

open Gregorian

/-! ## Calendar and text -/

/-- `getLastMonthWithSelectYear:`. -/
def getLastMonthWithSelectYear (today : Date) (year : ℤ) : ℤ :=
  if year = today.year then today.month else 12

/-- `getDaysWithYear:month:`. -/
def getDaysWithYear (today : Date) (year month : ℤ) : ℤ :=
  if year = today.year ∧ month = today.month then today.day
  else
    match month with
    | 1 => 31
    | 2 => if year % 400 = 0 ∨ year % 100 ≠ 0 ∧ year % 4 = 0 then 29 else 28
    | 3 => 31
    | 4 => 30
    | 5 => 31
    | 6 => 30
    | 7 => 31
    | 8 => 31
    | 9 => 30
    | 10 => 31
    | 11 => 30
    | 12 => 31
    | _ => 0

/-- `integerValue`: blanks, a sign, and the digits up to the first character that is none. -/
def integerValue (text : List Char) : ℤ :=
  match text.dropWhile Char.isWhitespace with
  | '-' :: text => -value (text.takeWhile Char.isDigit)
  | '+' :: text => value (text.takeWhile Char.isDigit)
  | text => value (text.takeWhile Char.isDigit)

/-- The text of a month, as `setBeginTime:` takes it. -/
def yyyyMM (d : Date) : List Char := pad 4 d.year.toNat ++ pad 2 d.month.toNat

/-- The text of a day, as `setBeginTime:` takes it. -/
def yyyyMMdd (d : Date) : List Char := yyyyMM d ++ pad 2 d.day.toNat

/-! ## The picker -/

/-- The fields of `STPickerDate`. -/
structure STPickerDate where
  year : ℤ
  month : ℤ
  day : ℤ
  leastMonthNum : ℤ
  yearLeast : ℤ
  yearSum : ℤ
  monthLeast : ℤ
  dayLeast : ℤ
  firIndex : ℤ
  secIndex : ℤ
  thdIndex : ℤ
  componentNum : ℕ
  pickerView : UIPickerView

namespace STPickerDate

/-- `setupUI`. -/
def setupUI (today : Date) : STPickerDate where
  year := today.year
  month := today.month
  day := today.day
  leastMonthNum := 12
  yearLeast := 2015
  yearSum := today.year - 2015 + 1
  monthLeast := 1
  dayLeast := 1
  firIndex := 0
  secIndex := 0
  thdIndex := 0
  componentNum := 3
  pickerView := .empty

/-- `pickerView:numberOfRowsInComponent:`. -/
def numberOfRowsInComponent (today : Date) (d : STPickerDate) (component : ℕ) : ℤ :=
  match component with
  | 0 => d.yearSum
  | 1 =>
    if d.firIndex = 0 then d.leastMonthNum - d.monthLeast + 1
    else getLastMonthWithSelectYear today (d.firIndex + d.yearLeast)
  | _ =>
    let monthLeast := if d.firIndex = 0 then d.monthLeast else 1
    let dayLeast := if d.firIndex = 0 ∧ d.secIndex = 0 then d.dayLeast else 1
    getDaysWithYear today (d.firIndex + d.yearLeast) (d.secIndex + monthLeast) - dayLeast + 1

/-- `pickerView:viewForRow:forComponent:reusingView:`, the text of the label. -/
def viewForRow (d : STPickerDate) (row : ℕ) (component : ℕ) : String :=
  match component with
  | 0 => toString (row + d.yearLeast)
  | 1 => if d.firIndex = 0 then toString (row + d.monthLeast) else toString (row + 1 : ℤ)
  | _ =>
    if d.firIndex = 0 ∧ d.secIndex = 0 then toString (row + d.dayLeast) else toString (row + 1 : ℤ)

def dataSource (today : Date) (d : STPickerDate) : UIPickerViewDataSource where
  numberOfComponents := d.componentNum
  numberOfRowsInComponent component := some (d.numberOfRowsInComponent today component).toNat
  viewForRow row component := some (some (d.viewForRow row component))

/-- `[self.pickerView reloadAllComponents]`. -/
def reloadAllComponents (today : Date) (d : STPickerDate) : Option STPickerDate := do
  let pickerView ← d.pickerView.reloadAllComponents (d.dataSource today)
  some { d with pickerView }

/-- `[self.pickerView selectRow:row inComponent:component animated:NO]`. -/
def selectRow (row component : ℕ) (d : STPickerDate) : Option STPickerDate := do
  let pickerView ← d.pickerView.selectRow row component
  some { d with pickerView }

/-- The date of the three indices, as `reloadData` decodes them. -/
def decoded (d : STPickerDate) : Date where
  year := d.firIndex + d.yearLeast
  month := if d.firIndex = 0 then d.secIndex + d.monthLeast else d.secIndex + 1
  day := if d.firIndex = 0 ∧ d.secIndex = 0 then d.thdIndex + d.dayLeast else d.thdIndex + 1

/-- `reloadData`. -/
def reloadData (d : STPickerDate) : Option STPickerDate := do
  let firIndex ← d.pickerView.selectedRowInComponent 0
  let secIndex ← d.pickerView.selectedRowInComponent 1
  let thdIndex ← d.pickerView.selectedRowInComponent 2
  let d : STPickerDate := { d with firIndex, secIndex, thdIndex }
  some { d with year := d.decoded.year, month := d.decoded.month, day := d.decoded.day }

/-- The `switch` of `pickerView:didSelectRow:inComponent:`. -/
def takeRow (row component : ℕ) (d : STPickerDate) : Option STPickerDate :=
  match component with
  | 0 =>
    if d.firIndex ≠ row then do
      let d : STPickerDate := { d with firIndex := row }
      let rows ← d.pickerView.numberOfRowsInComponent 0
      if row = 0 ∨ (row : ℤ) = rows - 1 then do
        let d : STPickerDate := { d with secIndex := 0, thdIndex := 0 }
        let d ← d.selectRow 0 1
        d.selectRow 0 2
      else some d
    else some d
  -- the case of the month falls through to the case of the day
  | 1 => some { d with secIndex := row, thdIndex := row }
  | 2 => some { d with thdIndex := row }
  | _ => some d

/-- `pickerView:didSelectRow:inComponent:`. -/
def didSelectRow (today : Date) (row component : ℕ) (d : STPickerDate) : Option STPickerDate := do
  let d ← d.takeRow row component
  let d ← d.reloadAllComponents today
  d.reloadData

/-- `selectYear:selectMonth:selectDay:`. A row before the first is taken as the first. -/
def selectYear (today : Date) (year month day : ℤ) (d : STPickerDate) : Option STPickerDate := do
  let d : STPickerDate := { d with year, month, day, firIndex := year - d.yearLeast }
  let d : STPickerDate :=
    { d with secIndex := if d.firIndex = 0 then month - d.monthLeast else month - 1 }
  let d : STPickerDate :=
    { d with thdIndex := if d.firIndex = 0 ∧ d.secIndex = 0 then day - d.dayLeast else day - 1 }
  let d ← d.reloadAllComponents today
  let d ← d.selectRow d.firIndex.toNat 0
  let d ← d.selectRow d.secIndex.toNat 1
  d.selectRow d.thdIndex.toNat 2

/-- `setYearLeast:`. -/
def setYearLeast (yearLeast : ℤ) (d : STPickerDate) : STPickerDate :=
  { d with yearLeast, yearSum := d.year - yearLeast + 1 }

/-- `setMonthLeast:`. -/
def setMonthLeast (today : Date) (monthLeast : ℤ) (d : STPickerDate) : STPickerDate :=
  { d with monthLeast, leastMonthNum := if d.yearLeast = d.year then today.month else 12 }

/-- `setDayLeast:`. -/
def setDayLeast (dayLeast : ℤ) (d : STPickerDate) : STPickerDate := { d with dayLeast }

/-- `setBeginTime:`. -/
def setBeginTime (today : Date) (time : List Char) (d : STPickerDate) : STPickerDate :=
  let year := integerValue (time.take 4)
  let month := integerValue ((time.drop 4).take 2)
  let day := integerValue (time.drop 6)
  if time.length = 8 then
    ((d.setYearLeast year).setMonthLeast today month).setDayLeast day
  else if time.length = 6 then
    -- the least day stays what it was
    (d.setYearLeast year).setMonthLeast today month
  else d

/-- `selectedOk`, with the date the delegate is handed. -/
def selectedOk (d : STPickerDate) : Option (STPickerDate × Date) := do
  let d ← d.reloadData
  some (d, ⟨d.year, d.month, d.day⟩)

end STPickerDate

/-! ## Runs -/

/-- A date picker, and the latest begin time it was given. -/
structure DatePicker where
  view : STPickerDate
  beginTime : Date

namespace DatePicker

/-- A fresh picker. Until it is given a begin time, that is the first day of 2015. -/
def init (today : Date) : DatePicker where
  view := .setupUI today
  beginTime := ⟨2015, 1, 1⟩

/-- The events of a run: `setBeginTime:` with eight and with six digits, a selection, the
picker shown, and a wheel turned to a row. -/
inductive Event where
  | setBeginDay (time : Date)
  | setBeginMonth (time : Date)
  | selectDate (date : Date)
  | show
  | scroll (row component : ℕ)
  deriving DecidableEq, Repr

/-- A begin time: a date up to today, whose year has four digits. -/
def IsBeginTime (today time : Date) : Prop := time.Valid ∧ time ≤ today ∧ time.year < 10000

instance (today time : Date) : Decidable (IsBeginTime today time) :=
  inferInstanceAs (Decidable (_ ∧ _ ∧ _))

/-- A wheel was turned to a row. -/
def scroll (today : Date) (row component : ℕ) (d : STPickerDate) : Option STPickerDate := do
  let d ← d.selectRow row component
  d.didSelectRow today row component

/-- One event. A wheel cannot be turned to a row it does not display. -/
def step (today : Date) (s : DatePicker) : Event → Option DatePicker
  | .setBeginDay time =>
    if IsBeginTime today time then
      some ⟨s.view.setBeginTime today (yyyyMMdd time), time⟩
    else none
  | .setBeginMonth time =>
    if IsBeginTime today time ∧ time.day = 1 then
      some ⟨s.view.setBeginTime today (yyyyMM time), time⟩
    else none
  | .selectDate date =>
    if date.Valid ∧ s.beginTime ≤ date ∧ date ≤ today then
      (s.view.selectYear today date.year date.month date.day).map fun view => { s with view }
    else none
  | .show => (s.view.reloadAllComponents today).map fun view => { s with view }
  | .scroll row component =>
    match s.view.pickerView.numberOfRowsInComponent component with
    | none => some s
    | some rows =>
      if row < rows then (scroll today row component s.view).map fun view => { s with view }
      else some s

end DatePicker

end RCSdk
