import RCSdk.Spec.PickerDate

/-!
# The last row and the day column (`STPickerDate.m`)

`setSelectLastOne` and `setHiddenDay:` of the date picker, and its runs in either layout, with the
day column or without. The layout does not change in a run; a picker has its columns from the time
it is first loaded, and loads them itself where it is asked for a row before.
-/

namespace RCSdk

open Gregorian

namespace STPickerDate

/-- `setHiddenDay:`. -/
def setHiddenDay (hiddenDay : Bool) (d : STPickerDate) : STPickerDate :=
  { d with componentNum := if hiddenDay then 2 else 3 }

/-- The body of the loop of `setSelectLastOne`. -/
def selectColumn (d : STPickerDate) (i : ℕ) : Option STPickerDate :=
  if i = 0 then d.selectRow d.firIndex.toNat 0
  else if i = 1 then d.selectRow d.secIndex.toNat 1
  else if i = 2 then d.selectRow d.thdIndex.toNat 2
  else some d

/-- `setSelectLastOne`. -/
def setSelectLastOne (today : Date) (d : STPickerDate) : Option STPickerDate := do
  let d : STPickerDate :=
    { d with firIndex := d.year - d.yearLeast, secIndex := d.month - 1, thdIndex := d.day - 1 }
  let d ← d.reloadAllComponents today
  (List.range d.componentNum).foldlM selectColumn d

end STPickerDate

namespace DateColumns

/-- The events of a run: `setBeginTime:`, `selectYear:selectMonth:selectDay:`, `setSelectLastOne`,
the picker loaded, a wheel turned to a row, and `selectedOk`. -/
inductive Event where
  | setBeginTime (time : List Char)
  | selectYear (year month day : ℤ)
  | setSelectLastOne
  | show
  | scroll (row component : ℕ)
  | selectedOk
  deriving DecidableEq, Repr

/-- The picker displays this row of this column. -/
def Displays (d : STPickerDate) (row component : ℕ) : Prop :=
  ∃ rows, d.pickerView.numberOfRowsInComponent component = some rows ∧ row < rows

/-- The picker has been loaded. -/
def Loaded (d : STPickerDate) : Prop := d.pickerView.components ≠ []

instance (d : STPickerDate) : Decidable (Loaded d) := inferInstanceAs (Decidable (_ ≠ _))

/-- The picker as `selectedOk` finds it. -/
def loadIfNeeded (today : Date) (d : STPickerDate) : Option STPickerDate :=
  if Loaded d then some d else d.reloadAllComponents today

/-- One event; `none` when it raises. A wheel cannot be turned to a row that is not displayed. -/
def step (today : Date) (d : STPickerDate) : Event → Option STPickerDate
  | .setBeginTime time => some (d.setBeginTime today time)
  | .selectYear year month day => d.selectYear today year month day
  | .setSelectLastOne => d.setSelectLastOne today
  | .show => d.reloadAllComponents today
  | .scroll row component =>
    match d.pickerView.numberOfRowsInComponent component with
    | none => some d
    | some rows => if row < rows then DatePicker.scroll today row component d else some d
  | .selectedOk => (loadIfNeeded today d).bind fun d => d.selectedOk.map Prod.fst

end DateColumns

end RCSdk
