import RCSdk.Spec.CommonPickerView

/-!
# The picker of one list (`STPickerSingle.m`)

Three columns: the list in the middle, and a column of one row on either side, the second of which
shows the unit. The row to report is kept beside the picker. An index outside the bounds of the
list raises, which is `none`.
-/

namespace RCSdk

/-- The fields of `STPickerSingle`. -/
structure STPickerSingle where
  arrayData : Option (List String)
  selectedTitle : Option String
  titleUnit : Option String
  _selectRow : ℕ
  pickerView : UIPickerView
  deriving DecidableEq

namespace STPickerSingle

def init : STPickerSingle where
  arrayData := none
  selectedTitle := none
  titleUnit := none
  _selectRow := 0
  pickerView := .empty

/-- `pickerView:numberOfRowsInComponent:`. -/
def numberOfRowsInComponent (d : STPickerSingle) (component : ℕ) : Option ℕ :=
  match component with
  | 0 => some 1
  | 1 => some (count d.arrayData)
  | _ => some 1

/-- `pickerView:viewForRow:forComponent:reusingView:`, the text of the label. -/
def viewForRow (d : STPickerSingle) (row component : ℕ) : Option (Option String) :=
  match component with
  | 0 => some none
  | 1 => objectAtIndex d.arrayData row
  | _ => some d.titleUnit

def dataSource (d : STPickerSingle) : UIPickerViewDataSource where
  numberOfComponents := 3
  numberOfRowsInComponent := d.numberOfRowsInComponent
  viewForRow := d.viewForRow

/-- `setupData:`, with the list under `FirstDataKey`. -/
def setupData (arrayData : Option (List String)) (d : STPickerSingle) : STPickerSingle :=
  { d with titleUnit := some "", arrayData }

/-- `[self.pickerView reloadAllComponents]`, as the picker does for its new data source. -/
def reloadAllComponents (d : STPickerSingle) : Option STPickerSingle := do
  let pickerView ← d.pickerView.reloadAllComponents d.dataSource
  some { d with pickerView }

/-- `pickerView:didSelectRow:inComponent:`. The column is not looked at. -/
def didSelectRow (row _component : ℕ) (d : STPickerSingle) : Option STPickerSingle := do
  let d := { d with _selectRow := row }
  let selectedTitle ← objectAtIndex d.arrayData d._selectRow
  some { d with selectedTitle }

/-- `selectedOk`, with what the delegate is handed. -/
def selectedOk (d : STPickerSingle) : Option (Option String × ℕ) := do
  let selectedTitle ← objectAtIndex d.arrayData d._selectRow
  some (selectedTitle, d._selectRow)

/-- `setArrayData:`. The row stays. -/
def setArrayData (arrayData : Option (List String)) (d : STPickerSingle) : Option STPickerSingle :=
  { d with arrayData, selectedTitle := arrayData.bind List.head? }.reloadAllComponents

/-- `setSelectedRow:`. -/
def setSelectedRow (selectedRow : ℕ) (d : STPickerSingle) : Option STPickerSingle := do
  let d := { d with _selectRow := selectedRow }
  let pickerView ← d.pickerView.selectRow d._selectRow 1
  some { d with pickerView }

/-- `setTitleUnit:`. -/
def setTitleUnit (titleUnit : Option String) (d : STPickerSingle) : Option STPickerSingle :=
  { d with titleUnit }.reloadAllComponents

/-- A column was turned to a row. -/
def scroll (row component : ℕ) (d : STPickerSingle) : Option STPickerSingle := do
  let pickerView ← d.pickerView.selectRow row component
  { d with pickerView }.didSelectRow row component

/-- What happens to the picker. -/
inductive Event where
  | setArrayData (arrayData : List String)
  | setSelectedRow (selectedRow : ℕ)
  | setTitleUnit (titleUnit : Option String)
  | scroll (row component : ℕ)

/-- One event, `none` if it raises. -/
def step (d : STPickerSingle) : Event → Option STPickerSingle
  | .setArrayData arrayData => d.setArrayData (some arrayData)
  | .setSelectedRow selectedRow => d.setSelectedRow selectedRow
  | .setTitleUnit titleUnit => d.setTitleUnit titleUnit
  | .scroll row component => d.scroll row component

end STPickerSingle

end RCSdk
