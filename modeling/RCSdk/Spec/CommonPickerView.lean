import Mathlib.Data.Int.Notation
import RCSdk.Spec.PickerView

/-!
# The cascading picker (`STRCCommonPickerView.m`)

Up to three columns. The rows of the second depend on the first, those of the third on both. An
index outside the bounds of an array, a `nil` put into a dictionary and a component that the picker
does not have raise, which is `none`. A message to `nil` returns `nil` or zero.
-/

namespace RCSdk

/-- A dictionary from texts to arrays of texts. -/
abbrev ArrayDictionary := String → Option (List String)

/-- What `setupData:` is given: one, two or three levels. -/
structure PickerData where
  first : List String
  second : Option ArrayDictionary
  third : Option ArrayDictionary
  levels : third.isSome → second.isSome

/-- `array[index]`, of an array that may be `nil`. -/
def objectAtIndex (array : Option (List String)) (index : ℤ) : Option (Option String) :=
  match array with
  | none => some none
  | some texts => if 0 ≤ index ∧ index < texts.length then some texts[index.toNat]? else none

/-- `array.count`. -/
def count (array : Option (List String)) : ℕ := (array.map List.length).getD 0

/-- `array.lastObject`. -/
def lastObject (array : Option (List String)) : Option String := array.bind List.getLast?

/-- `dictionary[key]`. -/
def objectForKey (dictionary : Option ArrayDictionary) (key : Option String) :
    Option (List String) := do
  let dictionary ← dictionary
  let key ← key
  dictionary key

/-- `[NSString stringWithFormat:@"%@-%@", first, second]`. -/
def pairKey (first second : Option String) : String :=
  first.getD "(null)" ++ "-" ++ second.getD "(null)"

/-- The fields of `STRCCommonPickerView`. -/
structure STRCCommonPickerView where
  firKey : Option String
  secKey : Option String
  firstArr : Option (List String)
  secondDict : Option ArrayDictionary
  thirdDict : Option ArrayDictionary
  firIndex : ℤ
  secIndex : ℤ
  thdIndex : ℤ
  componentNum : ℕ
  pickerView : UIPickerView

namespace STRCCommonPickerView

/-- `init`. -/
def init : STRCCommonPickerView where
  firKey := none
  secKey := none
  firstArr := none
  secondDict := none
  thirdDict := none
  firIndex := 0
  secIndex := 0
  thdIndex := 0
  componentNum := 3
  pickerView := .empty

/-- `pickerView:numberOfRowsInComponent:`. -/
def numberOfRowsInComponent (d : STRCCommonPickerView) (component : ℕ) : Option ℕ :=
  match component with
  | 0 => some (count d.firstArr)
  | 1 =>
    if count d.firstArr = 0 then some 0
    else do
      let firstComKey ← objectAtIndex d.firstArr d.firIndex
      some (count (objectForKey d.secondDict firstComKey))
  | 2 => do
    -- without the guard of the second column
    let firstComKey ← objectAtIndex d.firstArr d.firIndex
    let monthArr := objectForKey d.secondDict firstComKey
    let secondComKey ← objectAtIndex monthArr d.secIndex
    some (count (objectForKey d.thirdDict (pairKey firstComKey secondComKey)))
  | _ => some 0

/-- `pickerView:viewForRow:forComponent:reusingView:`, the text of the label. -/
def viewForRow (d : STRCCommonPickerView) (row component : ℕ) : Option (Option String) :=
  match component with
  | 0 => objectAtIndex d.firstArr row
  | 1 => do
    let currentFirstKey ← objectAtIndex d.firstArr d.firIndex
    let secondArray := objectForKey d.secondDict currentFirstKey
    -- the count is unsigned, so with no rows nothing is above its predecessor
    if count secondArray ≠ 0 ∧ row > count secondArray - 1 then some none
    else objectAtIndex secondArray row
  | _ => do
    let firstComKey ← objectAtIndex d.firstArr d.firIndex
    let monthArr := objectForKey d.secondDict firstComKey
    let secondComKey ← objectAtIndex monthArr d.secIndex
    objectAtIndex (objectForKey d.thirdDict (pairKey firstComKey secondComKey)) row

def dataSource (d : STRCCommonPickerView) : UIPickerViewDataSource where
  numberOfComponents := d.componentNum
  numberOfRowsInComponent := d.numberOfRowsInComponent
  viewForRow := d.viewForRow

/-- `setupData:`. -/
def setupData (data : PickerData) (d : STRCCommonPickerView) : STRCCommonPickerView :=
  { d with
    firstArr := some data.first
    secondDict := data.second
    thirdDict := data.third
    componentNum := if data.third.isSome then 3 else if data.second.isSome then 2 else 1 }

/-- `[self.pickerView reloadAllComponents]`, as the picker does for its new data source. -/
def reloadPickerView (d : STRCCommonPickerView) : Option STRCCommonPickerView := do
  let pickerView ← d.pickerView.reloadAllComponents d.dataSource
  some { d with pickerView }

def selectRow (row component : ℕ) (d : STRCCommonPickerView) : Option STRCCommonPickerView := do
  let pickerView ← d.pickerView.selectRow row component
  some { d with pickerView }

def reloadComponent (component : ℕ) (d : STRCCommonPickerView) : Option STRCCommonPickerView := do
  let pickerView ← d.pickerView.reloadComponent d.dataSource component
  some { d with pickerView }

/-- The loop of `pickerView:didSelectRow:inComponent:` over the columns after this one. -/
def reloadAfter (component : ℕ) (d : STRCCommonPickerView) : Option STRCCommonPickerView :=
  (List.range' (component + 1) (d.componentNum - (component + 1))).foldlM (fun d i => do
    let d ← d.selectRow 0 i
    d.reloadComponent i) d

/-- `reloadData`. The third column is not read. -/
def reloadData (d : STRCCommonPickerView) : Option STRCCommonPickerView :=
  if count d.firstArr = 0 then some d
  else do
    let yearStr ← objectAtIndex d.firstArr d.firIndex
    let monthArr := objectForKey d.secondDict yearStr
    let monthIndex ← d.pickerView.selectedRowInComponent 1
    let monthStr ← objectAtIndex monthArr monthIndex
    let firIndex ← d.pickerView.selectedRowInComponent 0
    let secIndex ← d.pickerView.selectedRowInComponent 1
    some { d with firKey := yearStr, secKey := monthStr, firIndex, secIndex }

/-- The `switch` of `pickerView:didSelectRow:inComponent:`. -/
def takeRow (row component : ℕ) (d : STRCCommonPickerView) : Option STRCCommonPickerView :=
  match component with
  | 0 =>
    if d.firIndex ≠ row then
      -- the index of the third column stays
      { d with firIndex := row, secIndex := 0 }.reloadAfter 0
    else some d
  | 1 => if d.secIndex ≠ row then { d with secIndex := row }.reloadAfter 1 else some d
  | 2 => some { d with thdIndex := row }
  | _ => some d

/-- `pickerView:didSelectRow:inComponent:`. -/
def didSelectRow (row component : ℕ) (d : STRCCommonPickerView) : Option STRCCommonPickerView := do
  let d ← d.takeRow row component
  d.reloadData

/-- `selectFirIndex:secIndex:thdIndex:`. -/
def selectFirIndex (year month day : ℕ) (d : STRCCommonPickerView) : Option STRCCommonPickerView :=
  if count d.firstArr = 0 then some d
  else do
    let d := { d with firIndex := year, secIndex := month }
    let yearStr ← objectAtIndex d.firstArr d.firIndex
    let monthArr := objectForKey d.secondDict yearStr
    let monthStr ← objectAtIndex monthArr month
    let d := { d with firKey := yearStr, secKey := monthStr }
    -- the index of the third column stays, and no column is reloaded
    (List.range d.componentNum).foldlM (fun d i => d.selectRow ([year, month, day].getD i 0) i) d

/-- `[self.pickerView selectRow:row inComponent:component animated:NO]`, of a row that may lie
before the first; `before` is what the picker then makes of the row it had selected. -/
def selectRowAt (before : ℕ → Option ℕ) (row : ℤ) (component : ℕ) (d : STRCCommonPickerView) :
    Option STRCCommonPickerView := do
  let selected ← d.pickerView.selectedRowInComponent component
  let row ← (if 0 ≤ row then some row.toNat else before selected)
  d.selectRow row component

/-- `selectFirIndex:secIndex:thdIndex:`, of indices that may be negative. -/
def selectFirIndexAt (before : ℕ → Option ℕ) (year month day : ℤ) (d : STRCCommonPickerView) :
    Option STRCCommonPickerView :=
  if count d.firstArr = 0 then some d
  else do
    let d := { d with firIndex := year, secIndex := month }
    let yearStr ← objectAtIndex d.firstArr d.firIndex
    let monthArr := objectForKey d.secondDict yearStr
    let monthStr ← objectAtIndex monthArr month
    let d := { d with firKey := yearStr, secKey := monthStr }
    (List.range d.componentNum).foldlM
      (fun d i => d.selectRowAt before ([year, month, day].getD i 0) i) d

/-- `setSelectLastOne`. The unsigned count of no list, less one, is the index -1. -/
def setSelectLastOne (before : ℕ → Option ℕ) (d : STRCCommonPickerView) :
    Option STRCCommonPickerView :=
  let d := { d with firIndex := (count d.firstArr : ℤ) - 1 }
  let monthArr := objectForKey d.secondDict (lastObject d.firstArr)
  let d := { d with secIndex := (count monthArr : ℤ) - 1 }
  -- the key is the second text alone, where the other callbacks put both into it
  let thirdArray := objectForKey d.thirdDict (lastObject monthArr)
  let d := { d with thdIndex := (count thirdArray : ℤ) - 1 }
  d.selectFirIndexAt before ((count d.firstArr : ℤ) - 1) d.secIndex d.thdIndex

/-- `selectedOk`, with what the delegate is handed, if anything. `setObject:forKey:` of `nil`
raises. -/
def selectedOk (d : STRCCommonPickerView) : Option (Option (List (String × String))) :=
  if count d.firstArr = 0 then some none
  else do
    let firstComKey ←
      (if d.componentNum > 0 then (objectAtIndex d.firstArr d.firIndex).join else some "")
    let monthArr := objectForKey d.secondDict firstComKey
    let secondComKey ←
      (if d.componentNum > 1 then (objectAtIndex monthArr d.secIndex).join else some "")
    let thirdArray := objectForKey d.thirdDict (pairKey firstComKey secondComKey)
    let thirdComKey ←
      (if d.componentNum > 2 then (objectAtIndex thirdArray d.thdIndex).join else some "")
    some (some (([("1", firstComKey), ("2", secondComKey), ("3", thirdComKey)]).take d.componentNum))

/-- A column was turned to a row. -/
def scroll (row component : ℕ) (d : STRCCommonPickerView) : Option STRCCommonPickerView := do
  let d ← d.selectRow row component
  d.didSelectRow row component

/-- The events of a run: the data source is set, which the picker then loads; a column is
turned; a selection by the program; and the confirmation. -/
inductive Event where
  | setupData (data : PickerData)
  | scroll (row component : ℕ)
  | selectFirIndex (year month day : ℕ)
  | selectedOk

/-- One event, `none` if it raises. A column cannot be turned to a row it does not display. -/
def step (d : STRCCommonPickerView) : Event → Option STRCCommonPickerView
  | .setupData data => (d.setupData data).reloadPickerView
  | .scroll row component =>
    match d.pickerView.numberOfRowsInComponent component with
    | none => some d
    | some rows => if row < rows then d.scroll row component else some d
  | .selectFirIndex year month day => d.selectFirIndex year month day
  | .selectedOk => d.selectedOk.map fun _ => d

end STRCCommonPickerView

end RCSdk
