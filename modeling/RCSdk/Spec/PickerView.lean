import Mathlib.Data.List.Basic

/-!
# `UIPickerView`

A picker has components, each with its rows as it loaded them from the data source and one
selected row. The rows are loaded again only on a reload, which clamps the selected row to the
new number of rows. A component that the picker does not have is an exception, `none`; so is
whatever the data source raises while the rows are loaded.
-/

namespace RCSdk

/-- A component: the texts of its rows (a row without a view or a text has none), and the
selected one. -/
structure PickerComponent where
  titles : List (Option String)
  selectedRow : ℕ
  deriving DecidableEq, Repr

structure UIPickerView where
  components : List PickerComponent
  deriving DecidableEq, Repr

/-- What a picker asks its data source and its delegate for. -/
structure UIPickerViewDataSource where
  numberOfComponents : ℕ
  numberOfRowsInComponent : ℕ → Option ℕ
  viewForRow : ℕ → ℕ → Option (Option String)

namespace UIPickerView

/-- A picker that has not been shown. -/
def empty : UIPickerView := ⟨[]⟩

variable (p : UIPickerView)

/-- `selectedRowInComponent:`. -/
def selectedRowInComponent (component : ℕ) : Option ℕ :=
  p.components[component]?.map PickerComponent.selectedRow

/-- The number of rows the picker loaded. -/
def numberOfRowsInComponent (component : ℕ) : Option ℕ :=
  p.components[component]?.map fun c => c.titles.length

/-- The text on the highlighted row. -/
def highlighted (component : ℕ) : Option (Option String) :=
  p.components[component]?.bind fun c => c.titles[c.selectedRow]?

/-- `selectRow:inComponent:animated:`. -/
def selectRow (row component : ℕ) : Option UIPickerView :=
  if component < p.components.length then
    some ⟨p.components.modify component fun c => { c with selectedRow := row }⟩
  else none

end UIPickerView

namespace UIPickerViewDataSource

variable (ds : UIPickerViewDataSource)

/-- The rows of a component, with the selected row clamped. -/
def load (component row : ℕ) : Option PickerComponent := do
  let rows ← ds.numberOfRowsInComponent component
  let titles ← (List.range rows).mapM fun r => ds.viewForRow r component
  some ⟨titles, min row (rows - 1)⟩

end UIPickerViewDataSource

namespace UIPickerView

/-- `reloadComponent:`. -/
def reloadComponent (ds : UIPickerViewDataSource) (component : ℕ) (p : UIPickerView) :
    Option UIPickerView := do
  let row ← p.selectedRowInComponent component
  let c ← ds.load component row
  some ⟨p.components.set component c⟩

/-- `reloadAllComponents`. A component the picker did not have starts at its first row. -/
def reloadAllComponents (ds : UIPickerViewDataSource) (p : UIPickerView) : Option UIPickerView := do
  let components ← (List.range ds.numberOfComponents).mapM fun c =>
    ds.load c ((p.selectedRowInComponent c).getD 0)
  some ⟨components⟩

end UIPickerView

end RCSdk
