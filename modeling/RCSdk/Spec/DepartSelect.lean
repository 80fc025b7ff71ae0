import Mathlib.Data.List.Range
import RCSdk.Spec.DownSelectView

/-!
# The department picker (`KPDepartSelectPopView.m`)

A button opens a drop-down list with a row for each department. The row that is tapped comes back
as an item, and the department is looked up again by the item's name.
-/

namespace RCSdk

/-- `KPDepartment`. -/
structure KPDepartment where
  name : String
  departmentId : ℤ
  deriving DecidableEq, Repr

/-- `KPDepartSelectPopView`, with the drop-down list it opened last and the title of its button. -/
structure KPDepartSelectPopView where
  department : Option KPDepartment
  sortDepartments : List KPDepartment
  selectIndex : ℕ
  selectButton : Option String
  selectView : Option DownSelect

namespace KPDepartSelectPopView

/-- The body of the loop of `createData`, for department `department` at place `i`. -/
def createDatum (v : KPDepartSelectPopView) (department : KPDepartment) (i : ℕ) :
    KPDepartSelectPopView :=
  match v.department with
  | none =>
    if 0 = department.departmentId then
      { v with department := some department, selectIndex := i }
    else v
  | some d => if d.departmentId = department.departmentId then { v with selectIndex := i } else v

/-- `createData`. -/
def createData (departments : List KPDepartment) (v : KPDepartSelectPopView) :
    KPDepartSelectPopView :=
  let v := { v with sortDepartments := departments }
  let v := v.sortDepartments.zipIdx.foldl (fun v p => v.createDatum p.1 p.2) v
  match v.department, v.sortDepartments with
  | none, first :: _ => { v with department := some first, selectIndex := 0 }
  | _, _ => v

/-- `initWithTitle:FromDepartment:andDepartments:…`. -/
def initWithDepartment (department : Option KPDepartment) (departments : List KPDepartment) :
    KPDepartSelectPopView :=
  let v := createData departments
    { department, sortDepartments := [], selectIndex := 0, selectButton := none, selectView := none }
  { v with selectButton := v.department.map (·.name) }

/-- The item of row `i`. -/
def rowItem (v : KPDepartSelectPopView) (i : ℕ) : SelectToModel :=
  let lPri := { SelectToModel.initWithType .radio with modelSelect := .default }
  let lPri := if v.selectIndex = i then lPri.selectModelToDo true else lPri
  { lPri with name := v.sortDepartments[i]?.map (·.name) }

/-- The drop-down list `buttonAction:` opens, with an item for each row. -/
def dropDown (v : KPDepartSelectPopView) : DownSelect where
  models := v.rowItem
  view := DownSelectView.initWithView.openSelectFrame v.rowItem
    (some (List.range v.sortDepartments.length))
  calls := []

/-- `buttonAction:`. -/
def buttonAction (v : KPDepartSelectPopView) : KPDepartSelectPopView :=
  if v.sortDepartments.length = 0 then v else { v with selectView := some v.dropDown }

/-- `downSelectView:Data:FromModel:`, which goes on to the end of the list. -/
def downSelectView (model : SelectToModel) (v : KPDepartSelectPopView) : KPDepartSelectPopView :=
  let title := model.name
  let v := { v with selectButton := title }
  v.sortDepartments.zipIdx.foldl (fun v p =>
    if title = some p.1.name then { v with selectIndex := p.2, department := some p.1 } else v) v

/-- What the drop-down list told its delegate, one call after the other. -/
def takeCalls (s : DownSelect) (v : KPDepartSelectPopView) : KPDepartSelectPopView :=
  s.calls.foldl (fun v call =>
    match call with
    | .downSelectView data => v.downSelectView (s.models data)
    | .colseView => v) v

/-- The drop-down list, while it is on the screen. -/
def openView (v : KPDepartSelectPopView) : Option DownSelect :=
  v.selectView.filter (·.view.isOnScreen)

/-- An event of the drop-down list. -/
def inSelectView (ev : DownSelect.Event) (v : KPDepartSelectPopView) :
    Option KPDepartSelectPopView :=
  match v.openView with
  | none => some v
  | some s =>
    ({ s with calls := [] }.step ev).map fun t => { v with selectView := some t }.takeCalls t

/-- `clickSureBtn:`, what the block is given. -/
def clickSureBtn (v : KPDepartSelectPopView) : Option KPDepartment := v.department

end KPDepartSelectPopView

/-- A department picker, with the department of the row tapped last. -/
structure DepartSelect where
  popView : KPDepartSelectPopView
  tapped : Option KPDepartment

namespace DepartSelect

/-- What happens to a department picker: its button, a row or the space around the rows is
tapped, or the list is hidden by the view. -/
inductive Event where
  | buttonAction
  | tapRow (row : ℕ)
  | tapOutside
  | tapAction

/-- The row that is tapped is on the screen. -/
def rowTapped (s : DepartSelect) (row : ℕ) : Option KPDepartment :=
  match s.popView.openView with
  | none => none
  | some list =>
    match viewWithTag (100 + row) list.view.displayed with
    | some _ => s.popView.sortDepartments[row]?
    | none => none

/-- One event, `none` if it raises. While it is on the screen, the drop-down list covers the whole
view, and so the button. -/
def step (s : DepartSelect) : Event → Option DepartSelect
  | .buttonAction =>
    match s.popView.openView with
    | some _ => some s
    | none => some { s with popView := s.popView.buttonAction }
  | .tapRow row =>
    (s.popView.inSelectView (.tap (100 + row))).map fun popView =>
      { popView, tapped := (s.rowTapped row).or s.tapped }
  | .tapOutside => (s.popView.inSelectView .tapOutside).map fun popView => { s with popView }
  | .tapAction => (s.popView.inSelectView .hideSelect).map fun popView => { s with popView }

end DepartSelect

end RCSdk
