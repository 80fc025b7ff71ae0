import Mathlib.Data.List.Nodup
import Mathlib.Algebra.Order.Ring.Int
import Mathlib.Logic.Function.Basic

/-!
# The drop-down list and the sort bar (`DownSelectView.m`)

Both show a button for each item of a list and note in the items which one is selected. The items
are shared with the caller, so they live in a heap and are told apart by identity. A button is
found again by its tag, 100 above the place of its item. An index outside the stored list raises,
which is `none`.
-/

namespace RCSdk

/-- `ItemSelectType`. -/
inductive ItemSelectType where
  | free
  | radio
  | multiselect
  | radio_2
  deriving DecidableEq, Repr

/-- `ItemSelectUIModel`. -/
inductive ItemSelectUIModel where
  | free
  | default
  | model_2
  deriving DecidableEq, Repr

/-- `SelectToModel`. -/
structure SelectToModel where
  typeSelect : ItemSelectType
  modelSelect : ItemSelectUIModel
  isSelected : Bool
  isFirstFire : Bool
  tagSelecte : ℤ
  name : Option String
  deriving DecidableEq, Repr

namespace SelectToModel

/-- `initWithType:`. -/
def initWithType (type : ItemSelectType) : SelectToModel where
  typeSelect := type
  modelSelect := .free
  isSelected := false
  isFirstFire := false
  tagSelecte := 0
  name := none

/-- `selectModelToDo:`. -/
def selectModelToDo (is_select : Bool) (m : SelectToModel) : SelectToModel :=
  let tagSelecte :=
    if is_select then
      if m.typeSelect = .multiselect then
        if m.isSelected then
          if m.tagSelecte ≠ 0 then
            if m.tagSelecte = 1 then 2 else 1
          else 1
        else 1
      else m.tagSelecte
    else
      if m.typeSelect = .multiselect then 0 else m.tagSelecte
  { m with tagSelecte, isSelected := is_select }

/-- An item as the application makes it: selected through `selectModelToDo:` only. -/
inductive Made : SelectToModel → Prop
  | initWithType (type : ItemSelectType) : Made (initWithType type)
  | selectModelToDo {m : SelectToModel} (is_select : Bool) : Made m → Made (m.selectModelToDo is_select)
  | setFields {m : SelectToModel} (modelSelect : ItemSelectUIModel) (isFirstFire : Bool)
      (name : Option String) : Made m → Made { m with modelSelect, isFirstFire, name }

/-- A tap on the item does nothing: it is selected already, and not to be toggled. -/
def isRepeated (m : SelectToModel) : Bool := m.isSelected && m.typeSelect ≠ .multiselect

end SelectToModel

/-- An item, by identity. -/
abbrev ItemRef := ℕ

/-- The items there are. -/
abbrev Models := ItemRef → SelectToModel

/-- A button. `logo` is the image view in it, if there is one, with its image; `model` is the
item it was built for. -/
structure UIButton where
  tag : ℕ
  title : Option String
  selected : Bool
  logo : Option (Option String)
  model : ItemRef
  deriving DecidableEq, Repr

/-- `viewWithTag:` among the buttons. The tag of a logo is 1000, which no button has in a list of
fewer than 900 items. -/
def viewWithTag (tag : ℕ) (buttons : List UIButton) : Option UIButton :=
  buttons.find? (·.tag = tag)

/-- Sends a message to the button of this tag, if there is one. -/
def modifyViewWithTag (tag : ℕ) (f : UIButton → UIButton) (buttons : List UIButton) :
    List UIButton :=
  buttons.map fun item => if item.tag = tag then f item else item

/-- `[item setSelected:selected]`. -/
def UIButton.setSelected (selected : Bool) (item : UIButton) : UIButton := { item with selected }

/-- The image of the logo, if there is one. -/
def UIButton.setLogo (image : Option String) (item : UIButton) : UIButton :=
  { item with logo := item.logo.map fun _ => image }

/-- The body of the loop over the stored list in `selectToDo:` and `reorderSelectToDo:`, for item
`one` at place `i`. `unselect` is what the view does to a button other than the sender. -/
def selectOne (unselect : UIButton → UIButton) (_chooseModel : ItemRef) (sender : ℕ)
    (one : ItemRef) (i : ℕ) (models : Models) (buttons : List UIButton) : Models × List UIButton :=
  let buttons := modifyViewWithTag (100 + i) (fun item =>
    if item.tag = sender then item.setSelected true else unselect item) buttons
  let models := Function.update models one
    ((models one).selectModelToDo (decide (_chooseModel = one)))
  (models, buttons)

/-- The loop. -/
def selectLoop (unselect : UIButton → UIButton) (list : List ItemRef) (_chooseModel : ItemRef)
    (sender : ℕ) (models : Models) (buttons : List UIButton) : Models × List UIButton :=
  list.zipIdx.foldl (fun x p => selectOne unselect _chooseModel sender p.1 p.2 x.1 x.2)
    (models, buttons)

/-- What a view tells its delegate. -/
inductive DelegateCall where
  | downSelectView (data : ItemRef)
  | colseView
  deriving DecidableEq, Repr

/-! ## The drop-down list -/

/-- `DownSelectView`. `bgView` is the scroll view, by its buttons; `selectList` is empty for
`nil`; `isOnScreen` says that the view has not been faded out and taken away. -/
structure DownSelectView where
  bgView : Option (List UIButton)
  selectList : List ItemRef
  isAutoPop : Bool
  hasTapGesture : Bool
  isOnScreen : Bool
  deriving DecidableEq, Repr

namespace DownSelectView

/-- `initWithView:`. -/
def initWithView : DownSelectView where
  bgView := none
  selectList := []
  isAutoPop := true
  hasTapGesture := true
  isOnScreen := true

/-- The button of an item, as `defaultItem:Numb:Width:` and `modelItem_2:Numb:` build it. -/
def item (one : ItemRef) (m : SelectToModel) (i : ℕ) : UIButton where
  tag := 100 + i
  title := m.name
  selected := m.isSelected
  logo := none
  model := one

/-- The buttons `openSelectFrame:ItemHeight:List:` builds: none for an item of no model. -/
def buildItems (models : Models) (list : List ItemRef) : List UIButton :=
  list.zipIdx.filterMap fun (one, i) =>
    match (models one).modelSelect with
    | .default => some (item one (models one) i)
    | .model_2 => some (item one (models one) i)
    | .free => none

/-- `openSelectFrame:ItemHeight:List:`. -/
def openSelectFrame (models : Models) (list : Option (List ItemRef)) (v : DownSelectView) :
    DownSelectView :=
  match list with
  | none => v
  | some list =>
    if list.length = 0 then v
    else
      -- the list is stored before it is known whether its buttons will be built
      let v := { v with selectList := list }
      match v.bgView with
      | some _ => v
      | none => { v with bgView := some (buildItems models v.selectList) }

/-- `openSelectOrgY:ItemHeight:List:`. -/
def openSelectOrgY (models : Models) (list : Option (List ItemRef)) (v : DownSelectView) :
    DownSelectView :=
  v.openSelectFrame models list

/-- `hideSelect`. -/
def hideSelect (v : DownSelectView) : DownSelectView :=
  if v.bgView.isSome then { v with isOnScreen := false } else v

/-- `closeDo`. -/
def closeDo (v : DownSelectView) : DownSelectView × List DelegateCall :=
  ({ v with hasTapGesture := false }.hideSelect, [.colseView])

/-- `selectToDo:`, sent by the button of this tag. -/
def selectToDo (sender : ℕ) (models : Models) (v : DownSelectView) :
    Option (Models × DownSelectView × List DelegateCall) :=
  let selectedNum := sender - 100
  v.selectList[selectedNum]?.map fun _chooseModel =>
    if (models _chooseModel).isRepeated then
      if v.isAutoPop then (models, v.closeDo) else (models, v, [])
    else
      let x :=
        selectLoop (·.setSelected false) v.selectList _chooseModel sender models (v.bgView.getD [])
      let v := { v with bgView := v.bgView.map fun _ => x.2 }
      let v := if v.isAutoPop then v.hideSelect else v
      (x.1, v, [.downSelectView _chooseModel])

/-- The buttons that can be tapped. -/
def displayed (v : DownSelectView) : List UIButton := if v.isOnScreen then v.bgView.getD [] else []

end DownSelectView

/-- A drop-down list with the items, and what it told its delegate so far. -/
structure DownSelect where
  models : Models
  view : DownSelectView
  calls : List DelegateCall

namespace DownSelect

/-- What happens to a drop-down list: it is opened, is hidden, one of its buttons is tapped, or
the space around them. -/
inductive Event where
  | openSelectFrame (list : Option (List ItemRef))
  | openSelectOrgY (list : Option (List ItemRef))
  | hideSelect
  | tap (sender : ℕ)
  | tapOutside

/-- One event, `none` if it raises. A button that is not displayed cannot be tapped. -/
def step (s : DownSelect) : Event → Option DownSelect
  | .openSelectFrame list => some { s with view := s.view.openSelectFrame s.models list }
  | .openSelectOrgY list => some { s with view := s.view.openSelectOrgY s.models list }
  | .hideSelect => some { s with view := s.view.hideSelect }
  | .tap sender =>
    match viewWithTag sender s.view.displayed with
    | some _ =>
      (s.view.selectToDo sender s.models).map fun x =>
        { models := x.1, view := x.2.1, calls := s.calls ++ x.2.2 }
    | none => some s
  | .tapOutside =>
    if s.view.hasTapGesture ∧ s.view.isOnScreen then
      some { s with view := s.view.closeDo.1, calls := s.calls ++ s.view.closeDo.2 }
    else some s

/-- A view made for these items, with nothing in it. -/
def initWithView (models : Models) : DownSelect := ⟨models, .initWithView, []⟩

/-- A list shown in a view that stays after a tap. -/
def shown (models : Models) (list : List ItemRef) : DownSelect where
  models := models
  view := { DownSelectView.initWithView with isAutoPop := false }.openSelectFrame models (some list)
  calls := []

end DownSelect

/-! ## The sort bar -/

/-- `SortSelect`, with the items and what it told its delegate so far. -/
structure SortSelect where
  models : Models
  sortModelArr : List ItemRef
  sortScroll : List UIButton
  calls : List DelegateCall

namespace SortSelect

/-- `initWithFrame:ShowData:`, `nil` for an empty list. -/
def initWithFrame (models : Models) (showData : List ItemRef) : Option SortSelect :=
  if showData.length = 0 then none else some ⟨models, showData, [], []⟩

/-- `(NSUInteger)n`. -/
def asUnsigned (n : ℤ) : ℕ := (n % 2 ^ 64).toNat

/-- `sender.tag`, zero for `nil`. -/
def tagOf (sender : Option ℕ) : ℤ := (sender.map Int.ofNat).getD 0

/-- `reorderSelectUI:`. -/
def reorderSelectUI (sender : Option ℕ) (s : SortSelect) : SortSelect :=
  let selTag := tagOf sender - 100
  -- the count is unsigned, so a tag below 100 is beyond the end
  match s.sortModelArr[asUnsigned selTag]?, sender with
  | some one, some sender =>
    let image := if (s.models one).tagSelecte = 1 then "common_arrange_down" else "common_arrange"
    { s with
      sortScroll := modifyViewWithTag sender
        (fun item => (item.setSelected true).setLogo (some image)) s.sortScroll }
  | _, _ => s

/-- What `reorderSelectToDo:` does to a button other than the sender. -/
def unselect (btn : UIButton) : UIButton := (btn.setLogo none).setSelected false

/-- `reorderSelectToDo:`. -/
def reorderSelectToDo (sender : Option ℕ) (s : SortSelect) : SortSelect :=
  let selTag := tagOf sender - 100
  match s.sortModelArr[asUnsigned selTag]?, sender with
  | some _chooseModel, some tag =>
    if (s.models _chooseModel).isRepeated then s.reorderSelectUI sender
    else
      let x := selectLoop unselect s.sortModelArr _chooseModel tag s.models s.sortScroll
      let s := { s with models := x.1, sortScroll := x.2 }
      let s := s.reorderSelectUI sender
      { s with calls := s.calls ++ [.downSelectView _chooseModel] }
  | _, _ => s

/-- A button as `beginShow` builds it. -/
def button (one : ItemRef) (m : SelectToModel) (i : ℕ) : UIButton where
  tag := 100 + i
  title := m.name
  selected := false
  logo := if m.typeSelect = .multiselect then some none else none
  model := one

/-- What the loop of `beginShow` works on: the bar, the button of the last selected item, and
whether it is to be fired. -/
structure Building where
  bar : SortSelect
  firstBtn : Option ℕ
  isFirstFire : Bool

/-- The body of the loop of `beginShow`. The mark of a selected item is cleared. -/
def buildButton (x : Building) (one : ItemRef) (i : ℕ) : Building :=
  let m := x.bar.models one
  let btn := button one m i
  let bar := { x.bar with sortScroll := x.bar.sortScroll ++ [btn] }
  if m.isSelected then
    { bar := { bar with models := Function.update bar.models one { m with isFirstFire := false } }
      firstBtn := some btn.tag
      isFirstFire := m.isFirstFire }
  else { x with bar }

/-- The loop of `beginShow`. -/
def buildButtons (s : SortSelect) : Building :=
  s.sortModelArr.zipIdx.foldl (fun x p => buildButton x p.1 p.2) ⟨s, none, false⟩

/-- `beginShow`. -/
def beginShow (s : SortSelect) : SortSelect :=
  let x := s.buildButtons
  if x.isFirstFire then x.bar.reorderSelectToDo x.firstBtn else x.bar.reorderSelectUI x.firstBtn

/-- A list shown in a sort bar. -/
def shown (models : Models) (showData : List ItemRef) : Option SortSelect :=
  (initWithFrame models showData).map beginShow

/-- The button of this tag is tapped, if there is one. -/
def step (s : SortSelect) (sender : ℕ) : Option SortSelect :=
  match viewWithTag sender s.sortScroll with
  | some _ => some (s.reorderSelectToDo (some sender))
  | none => some s

end SortSelect

end RCSdk
