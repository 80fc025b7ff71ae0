import Mathlib.Logic.Function.Basic
import RCSdk.Spec.PickerDate

/-!
# The tab bar (`RCTabBar.m`, `NumbTagView.m`)

How its buttons come in and go, and the two marks a button has: a dot and a ball with a number. The
dots are kept a second time, in an array by the index at which their buttons were inserted. Views
are told apart by identity. What raises is `none`.
-/

namespace RCSdk

/-- A view, by identity. -/
abbrev ViewRef := ℕ

def MAXNEWPOINT : ℕ := 10

/-- The dictionary of a tab, by the two images it has or lacks. -/
structure TabImageDic where
  tabBarDefault : Bool
  tabBarSeleted : Bool
  deriving DecidableEq, Repr

/-- What a `NumbTagView` shows. -/
structure NumbTagView where
  text : String
  isHidden : Bool
  deriving DecidableEq, Repr

/-- `takeNumb:Font:`. -/
def NumbTagView.takeNumb (numbStr : Option String) : NumbTagView :=
  match numbStr with
  | none => ⟨"", true⟩
  | some numbStr =>
    if integerValue numbStr.toList > 0 then
      ⟨if integerValue numbStr.toList > 99 then "99+" else numbStr, false⟩
    else ⟨"", true⟩

/-- A subview of a button. -/
inductive ButtonSubview where
  | point (v : ViewRef)
  | numbTagView (v : ViewRef)
  deriving DecidableEq, Repr

/-- A button of the bar. -/
structure TabButton where
  tag : ℤ
  selected : Bool
  deriving DecidableEq, Repr

/-- A button as a view with its subviews. -/
structure BarButton extends TabButton where
  view : ViewRef
  point : ViewRef
  numb : ViewRef
  deriving DecidableEq, Repr

/-- In the order they were added. -/
def BarButton.subviews (btn : BarButton) : List ButtonSubview :=
  [.point btn.point, .numbTagView btn.numb]

/-- `RCTabBar`, with its subviews in the order they were added. `views` counts the views that were
made, `isHidden` and `numbs` say what the dots and the balls are like. -/
structure TabBar where
  buttons : List BarButton
  newPoint : ℕ → Option ViewRef
  subviews : List ViewRef
  views : ℕ
  isHidden : ViewRef → Bool
  numbs : ViewRef → NumbTagView

namespace TabBar

/-- A bar without buttons. -/
def empty : TabBar where
  buttons := []
  newPoint := fun _ => none
  subviews := []
  views := 0
  isHidden := fun _ => false
  numbs := fun _ => ⟨"", true⟩

/-- `viewWithTag:`, for a tag that only buttons have: the first subview with this tag. -/
def viewWithTag (tag : ℤ) (s : TabBar) : Option ViewRef :=
  s.subviews.find? fun v => s.buttons.any fun b => b.view == v && b.tag == tag

/-- The button that `insertTabWithImageDic:atIndex:MaxTag:` makes, in a bar that has made it. -/
def newButton (index : ℕ) (s : TabBar) : BarButton where
  tag := (index : ℤ) + 100
  selected := false
  view := s.views
  point := s.views + 1
  numb := s.views + 2

/-- The views of the new button, with its dot in the array. -/
def withNewViews (index : ℕ) (s : TabBar) : TabBar :=
  let btn := s.newButton index
  { s with
    views := s.views + 3
    newPoint := Function.update s.newPoint index (some btn.point)
    isHidden := Function.update s.isHidden btn.point true
    numbs := Function.update s.numbs btn.numb (.takeNumb (some "")) }

/-- `insertTabWithImageDic:atIndex:MaxTag:`. It raises (`none`) at an index beyond the end, and
writes outside the array of dots at an index that this does not have. -/
def insertTabWithImageDic (dict : Option TabImageDic) (index maxTag : ℕ) (s : TabBar) :
    Option TabBar :=
  match dict with
  | none => some s
  | some dict =>
    if index > s.buttons.length ∧ maxTag ≤ index then some s
    else if !(dict.tabBarDefault && dict.tabBarSeleted) then some s
    else if index ≥ MAXNEWPOINT then none
    else
      let btn := s.newButton index
      let s := s.withNewViews index
      if index = s.buttons.length then
        some { s with buttons := s.buttons ++ [btn], subviews := s.subviews ++ [btn.view] }
      else if index > s.buttons.length then none
      else
        -- the buttons behind the new one keep their tags
        let s := { s with buttons := s.buttons.insertIdx index btn }
        let s :=
          match s.viewWithTag ((index : ℤ) + 100) with
          | some v => { s with subviews := s.subviews.filter (· ≠ v) }
          | none => s
        some { s with subviews := s.subviews ++ [btn.view] }

/-- `initWithFrame:buttonImages:ShowHeight:`. -/
def initWithFrame (imageArray : List TabImageDic) : Option TabBar :=
  imageArray.zipIdx.foldlM
    (fun s (dict, i) => s.insertTabWithImageDic (some dict) i imageArray.length) empty

/-- `selectTabAtIndex:`. -/
def selectTabAtIndex (index : ℤ) (s : TabBar) : Option TabBar :=
  if index < 0 then none
  else
    let buttons := s.buttons.map fun b => { b with selected := false }
    buttons[index.toNat]?.map fun btn =>
      { s with buttons := buttons.set index.toNat { btn with selected := true } }

/-- `tabBarButtonClicked:`, with the index the delegate is told. -/
def tabBarButtonClicked (btn : BarButton) (s : TabBar) : Option (TabBar × ℤ) :=
  (s.selectTabAtIndex (btn.tag - 100)).map fun s => (s, btn.tag - 100)

/-- `removeTabAtIndex:`. The array of dots is not touched. -/
def removeTabAtIndex (index : ℤ) (s : TabBar) : Option TabBar :=
  if index < 0 then none
  else
    s.buttons[index.toNat]?.map fun btn =>
      { s with
        subviews := s.subviews.filter (· ≠ btn.view)
        buttons := (s.buttons.eraseIdx index.toNat).map fun btn =>
          if btn.tag > index + 100 then { btn with tag := btn.tag - 1 } else btn }

/-- `setToNewPoint:IsHid:`. It reads outside the array at a negative index (`none`). -/
def setToNewPoint (which : ℤ) (toHid : Bool) (s : TabBar) : Option TabBar :=
  if which < MAXNEWPOINT then
    if which < 0 then none
    else
      match s.newPoint which.toNat with
      | some point => some { s with isHidden := Function.update s.isHidden point toHid }
      | none => some s
  else some s

/-- `setToNew:Numb:CleanAll:`. The count is unsigned, so no negative index is below it; a dot has
no subviews of its own. -/
def setToNew (which : ℤ) (numbStr : Option String) (s : TabBar) : TabBar :=
  if which < MAXNEWPOINT ∧ 0 ≤ which then
    match s.buttons[which.toNat]? with
    | none => s
    | some btn =>
      let numbTab := btn.subviews.findSome? fun
        | .numbTagView v => some v
        | .point _ => none
      match numbTab with
      | some v => { s with numbs := Function.update s.numbs v (.takeNumb numbStr) }
      | none => s
  else s

/-- What changes the buttons of a bar. -/
inductive Event where
  | insert (dict : Option TabImageDic) (index maxTag : ℕ)
  | remove (index : ℤ)
  deriving DecidableEq, Repr

/-- One event, `none` if it raises. -/
def step (s : TabBar) : Event → Option TabBar
  | .insert dict index maxTag => s.insertTabWithImageDic dict index maxTag
  | .remove index => s.removeTabAtIndex index

end TabBar

end RCSdk
