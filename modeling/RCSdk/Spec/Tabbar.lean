import RCSdk.Spec.TabBarItems

/-!
# The tab controller (`RCTabbarController.m`)

The controllers and the buttons of the bar are two arrays, with one index for both. The index is
unsigned, the one before it is kept as a signed number, and both start at -1. An index outside an
array raises, which is `none`.
-/

namespace RCSdk

/-- A view controller, by identity. -/
abbrev ControllerRef := ℕ

/-- `RCTabbarController`. `shown` is the controller whose view is in its own; `stack` says of a
navigation controller which controllers it holds. -/
structure RCTabbarController where
  viewControllers : List ControllerRef
  lastIndex : Int64
  selectIndex : UInt64
  _myTabBar : TabBar
  shown : Option ControllerRef
  stack : ControllerRef → Option (List ControllerRef)

namespace RCTabbarController

/-- `initWithViewControllers:BarImage:BarBgImage:`. It returns `nil` for arrays that differ in
length, and raises where the bar does. -/
def initWithViewControllers (vcs : List ControllerRef) (bArr : List TabImageDic)
    (stack : ControllerRef → Option (List ControllerRef)) : Option (Option RCTabbarController) :=
  if vcs.length = bArr.length then
    (TabBar.initWithFrame bArr).map fun bar => some
      { viewControllers := vcs
        lastIndex := 0
        selectIndex := -1
        _myTabBar := bar
        shown := none
        stack := stack }
  else some none

/-- A navigation controller that is shown already goes back to its first controller. -/
def popToRootViewController (navVC : ControllerRef) (s : RCTabbarController) : RCTabbarController :=
  match s.stack navVC with
  | none => s
  | some pages =>
    if pages.length > 1 then
      { s with stack := Function.update s.stack navVC (some (pages.take 1)) }
    else s

/-- `displayViewAtIndex:`. -/
def displayViewAtIndex (index : UInt64) (s : RCTabbarController) : Option RCTabbarController :=
  let s :=
    if s.selectIndex = index then s
    else { s with lastIndex := s.selectIndex.toInt64, selectIndex := index }
  s.viewControllers[s.selectIndex.toNat]?.map fun navVC =>
    if s.shown = some navVC then s.popToRootViewController navVC
    else { s with shown := some navVC }

/-- `tabBar:didSelectIndex:`. -/
def didSelectIndex (index : Int64) (s : RCTabbarController) : Option RCTabbarController := do
  let s ← s.displayViewAtIndex index.toUInt64
  let bar ← s._myTabBar.selectTabAtIndex s.selectIndex.toInt64.toInt
  some { s with _myTabBar := bar }

/-- `setSelectIndex:`. -/
def setSelectIndex (index : UInt64) (s : RCTabbarController) : Option RCTabbarController :=
  s.didSelectIndex index.toInt64

/-- `viewDidLoad`. -/
def viewDidLoad (s : RCTabbarController) : Option RCTabbarController := s.setSelectIndex 0

/-- `tabBarButtonClicked:` of the bar, sent by this button, with the controller as its delegate. -/
def tabBarButtonClicked (btn : BarButton) (s : RCTabbarController) : Option RCTabbarController := do
  let (bar, index) ← s._myTabBar.tabBarButtonClicked btn
  { s with _myTabBar := bar }.didSelectIndex (Int64.ofInt index)

/-- `selectedNowController`. -/
def selectedNowController (s : RCTabbarController) : Option (Option ControllerRef) :=
  s.viewControllers[s.selectIndex.toNat]?.map fun vc =>
    match s.stack vc with
    | some pages => pages.getLast?
    | none => some vc

/-- `backLastIndex`. The signed index is compared as an unsigned one. -/
def backLastIndex (s : RCTabbarController) : Option RCTabbarController :=
  if s.lastIndex.toUInt64 = s.selectIndex then some s else s.setSelectIndex s.lastIndex.toUInt64

/-- `removeViewControllerAtIndex:`. Neither index is changed. -/
def removeViewControllerAtIndex (index : UInt64) (s : RCTabbarController) :
    Option RCTabbarController :=
  match s.viewControllers[index.toNat]? with
  | none => some s
  | some nav => do
    let shown := if s.shown = some nav then none else s.shown
    let bar ← s._myTabBar.removeTabAtIndex index.toInt64.toInt
    some { s with
      shown
      viewControllers := s.viewControllers.eraseIdx index.toNat
      _myTabBar := bar }

/-- What happens to a tab controller. -/
inductive Event where
  | tabBarButtonClicked (place : ℕ)
  | setSelectIndex (index : UInt64)
  | backLastIndex
  | removeViewControllerAtIndex (index : UInt64)
  | selectedNowController

/-- One event, `none` if it raises. A tab that is not there cannot be tapped. -/
def step (s : RCTabbarController) : Event → Option RCTabbarController
  | .tabBarButtonClicked place =>
    match s._myTabBar.buttons[place]? with
    | some btn => s.tabBarButtonClicked btn
    | none => some s
  | .setSelectIndex index => s.setSelectIndex index
  | .backLastIndex => s.backLastIndex
  | .removeViewControllerAtIndex index => s.removeViewControllerAtIndex index
  | .selectedNowController => s.selectedNowController.map fun _ => s

end RCTabbarController

end RCSdk
