import Mathlib.Data.List.Basic
import Mathlib.Data.Rat.Floor
import RCSdk.Spec.AutoLayout

/-!
# Flow items and equal widths (`UIView+SDAutoLayout.m`)

A view that arranges views in rows, gives some an equal width, lays them out, and takes the height
that fits. The items are arranged anew only when the width has changed since. A cell of a table,
right views, and a layout of the view itself are left out.
-/

namespace RCSdk

open Grids

/-- `SDUIViewCategoryManager`, as far as flow items go. -/
structure SDUIViewCategoryManager (ι : Type) where
  flowItems : List ι := []
  verticalMargin : ℚ := 0
  horizontalMargin : ℚ := 0
  perRowItemsCount : ℕ := 0
  lastWidth : ℚ := 0
  flowItemWidth : ℚ := 0
  shouldShowAsAutoMarginViews : Bool := false
  horizontalEdgeInset : ℚ := 0
  verticalEdgeInset : ℚ := 0

/-- A view that lays out others. `contentSize` is that of a scroll view. A view inside has a layout
of its own when it is in `autoLayoutModelsArray`. -/
structure FlowView (ι : Type) where
  frame : Rect ℚ
  contentSize : Option (ℚ × ℚ)
  sd_categoryManager : SDUIViewCategoryManager ι
  sd_equalWidthSubviews : List ι
  sd_bottomViewsArray : List ι
  sd_bottomViewBottomMargin : ℚ
  autoLayoutModelsArray : List ι
  settings : ι → LayoutSettings ι
  views : ι → LayoutView ι

/-- What happens to the view: it is given items or views of equal width, it or a view inside is
given a frame, a label inside a text, and the system lays it out. -/
inductive FlowEvent (ι : Type) where
  | setupAutoWidthFlowItems (viewsArray : List ι) (perRowItemsCount : ℕ)
      (verticalMargin horizontalMargin vInset hInset : ℚ)
  | setupAutoMarginFlowItems (viewsArray : List ι) (perRowItemsCount : ℕ)
      (itemWidth verticalMargin vInset hInset : ℚ)
  | setSd_equalWidthSubviews (views : List ι)
  | setFrame (frame : Rect ℚ)
  | setSubviewFrame (view : ι) (frame : Rect ℚ)
  | setText (view : ι) (text : Option LabelText)
  | layoutSubviews

namespace FlowView

variable {ι : Type} [DecidableEq ι]

/-! ## Arguments of a layout -/

/-- `sd_layout`. -/
def sd_layout (view : ι) (c : FlowView ι) : FlowView ι :=
  if view ∈ c.autoLayoutModelsArray then c
  else
    { c with
      autoLayoutModelsArray := c.autoLayoutModelsArray ++ [view]
      settings := Function.update c.settings view { c.settings view with model := {} } }

def setModel (view : ι) (set : SDAutoLayoutModel ι → SDAutoLayoutModel ι) (c : FlowView ι) :
    FlowView ι :=
  { c with
    settings :=
      Function.update c.settings view { c.settings view with model := set (c.settings view).model } }

def leftSpaceToView (view : ι) (ref : RefView ι) (value : ℚ) : FlowView ι → FlowView ι :=
  setModel view fun m => { m with left := some ⟨.view ref, value⟩ }

def topSpaceToView (view : ι) (ref : RefView ι) (value : ℚ) : FlowView ι → FlowView ι :=
  setModel view fun m => { m with top := some ⟨.view ref, value⟩ }

def leftEqualToView (view : ι) (ref : RefView ι) : FlowView ι → FlowView ι :=
  setModel view fun m => { m with equalLeft := some ⟨ref, 0⟩ }

def topEqualToView (view : ι) (ref : RefView ι) : FlowView ι → FlowView ι :=
  setModel view fun m => { m with equalTop := some ⟨ref, 0⟩ }

def widthIs (view : ι) (value : ℚ) (c : FlowView ι) : FlowView ι :=
  setModel view (fun m => { m with width := some value })
    { c with
      views :=
        Function.update c.views view ((c.views view).setFixedWidth (c.settings view) value) }

/-! ## Setting up -/

/-- `setupAutoHeightWithBottomViewsArray:bottomMargin:`. -/
def setupAutoHeight (bottomViewsArray : List ι) (bottomMargin : ℚ) (c : FlowView ι) : FlowView ι :=
  { c with sd_bottomViewsArray := bottomViewsArray, sd_bottomViewBottomMargin := bottomMargin }

/-- `setupAutoWidthFlowItems:…`. The width the items were arranged for is forgotten. -/
def setupAutoWidthFlowItems (viewsArray : List ι) (perRowItemsCount : ℕ)
    (verticalMargin horizontalMargin vInset hInset : ℚ) (c : FlowView ι) : FlowView ι :=
  let c := { c with sd_categoryManager :=
    { c.sd_categoryManager with
      flowItems := viewsArray
      perRowItemsCount
      verticalMargin
      horizontalMargin
      verticalEdgeInset := vInset
      horizontalEdgeInset := hInset
      lastWidth := 0 } }
  match viewsArray.getLast? with
  | some bottomView => c.setupAutoHeight [bottomView] vInset
  | none => { c with sd_bottomViewsArray := [] }

/-- `setupAutoMarginFlowItems:…`. Nothing takes back that the margins follow from the width. -/
def setupAutoMarginFlowItems (viewsArray : List ι) (perRowItemsCount : ℕ)
    (itemWidth verticalMargin vInset hInset : ℚ) (c : FlowView ι) : FlowView ι :=
  setupAutoWidthFlowItems viewsArray perRowItemsCount verticalMargin 0 vInset hInset
    { c with sd_categoryManager :=
      { c.sd_categoryManager with
        shouldShowAsAutoMarginViews := true
        flowItemWidth := itemWidth } }

/-! ## Laying out -/

/-- The margin between the items of a row. -/
def horizontalMargin (m : SDUIViewCategoryManager ι) (width : ℚ) : ℚ :=
  if m.shouldShowAsAutoMarginViews then
    if m.perRowItemsCount > 1 then
      (width - m.horizontalEdgeInset * 2 - m.perRowItemsCount * m.flowItemWidth) /
        ((m.perRowItemsCount : ℚ) - 1)
    else 0
  else m.horizontalMargin

/-- The width of the items. -/
def itemWidth (m : SDUIViewCategoryManager ι) (width : ℚ) : ℚ :=
  if m.shouldShowAsAutoMarginViews then m.flowItemWidth
  else
    (width - m.horizontalEdgeInset * 2 - ((m.perRowItemsCount : ℚ) - 1) * horizontalMargin m width) /
      m.perRowItemsCount

/-- One item, the `idx`-th, with the view that was referred to last. -/
def arrangeItem (m : SDUIViewCategoryManager ι) (width : ℚ) (c : FlowView ι × RefView ι)
    (item : ι × ℕ) : FlowView ι × RefView ι :=
  let (view, idx) := item
  let (c, referencedView) := c
  let c := c.sd_layout view
  if idx < m.perRowItemsCount then
    if idx = 0 then
      -- the view that is arranged itself is referred to
      (((c.leftSpaceToView view referencedView m.horizontalEdgeInset).topSpaceToView view
        referencedView m.verticalEdgeInset).widthIs view (itemWidth m width), .sibling view)
    else
      (((c.leftSpaceToView view referencedView (horizontalMargin m width)).topEqualToView view
        referencedView).widthIs view (itemWidth m width), .sibling view)
  else
    -- the item above, whatever was referred to last
    let referencedView := LayoutView.Axis.refOf m.flowItems[idx - m.perRowItemsCount]?
    (((c.leftEqualToView view referencedView).widthIs view (itemWidth m width)).topSpaceToView view
      referencedView m.verticalMargin, referencedView)

/-- The items arranged for the width, if they were for another one. -/
def arrangeFlowItems (c : FlowView ι) : FlowView ι :=
  let m := c.sd_categoryManager
  if m.flowItems ≠ [] ∧ m.lastWidth ≠ c.frame.width then
    (m.flowItems.zipIdx.foldl (arrangeItem m c.frame.width)
      ({ c with sd_categoryManager := { m with lastWidth := c.frame.width } }, .superview)).1
  else c

/-- What the margins of the views of equal width come to. -/
def totalMargin (c : FlowView ι) : ℚ :=
  c.sd_equalWidthSubviews.foldl (fun totalMargin view =>
    let model := (c.settings view).model
    let left := match model.left with
      | some item => floatValue item.value
      | none => LayoutView.left_sd (c.views view).frame
    let right := match model.right with
      | some item => floatValue item.value
      | none => 0
    totalMargin + (left + right)) 0

def takeWidth (width : ℚ) (c : FlowView ι) (view : ι) : FlowView ι :=
  let v := (c.views view).setWidth_sd (c.settings view) width
  { c with views := Function.update c.views view (v.setFixedWidth (c.settings view) width) }

/-- Each view of equal width takes its share. -/
def shareWidth (c : FlowView ι) : FlowView ι :=
  let c := c.sd_equalWidthSubviews.foldl (fun c view => c.sd_layout view) c
  let averageWidth := (c.frame.width - c.totalMargin) / c.sd_equalWidthSubviews.length
  c.sd_equalWidthSubviews.foldl (takeWidth averageWidth) c

/-- The loop over the layouts. -/
def layoutModels (c : FlowView ι) : FlowView ι :=
  { c with views := RCSdk.layoutSubviews c.settings c.frame c.autoLayoutModelsArray c.views }

/-- The height that fits the bottom views. -/
def contentHeight (c : FlowView ι) : ℚ :=
  c.sd_bottomViewsArray.foldl
    (fun height view => max height (LayoutView.bottom_sd (c.views view).frame)) 0 +
      floatValue c.sd_bottomViewBottomMargin

/-- A scroll view takes the height for its content, another view for itself, unless the whole points
are the same, as `floorf` has them. -/
def fitHeight (c : FlowView ι) : FlowView ι :=
  if c.sd_bottomViewsArray = [] then c
  else
    match c.contentSize with
    | some (width, height) =>
      { c with contentSize := some (if width ≤ 0 then c.frame.width else width,
          if c.contentHeight > 0 then c.contentHeight else height) }
    | none =>
      if ⌊floatValue c.contentHeight⌋ ≠ ⌊floatValue c.frame.height⌋ then
        -- a frame of negative height is turned over, and the height is held on to as a `float`
        { c with frame :=
          { c.frame with
            y := c.frame.y + min c.contentHeight 0
            height := floatValue |c.contentHeight| } }
      else c

/-- `sd_layoutSubviewsHandle`. -/
def sd_layoutSubviewsHandle (c : FlowView ι) : FlowView ι :=
  let c := if c.sd_equalWidthSubviews = [] then c else c.shareWidth
  let c := c.arrangeFlowItems
  let c := c.layoutModels
  c.fitHeight

/-- `sd_setText:`. The label of a greatest width takes the size of its text, which is left to
`setSubviewFrame`. -/
def setText (view : ι) (text : Option LabelText) (c : FlowView ι) : FlowView ι :=
  let s := { c.settings view with label := some text }
  let v := c.views view
  let v := if s.sd_maxWidth.isNone ∧ s.autoHeightRatioValue.isSome then
      (v.setWidth 0).setHeight 0 else v
  { c with
    settings := Function.update c.settings view s
    views := Function.update c.views view v }

/-- What an event does. -/
def step (c : FlowView ι) : FlowEvent ι → Option (FlowView ι)
  | .setupAutoWidthFlowItems viewsArray perRowItemsCount verticalMargin horizontalMargin vInset
      hInset =>
    some (c.setupAutoWidthFlowItems viewsArray perRowItemsCount verticalMargin horizontalMargin
      vInset hInset)
  | .setupAutoMarginFlowItems viewsArray perRowItemsCount itemWidth verticalMargin vInset hInset =>
    some (c.setupAutoMarginFlowItems viewsArray perRowItemsCount itemWidth verticalMargin vInset
      hInset)
  | .setSd_equalWidthSubviews views => some { c with sd_equalWidthSubviews := views }
  | .setFrame frame => some { c with frame := frame }
  | .setSubviewFrame view frame =>
    some { c with views := Function.update c.views view { c.views view with frame := frame } }
  | .setText view text => if (c.settings view).label.isSome then some (c.setText view text) else none
  | .layoutSubviews => some c.sd_layoutSubviewsHandle

end FlowView

end RCSdk
