import Mathlib.Algebra.Order.Field.Rat
import Mathlib.Algebra.Order.Group.Unbundled.Abs
import RCSdk.Lib.Floats
import RCSdk.Lib.Grids
import RCSdk.Lib.Sweep

/-!
# Frames set from margins (`UIView+SDAutoLayout.m`)

A view lays out the views inside it one after the other, in the order they were given a layout.
Each is set from the frames the others have at that moment. Coordinates are exact, but the numbers a
layout keeps are read as `float`s; a label is what its text measures. A view with content of its own
that sets its size, a label with attributed text, and the cached frames of a table are left out.
-/

namespace RCSdk

open Grids

variable {ι : Type}

/-- `floatValue`: the number in single precision. One beyond the greatest `float` is not told from
the others. -/
def floatValue (value : ℚ) : ℚ := Floats.round 24 (-149) value

@[simp] theorem floatValue_zero : floatValue 0 = 0 := Floats.round_zero 24 (-149)

@[simp] theorem floatValue_floatValue (value : ℚ) :
    floatValue (floatValue value) = floatValue value :=
  Floats.round_round 24 (-149) (by decide) value

theorem floatValue_nonneg {value : ℚ} (h : 0 ≤ value) : 0 ≤ floatValue value :=
  Floats.round_nonneg 24 (-149) h

theorem floatValue_pos {value : ℚ} (h : (2 : ℚ) ^ (-149 : ℤ) ≤ value) : 0 < floatValue value :=
  Floats.round_pos 24 (-149) (by decide) h

theorem pos_of_floatValue_pos {value : ℚ} (h : 0 < floatValue value) : 0 < value :=
  not_le.1 fun hle => h.not_ge (Floats.round_nonpos 24 (-149) hle)

/-- What reading a number as a `float` costs. -/
theorem abs_floatValue_sub_le (value : ℚ) :
    |floatValue value - value| ≤ |value| / 2 ^ 24 + 1 / 2 ^ 150 := by
  refine (Floats.abs_round_sub_le 24 (-149) value).trans (max_le ?_ ?_)
  · exact le_add_of_nonneg_right (by norm_num)
  · have hpos : 0 ≤ |value| / 2 ^ 24 := by positivity
    refine le_trans ?_ (le_add_of_nonneg_left hpos)
    norm_num

/-- A view that a layout names: none, the superview, or a view beside the one laid out. -/
inductive RefView (ι : Type) where
  | none
  | superview
  | sibling (view : ι)
  deriving DecidableEq, Repr

def RefView.isSuperview : RefView ι → Bool
  | .superview => true
  | _ => false

/-- The argument of `leftSpaceToView` and its like: a view, or an array of views. -/
inductive ViewOrViewsArray (ι : Type) where
  | view (refView : RefView ι)
  | viewsArray (refViewsArray : List ι)
  deriving DecidableEq, Repr

/-- An item with a value. -/
structure MarginItem (ι : Type) where
  ref : ViewOrViewsArray ι
  value : ℚ
  deriving Repr

/-- An item with an offset. -/
structure EqualItem (ι : Type) where
  refView : RefView ι
  offset : ℚ
  deriving Repr

/-- An item of a ratio. -/
structure RatioItem (ι : Type) where
  refView : RefView ι
  value : ℚ
  deriving Repr

/-- `SDAutoLayoutModel`. -/
structure SDAutoLayoutModel (ι : Type) where
  width : Option ℚ := none
  height : Option ℚ := none
  left : Option (MarginItem ι) := none
  top : Option (MarginItem ι) := none
  right : Option (MarginItem ι) := none
  bottom : Option (MarginItem ι) := none
  centerX : Option ℚ := none
  centerY : Option ℚ := none
  maxWidth : Option ℚ := none
  maxHeight : Option ℚ := none
  minWidth : Option ℚ := none
  minHeight : Option ℚ := none
  ratio_width : Option (RatioItem ι) := none
  ratio_height : Option (RatioItem ι) := none
  equalLeft : Option (EqualItem ι) := none
  equalRight : Option (EqualItem ι) := none
  equalTop : Option (EqualItem ι) := none
  equalBottom : Option (EqualItem ι) := none
  equalCenterX : Option (EqualItem ι) := none
  equalCenterY : Option (EqualItem ι) := none
  widthEqualHeight : Bool := false
  heightEqualWidth : Bool := false

/-- The text of a label: its width on one line, and its height at a width. -/
structure LabelText where
  width : ℚ
  height : ℚ → ℚ
  width_nonneg : 0 ≤ width
  height_nonneg : ∀ width, 0 ≤ height width

/-- What does not change while views are laid out. `label` is `none` for a view that is no label,
and holds no text for a label without any. -/
structure LayoutSettings (ι : Type) where
  model : SDAutoLayoutModel ι
  autoHeightRatioValue : Option ℚ := none
  autoWidthRatioValue : Option ℚ := none
  sd_maxWidth : Option ℚ := none
  label : Option (Option LabelText) := none
  sd_isClosingAutoLayout : Bool := false

/-- A view: its frame, the sizes it holds on to, and the views that were last picked from the
arrays of its left and its top item. -/
structure LayoutView (ι : Type) where
  frame : Rect ℚ
  fixedWidth : Option ℚ
  fixedHeight : Option ℚ
  leftRefView : Option ι
  topRefView : Option ι

namespace LayoutView

/-! ## Edges (`UIView (SDChangeFrame)`) -/

def left_sd (f : Rect ℚ) : ℚ := f.x
def top_sd (f : Rect ℚ) : ℚ := f.y
def right_sd (f : Rect ℚ) : ℚ := f.x + f.width
def bottom_sd (f : Rect ℚ) : ℚ := f.y + f.height
def centerX_sd (f : Rect ℚ) : ℚ := f.x + f.width * (1 / 2)
def centerY_sd (f : Rect ℚ) : ℚ := f.y + f.height * (1 / 2)
def width_sd (f : Rect ℚ) : ℚ := f.width
def height_sd (f : Rect ℚ) : ℚ := f.height

def setLeft_sd (v : LayoutView ι) (x : ℚ) : LayoutView ι :=
  { v with frame := { v.frame with x := x } }

def setTop_sd (v : LayoutView ι) (y : ℚ) : LayoutView ι :=
  { v with frame := { v.frame with y := y } }

/-- `setWidth:`. A frame given a negative size becomes the standardized one: it covers the same
points. -/
def setWidth (v : LayoutView ι) (width : ℚ) : LayoutView ι :=
  { v with frame := { v.frame with x := v.frame.x + min width 0, width := |width| } }

/-- `setHeight:`. -/
def setHeight (v : LayoutView ι) (height : ℚ) : LayoutView ι :=
  { v with frame := { v.frame with y := v.frame.y + min height 0, height := |height| } }

variable (s : LayoutSettings ι)

/-- `setWidth_sd:`. A view whose height equals its width sets that too, and one whose width equals
its height takes no other width. (With both, the setters would call each other without end.) -/
def setWidth_sd (v : LayoutView ι) (width : ℚ) : LayoutView ι :=
  if s.model.widthEqualHeight ∧ width ≠ v.frame.height then v
  else if s.model.heightEqualWidth then (v.setWidth width).setHeight width
  else v.setWidth width

/-- `setHeight_sd:`. -/
def setHeight_sd (v : LayoutView ι) (height : ℚ) : LayoutView ι :=
  if s.model.heightEqualWidth ∧ height ≠ v.frame.width then v
  else if s.model.widthEqualHeight then (v.setHeight height).setWidth height
  else v.setHeight height

/-- `setFixedWidth:`, with a number. -/
def setFixedWidth (v : LayoutView ι) (width : ℚ) : LayoutView ι :=
  { setWidth_sd s v (floatValue width) with fixedWidth := some width }

/-- `setFixedHeight:`, with a number. -/
def setFixedHeight (v : LayoutView ι) (height : ℚ) : LayoutView ι :=
  { setHeight_sd s v (floatValue height) with fixedHeight := some height }

/-! ## One axis -/

/-- **The two axes of a view**, which the source lays out in the same way. -/
structure Axis (ι : Type) where
  near : Rect ℚ → ℚ
  size : Rect ℚ → ℚ
  fixed : LayoutView ι → Option ℚ
  setNear : LayoutView ι → ℚ → LayoutView ι
  setSize : LayoutSettings ι → LayoutView ι → ℚ → LayoutView ι
  refView : LayoutView ι → Option ι
  setRefView : LayoutView ι → Option ι → LayoutView ι
  /-- What counts as the near edge of the superview while a near edge equal to it changes the
  size. For the left edge the test for the superview compares the view laid out and never
  succeeds. -/
  inside : Rect ℚ → ℚ

def horizontal : Axis ι where
  near := left_sd
  size := width_sd
  fixed := LayoutView.fixedWidth
  setNear := setLeft_sd
  setSize := setWidth_sd
  refView := LayoutView.leftRefView
  setRefView v ref := { v with leftRefView := ref }
  inside := left_sd

def vertical : Axis ι where
  near := top_sd
  size := height_sd
  fixed := LayoutView.fixedHeight
  setNear := setTop_sd
  setSize := setHeight_sd
  refView := LayoutView.topRefView
  setRefView v ref := { v with topRefView := ref }
  inside _ := 0

namespace Axis

variable (a : Axis ι)

/-- The far edge: `right_sd`, `bottom_sd`. -/
def far (f : Rect ℚ) : ℚ := a.near f + a.size f

/-- The center: `centerX_sd`, `centerY_sd`. -/
def center (f : Rect ℚ) : ℚ := a.near f + a.size f * (1 / 2)

/-- `setRight_sd:`, `setBottom_sd:`. -/
def setFar (v : LayoutView ι) (edge : ℚ) : LayoutView ι := a.setNear v (edge - a.size v.frame)

/-- `setCenterX_sd:`, `setCenterY_sd:`. -/
def setCenter (v : LayoutView ι) (center : ℚ) : LayoutView ι :=
  a.setNear v (center - a.size v.frame * (1 / 2))

/-- A view that does not hold on to its size takes another one. -/
def adjust (v : LayoutView ι) (size : ℚ) : LayoutView ι :=
  if (a.fixed v).isNone then a.setSize s v size else v

/-- The views of an array with the edge that lies farthest, if any lies beyond zero. -/
def farthest (edge : ι → ℚ) (refViewsArray : List ι) (refView : Option ι) : Option ι :=
  (refViewsArray.foldl (fun (last : Option ι × ℚ) ref =>
    if edge ref > last.2 then (some ref, edge ref) else last) (refView, 0)).1

/-- The view an array stands for, as a reference. -/
def refOf : Option ι → RefView ι
  | none => .none
  | some view => .sibling view

/-- The frame of a view that is referred to, while `v` is laid out. -/
abbrev Reading (ι : Type) := LayoutView ι → RefView ι → Rect ℚ

variable (read : Reading ι)

/-- Behind a view, by a margin. -/
def layoutBehind (v : LayoutView ι) (ref : RefView ι) (value : ℚ) : LayoutView ι :=
  a.setNear (a.adjust s v (a.far v.frame - a.far (read v ref) - floatValue value))
    (a.far (read v ref) + floatValue value)

/-- The near edge or the center: `layoutLeftWithView:model:`, `layoutTopWithView:model:`. -/
def layoutNear (item : Option (MarginItem ι)) (equal equalCenter : Option (EqualItem ι))
    (center : Option ℚ) (v : LayoutView ι) : LayoutView ι :=
  match item, equal, equalCenter, center with
  | some ⟨.view .superview, value⟩, _, _, _ =>
    a.setNear (a.adjust s v (a.far v.frame - floatValue value)) (floatValue value)
  | some ⟨.view ref, value⟩, _, _, _ => a.layoutBehind s read v ref value
  | some ⟨.viewsArray refViewsArray, value⟩, _, _, _ =>
    let v := a.setRefView v
      (farthest (fun ref => a.far (read v (.sibling ref))) refViewsArray (a.refView v))
    a.layoutBehind s read v (refOf (a.refView v)) value
  | none, some item, _, _ =>
    if item.refView.isSuperview then
      a.setNear (a.adjust s v (a.far v.frame - (a.inside (read v item.refView) + item.offset)))
        (0 + item.offset)
    else
      a.setNear (a.adjust s v (a.far v.frame - (a.near (read v item.refView) + item.offset)))
        (a.near (read v item.refView) + item.offset)
  | none, none, some item, _ =>
    if item.refView.isSuperview then
      a.setCenter v (a.size (read v item.refView) * (1 / 2) + item.offset)
    else a.setCenter v (a.center (read v item.refView) + item.offset)
  | none, none, none, some value => a.setCenter v (floatValue value)
  | none, none, none, none => v

/-- The far edge: `layoutRightWithView:model:`, `layoutBottomWithView:model:`. An array of views
names none. -/
def layoutFar (item : Option (MarginItem ι)) (equal : Option (EqualItem ι)) (v : LayoutView ι) :
    LayoutView ι :=
  match item, equal with
  | some ⟨.view .superview, value⟩, _ =>
    a.setFar (a.adjust s v (a.size (read v .superview) - a.near v.frame - floatValue value))
      (a.size (read v .superview) - floatValue value)
  | some ⟨.view ref, value⟩, _ =>
    a.setFar (a.adjust s v (a.near (read v ref) - a.near v.frame - floatValue value))
      (a.near (read v ref) - floatValue value)
  | some ⟨.viewsArray _, value⟩, _ =>
    a.setFar (a.adjust s v (a.near (read v .none) - a.near v.frame - floatValue value))
      (a.near (read v .none) - floatValue value)
  | none, some item =>
    if item.refView.isSuperview then
      a.setFar (a.adjust s v (a.size (read v item.refView) - a.near v.frame + item.offset))
        (a.size (read v item.refView) + item.offset)
    else
      a.setFar (a.adjust s v (a.far (read v item.refView) - a.near v.frame + item.offset))
        (a.far (read v item.refView) + item.offset)
  | none, none => v

end Axis

/-! ## One view -/

open Axis

variable (read : Reading ι)

/-- `layoutAutoHeightWidthView:model:`. -/
def layoutAutoHeight (v : LayoutView ι) : LayoutView ι :=
  if floatValue (s.autoHeightRatioValue.getD 0) > 0 then
    setHeight_sd s v (v.frame.width * floatValue (s.autoHeightRatioValue.getD 0))
  else
    match s.label with
    | some (some text) => setHeight_sd s v (text.height v.frame.width + 1 / 10)
    | _ => setHeight_sd s v 0

/-- `layoutAutoWidthWidthView:model:`. -/
def layoutAutoWidth (v : LayoutView ι) : LayoutView ι :=
  match s.label with
  | none => v
  | some none => (v.setWidth 0).setHeight 0
  | some (some text) =>
    let width := floatValue (s.sd_maxWidth.getD 0)
    let textWidth := if width > 0 ∧ text.width > width then width else text.width
    setWidth_sd s v (textWidth + 1 / 10)

/-- `layoutWidthWithView:model:`. -/
def layoutWidth (v : LayoutView ι) : LayoutView ι :=
  match s.model.width, s.model.ratio_width with
  | some value, _ =>
    let v := setWidth_sd s v (floatValue value)
    setFixedWidth s v v.frame.width
  | none, some ratio =>
    let v := setWidth_sd s v (width_sd (read v ratio.refView) * floatValue ratio.value)
    setFixedWidth s v v.frame.width
  | none, none => v

/-- `layoutHeightWithView:model:`. -/
def layoutHeight (v : LayoutView ι) : LayoutView ι :=
  match s.model.height, s.model.ratio_height with
  | some value, _ =>
    let v := setHeight_sd s v (floatValue value)
    setFixedHeight s v v.frame.height
  | none, some ratio =>
    let v := setHeight_sd s v (floatValue ratio.value * height_sd (read v ratio.refView))
    setFixedHeight s v v.frame.height
  | none, none => v

/-- `layoutLeftWithView:model:`. -/
def layoutLeft (v : LayoutView ι) : LayoutView ι :=
  horizontal.layoutNear s read s.model.left s.model.equalLeft s.model.equalCenterX s.model.centerX v

/-- `layoutRightWithView:model:`. -/
def layoutRight (v : LayoutView ι) : LayoutView ι :=
  horizontal.layoutFar s read s.model.right s.model.equalRight v

/-- `layoutTopWithView:model:`. -/
def layoutTop (v : LayoutView ι) : LayoutView ι :=
  vertical.layoutNear s read s.model.top s.model.equalTop s.model.equalCenterY s.model.centerY v

/-- `layoutBottomWithView:model:`. -/
def layoutBottom (v : LayoutView ι) : LayoutView ι :=
  let v := vertical.layoutFar s read s.model.bottom s.model.equalBottom v
  if s.model.widthEqualHeight && v.fixedHeight.isNone then layoutRight s read v else v

/-- A limit read, `size` where there is none. -/
def limit (value : Option ℚ) (size : ℚ) : ℚ := (value.map floatValue).getD size

@[simp] theorem limit_none (size : ℚ) : limit none size = size := rfl

/-- The greatest and least sizes. -/
def limitWidth (v : LayoutView ι) : LayoutView ι :=
  let v := if v.frame.width > limit s.model.maxWidth v.frame.width then
    setWidth_sd s v (limit s.model.maxWidth v.frame.width) else v
  if v.frame.width < limit s.model.minWidth v.frame.width then
    setWidth_sd s v (limit s.model.minWidth v.frame.width) else v

def limitHeight (v : LayoutView ι) : LayoutView ι :=
  let v := if v.frame.height > limit s.model.maxHeight v.frame.height then
    setHeight_sd s v (limit s.model.maxHeight v.frame.height) else v
  if v.frame.height < limit s.model.minHeight v.frame.height then
    setHeight_sd s v (limit s.model.minHeight v.frame.height) else v

/-- `sd_resizeWithModel:`. The tests for `rightSpaceToView` and the like ask for a block that is
made when it is asked for, so they always succeed. -/
def resize (v : LayoutView ι) : LayoutView ι :=
  if s.sd_isClosingAutoLayout then v
  else
    let v := if s.sd_maxWidth.isSome then
        let v := layoutAutoWidth s v
        setFixedWidth s v v.frame.width
      else v
    let v := layoutWidth s read v
    let v := layoutHeight s read v
    let v := layoutLeft s read v
    let v := layoutRight s read v
    let v := if s.autoHeightRatioValue.isSome ∧ v.frame.width > 0 then
        let v := layoutAutoHeight s v
        setFixedHeight s v v.frame.height
      else v
    let v := match s.autoWidthRatioValue with
      | some ratio => setFixedWidth s v (v.frame.height * floatValue ratio)
      | none => v
    let v := layoutTop s read v
    let v := layoutBottom s read v
    let v := if s.sd_maxWidth.isSome then layoutAutoWidth s v else v
    let v := limitWidth s v
    let v := if s.autoHeightRatioValue.isSome ∧ v.frame.width > 0 then layoutAutoHeight s v else v
    let v := limitHeight s v
    let v := if s.model.widthEqualHeight then setWidth_sd s v v.frame.height else v
    if s.model.heightEqualWidth then setHeight_sd s v v.frame.width else v

end LayoutView

/-! ## All views -/

open LayoutView Axis

variable [DecidableEq ι]

/-- The frames as they are while `v` is laid out, in a superview with a frame. -/
def reading (superview : Rect ℚ) (views : ι → LayoutView ι) (v : ι) : Reading ι := fun self ref =>
  match ref with
  | .none => ⟨0, 0, 0, 0⟩
  | .superview => superview
  | .sibling u => if u = v then self.frame else (views u).frame

/-- One view laid out among the others. -/
def layoutView (settings : ι → LayoutSettings ι) (superview : Rect ℚ) (views : ι → LayoutView ι)
    (v : ι) : LayoutView ι :=
  resize (settings v) (reading superview views v) (views v)

/-- The loop over `autoLayoutModelsArray` in `sd_layoutSubviewsHandle`. -/
def layoutSubviews (settings : ι → LayoutSettings ι) (superview : Rect ℚ)
    (autoLayoutModelsArray : List ι) (views : ι → LayoutView ι) : ι → LayoutView ι :=
  Sweep.pass (layoutView settings superview) autoLayoutModelsArray views

end RCSdk
