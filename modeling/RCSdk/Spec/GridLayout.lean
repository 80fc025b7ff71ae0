import RCSdk.Lib.Grids
import Mathlib.Data.Rat.Defs
import Mathlib.Algebra.Order.Ring.Unbundled.Rat

/-!
# The buttons of two pop-ups (`PaymentSelectView.m`, `ShareBottomPopView.m`)

The frames that `createContentView` of each computes, from the size of the screen and what is to be
shown. Lengths are exact. A division by zero has no result, and an index outside the bounds of an
array raises: both are `none`.
-/

namespace RCSdk

open Grids

/-- A `CGSize`. -/
structure CGSize where
  width : ℚ
  height : ℚ
  deriving DecidableEq, Repr

namespace PaymentSelectView

def BaseHeight : ℚ := 55

def ItemHeight : ℚ := 45

/-- A `SelectGroupView`, as far as the pop-up sets it up. -/
structure SelectGroupView where
  frame : Rect ℚ
  title : Option String
  tag : ℤ
  selected : Bool
  deriving DecidableEq

/-- What `initWithOriginY:SelectArr:selectIndex:title:rowNum:hasCancelBtn:` is given, on a screen.
An object of `_selectArr` that is not a string is `none`. -/
structure Args where
  SCREEN_WIDTH : ℚ
  SCREEN_HEIGHT : ℚ
  _selectArr : List (Option String)
  _selectIndex : ℤ
  _title : Option String
  _rowNum : ℕ
  _hasCancelBtn : Bool

/-- The views `createContentView` leaves, with their frames. -/
structure Views where
  contentView : Rect ℚ
  cancelBgView : Option (Rect ℚ)
  cancelBtn : Option (Rect ℚ)
  titleLabel : Rect ℚ
  selectGroupView : Rect ℚ
  contentSize : CGSize
  _selectGroupArr : List SelectGroupView
  contentBgView : Rect ℚ
  deriving DecidableEq

namespace Args

variable (v : Args)

def _itemWidth : ℚ := (v.SCREEN_WIDTH - 57 - 15) / v._rowNum

/-- The rows that the height is made for. -/
def «section» : ℕ := (v._selectArr.length % v._rowNum + v._selectArr.length) / v._rowNum

def groupViewHeight : ℚ := ItemHeight * v.section + 18 * v.section

def selectGroupViewHeight : ℚ :=
  if v.groupViewHeight > v.SCREEN_HEIGHT / 2 then v.SCREEN_HEIGHT / 2 else v.groupViewHeight

def ContentViewHeight : ℚ :=
  if v._hasCancelBtn then BaseHeight + v.selectGroupViewHeight + ItemHeight + 10
  else BaseHeight + v.selectGroupViewHeight

/-- One pass of the loop over `_selectArr`. -/
def selectSingleView (title : Option String) (i : ℕ) : SelectGroupView where
  frame :=
    { x := v._itemWidth * (i % v._rowNum : ℕ) + 15 * (i % v._rowNum : ℕ)
      y := ItemHeight * (i / v._rowNum : ℕ) + 18 * (i / v._rowNum : ℕ)
      width := v._itemWidth
      height := ItemHeight }
  title
  tag := 100 + i
  selected := i = v._selectIndex

/-- `createContentView`. -/
def createContentView : Option Views :=
  if v._rowNum = 0 then none
  else
    let originY := if v._title = none ∨ v._title = some "" then 35 else 55
    let selectGroupView : Rect ℚ := ⟨29, originY, v.SCREEN_WIDTH - 56, v.selectGroupViewHeight⟩
    some
      { contentView := ⟨0, v.SCREEN_HEIGHT, v.SCREEN_WIDTH, v.ContentViewHeight⟩
        cancelBgView :=
          if v._hasCancelBtn then
            some ⟨0, v.ContentViewHeight - ItemHeight - 10, v.SCREEN_WIDTH, ItemHeight + 10⟩
          else none
        cancelBtn := if v._hasCancelBtn then some ⟨0, 10, v.SCREEN_WIDTH, ItemHeight⟩ else none
        titleLabel := ⟨0, 0, v.SCREEN_WIDTH, 55⟩
        selectGroupView
        contentSize := ⟨selectGroupView.width, v.groupViewHeight⟩
        _selectGroupArr := v._selectArr.mapIdx fun i title => v.selectSingleView title i
        contentBgView := ⟨0, 0, v.SCREEN_WIDTH, v.ContentViewHeight⟩ }

end Args

end PaymentSelectView

namespace ShareBottomPopView

def ItemHeight : ℚ := 45

def dis_LEFTSCREEN : ℚ := 15

def btn1Height : ℚ := 100

def rowNum : ℕ := 4

def mid_distance : ℚ := 10

/-- An `UpImgDownTextBtn`, as far as the pop-up sets it up. -/
structure UpImgDownTextBtn where
  frame : Rect ℚ
  image : String
  text : String
  tag : ℤ
  deriving DecidableEq

/-- What `initTextArray:imageArray:clickBtnAction:` is given, on a screen. -/
structure Args where
  SCREEN_WIDTH : ℚ
  SCREEN_HEIGHT : ℚ
  _textArray : List String
  _imageArray : List String

/-- The views `createContentView` leaves, with their frames. -/
structure Views where
  contentView : Rect ℚ
  cancelBtn : Rect ℚ
  selectGroupView : Rect ℚ
  buttons : List UpImgDownTextBtn
  deriving DecidableEq

namespace Args

variable (v : Args)

def btn1Width : ℚ :=
  (v.SCREEN_WIDTH - dis_LEFTSCREEN * 2 - mid_distance * (rowNum - 1 : ℕ)) / 4

def sectionNum : ℕ := (v._textArray.length % 4 + v._textArray.length) / rowNum

def selectGroupViewHeight : ℚ := btn1Height * v.sectionNum

def ContentViewHeight : ℚ := v.selectGroupViewHeight + ItemHeight

/-- The frame of the `i`-th button. -/
def buttonFrame (i : ℕ) : Rect ℚ where
  x := dis_LEFTSCREEN + v.btn1Width * i + mid_distance * i
  y := 0
  width := v.btn1Width
  height := btn1Height

/-- The loop over `_textArray`, from its index `i` on. -/
def buttonsFrom (i : ℕ) : List String → Option (List UpImgDownTextBtn)
  | [] => some []
  | text :: texts => do
    let image ← v._imageArray[i]?
    let btn : UpImgDownTextBtn := { frame := v.buttonFrame i, image, text, tag := 100 + i }
    let rest ← buttonsFrom (i + 1) texts
    some (btn :: rest)

/-- `createContentView`. -/
def createContentView : Option Views := do
  let buttons ← v.buttonsFrom 0 v._textArray
  some
    { contentView := ⟨0, v.SCREEN_HEIGHT, v.SCREEN_WIDTH, v.ContentViewHeight⟩
      cancelBtn := ⟨0, v.selectGroupViewHeight, v.SCREEN_WIDTH, ItemHeight⟩
      selectGroupView := ⟨0, 0, v.SCREEN_WIDTH, v.selectGroupViewHeight⟩
      buttons }

end Args

end ShareBottomPopView

end RCSdk
