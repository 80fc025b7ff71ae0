import Mathlib.Algebra.Order.Ring.Unbundled.Rat
import Mathlib.Data.Rat.Defs
import RCSdk.Lib.Grids

/-!
# A pop-up that makes way for the keyboard (`PopBaseView.m`)

The layout of the box in the middle of the pop-up, and what the pop-up does when the keyboard
changes. Lengths are exact, and an animation is its end. The conversion of a frame to the
coordinates of the key window is a parameter.
-/

namespace RCSdk

open Grids

/-- `CGRectGetMaxY`, which takes a negative height upwards. -/
def CGRectGetMaxY (rect : Rect ℚ) : ℚ := max rect.y (rect.y + rect.height)

/-- `CGRectGetMaxX`. -/
def CGRectGetMaxX (rect : Rect ℚ) : ℚ := max rect.x (rect.x + rect.width)

inductive KPPopType where
  | KPPopTypeNormal
  | KPPopTypeExplain
  deriving DecidableEq, Repr

/-- The pop-up, with the frames of what is in it. -/
structure PopBaseView where
  frame : Rect ℚ
  popType : KPPopType
  _cancelTitle : Option String
  BottomBtnHeight : ℚ
  _centerView : Rect ℚ
  topView : Option (Rect ℚ)
  contentView : Option (Rect ℚ)
  _bottomLine : Rect ℚ
  _bottomMidLine : Rect ℚ
  _cancelBtn : Rect ℚ
  _okBtn : Rect ℚ
  bottomMidLineHidden : Bool
  cancelBtnHidden : Bool
  deriving DecidableEq

namespace PopBaseView

def dis_LEFTSCREEN : ℚ := 15

def CGRectZero : Rect ℚ := ⟨0, 0, 0, 0⟩

/-- `initWithCancelBtnTitle:okBtnTitle:`. -/
def initWithCancelBtnTitle (SCREEN_WIDTH SCREEN_HEIGHT : ℚ) (cancelBtnTitle : Option String)
    (popType : KPPopType) : PopBaseView where
  frame := ⟨0, 0, SCREEN_WIDTH, SCREEN_HEIGHT⟩
  popType
  _cancelTitle := cancelBtnTitle
  BottomBtnHeight := 45
  _centerView := CGRectZero
  topView := none
  contentView := none
  _bottomLine := CGRectZero
  _bottomMidLine := CGRectZero
  _cancelBtn := CGRectZero
  _okBtn := CGRectZero
  bottomMidLineHidden := false
  cancelBtnHidden := false

variable (v : PopBaseView)

/-- `bounds`: the pop-up in its own coordinates. -/
def bounds : Rect ℚ := ⟨0, 0, v.frame.width, v.frame.height⟩

/-- A view of some height is put below what is there; one of no height, or `nil`, is left out. -/
def place (view : Option (Rect ℚ)) (originY : ℚ) : Option (Rect ℚ) × ℚ :=
  match view with
  | some frame =>
    if frame.height ≠ 0 then
      let frame : Rect ℚ := ⟨0, originY, frame.width, frame.height⟩
      (some frame, CGRectGetMaxY frame)
    else (some frame, originY)
  | none => (none, originY)

/-- The bottom of the box, for the kind of pop-up. -/
def layoutBottom (width originY : ℚ) : PopBaseView :=
  match v.popType with
  | .KPPopTypeNormal =>
    let v :=
      { v with
        BottomBtnHeight := 45
        _bottomLine := ⟨0, originY, width, 1 / 2⟩
        _bottomMidLine := ⟨width / 2, originY, 1 / 2, 45⟩ }
    if v._cancelTitle ≠ none ∧ v._cancelTitle ≠ some "" then
      let cancelBtn : Rect ℚ := ⟨0, originY, width / 2, v.BottomBtnHeight⟩
      { v with
        _cancelBtn := cancelBtn
        _okBtn := ⟨CGRectGetMaxX cancelBtn, originY, width / 2, v.BottomBtnHeight⟩ }
    else
      { v with
        _okBtn := ⟨0, originY, width, v.BottomBtnHeight⟩
        bottomMidLineHidden := true
        cancelBtnHidden := true }
  | .KPPopTypeExplain =>
    { v with
      BottomBtnHeight := 74
      _okBtn := ⟨dis_LEFTSCREEN, originY + 15, width - dis_LEFTSCREEN * 2, 44⟩
      bottomMidLineHidden := true
      cancelBtnHidden := true }

/-- `refreshCenterView:contentView:`. -/
def refreshCenterView (topView contentView : Option (Rect ℚ)) : PopBaseView :=
  let (topView, originY) := place topView 0
  let (contentView, originY) := place contentView originY
  -- the frame of `nil` is all zero
  let topFrame := topView.getD CGRectZero
  let contentFrame := contentView.getD CGRectZero
  let v := { v with topView := topView, contentView := contentView }
  let v := v.layoutBottom contentFrame.width originY
  let width := contentFrame.width
  let height := topFrame.height + contentFrame.height + v.BottomBtnHeight
  let centerX : ℚ := v.frame.x + v.frame.width / 2
  let centerY : ℚ := v.frame.y + v.frame.height / 2
  { v with _centerView := ⟨centerX - width / 2, centerY - height / 2, width, height⟩ }

/-- `keyboardChangedWithTransition:`, of a transition to `toFrame`. -/
def keyboardChangedWithTransition (SCREEN_HEIGHT : ℚ) (convertRect : Rect ℚ → Rect ℚ)
    (toFrame : Rect ℚ) : PopBaseView :=
  let kbFrame := convertRect toFrame
  let textFieldFrame := v._centerView
  if CGRectGetMaxY textFieldFrame > kbFrame.y then
    { v with frame := { v.frame with y := kbFrame.y - CGRectGetMaxY textFieldFrame } }
  else if kbFrame.y = SCREEN_HEIGHT then { v with frame := v.bounds }
  else v

end PopBaseView

end RCSdk
