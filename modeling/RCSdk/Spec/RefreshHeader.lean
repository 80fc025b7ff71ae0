import Mathlib.Data.Rat.Defs
import RCSdk.Lib.Grids

/-!
# A header with a view of the caller in it (`RCMJRefreshExternHeader.m`)

`addExternView:`, with the subviews and the frame of the header, and the frames of the views it is
given. Lengths are exact.
-/

namespace RCSdk

open Grids

namespace RCMJRefreshExternHeader

def MJRefreshHeaderHeight : ℚ := 54

/-- A view, by its identity, which is what `isEqual:` compares. It is not the header, nor a view
that the header is in. -/
abbrev View := ℕ

/-- The header, and the frames of the views around it. -/
structure Header where
  frame : Rect ℚ
  subviews : List View
  _externView : Option View
  /-- The frame of each view. -/
  frameOf : View → Rect ℚ

namespace Header

variable (h : Header)

/-- `addSubview:`. A subview that is added again comes to the front. -/
def addSubview (v : View) : Header :=
  { h with subviews := h.subviews.filter (· ≠ v) ++ [v] }

/-- `[view removeFromSuperview]`, of a view that may be a subview of the header. -/
def removeFromSuperview (v : View) : Header :=
  { h with subviews := h.subviews.filter (· ≠ v) }

def setFrame (frame : Rect ℚ) : Header := { h with frame := frame }

/-- `addExternView:`. -/
def addExternView : Option View → Header
  | some externView =>
    let size := h.frameOf externView
    let h : Header :=
      { h with
        frameOf := fun v =>
          if v = externView then ⟨0, MJRefreshHeaderHeight, size.width, size.height⟩
          else h.frameOf v }
    let h := h.setFrame
      ⟨0, -(MJRefreshHeaderHeight + (h.frameOf externView).height), h.frame.width,
        MJRefreshHeaderHeight + (h.frameOf externView).height⟩
    let h := if h._externView ≠ some externView then h.addSubview externView else h
    { h with _externView := some externView }
  | none =>
    let h := h.setFrame ⟨0, -MJRefreshHeaderHeight, h.frame.width, MJRefreshHeaderHeight⟩
    let h :=
      match h._externView with
      | some v => h.removeFromSuperview v
      | none => h
    { h with _externView := none }

end Header

/-- A header that has been given no view yet, with the subviews of its own. -/
def fresh (frame : Rect ℚ) (subviews : List View) (frameOf : View → Rect ℚ) : Header where
  frame := frame
  subviews := subviews
  _externView := none
  frameOf := frameOf

end RCMJRefreshExternHeader

end RCSdk
