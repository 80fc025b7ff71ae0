import Mathlib.Algebra.Order.Field.Rat
import RCSdk.Lib.Grids

/-!
# What the keyboard manager tells its observers (`YYKeyboardManager.m`)

The system tells the manager about the keyboard, the manager asks the run loop to perform its
methods later, and the run loop performs what is due, in any order. Moments are seconds. A frame is
in the coordinates of the window. The fix for a rotated screen on iOS 7 is left out.
-/

namespace RCSdk

open Grids

/-- `YYKeyboardTransition`. -/
structure YYKeyboardTransition where
  fromVisible : Bool
  toVisible : Bool
  fromFrame : Rect ℚ
  toFrame : Rect ℚ
  animationDuration : ℚ
  animationCurve : ℤ
  animationOption : ℤ
  deriving DecidableEq

/-- What the run loop can be asked to perform. -/
inductive PerformSelector where
  | _notifyAllObservers
  | keyboardChange
  deriving DecidableEq, Repr

/-- A request to perform a selector, from a moment on. -/
structure PerformRequest where
  selector : PerformSelector
  due : ℚ
  deriving DecidableEq, Repr

/-- The manager, the requests the run loop has from it, the time, and what the observers were
told. -/
structure YYKeyboardManager where
  _fromFrame : Rect ℚ
  _fromVisible : Bool
  _notificationToFrame : Rect ℚ
  _notificationDuration : ℚ
  _notificationCurve : ℤ
  _observedToFrame : Rect ℚ
  _hasObservedChange : Bool
  _lastIsNotification : Bool
  _trans : YYKeyboardTransition
  requests : List PerformRequest
  now : ℚ
  told : List YYKeyboardTransition

/-- What happens to the manager. The window is the one the keyboard is in, the key window or the
first one, if there is any. -/
inductive KeyboardEvent where
  | keyboardFrameWillChange (after : Rect ℚ) (curve : ℤ) (duration : ℚ) (window : Option (Rect ℚ))
  | keyboardFrameDidChange (after : Rect ℚ)
  | keyboardFrameChanged (frame : Rect ℚ)
  | perform (request : PerformRequest) (window : Option (Rect ℚ))
  | wait (seconds : ℚ)

namespace YYKeyboardManager

def zeroFrame : Rect ℚ := ⟨0, 0, 0, 0⟩

def UIViewAnimationCurveEaseInOut : ℤ := 0

/-- `_init`. -/
def _init : YYKeyboardManager where
  _fromFrame := zeroFrame
  _fromVisible := false
  _notificationToFrame := zeroFrame
  _notificationDuration := 0
  _notificationCurve := 0
  _observedToFrame := zeroFrame
  _hasObservedChange := false
  _lastIsNotification := false
  _trans := ⟨false, false, zeroFrame, zeroFrame, 0, 0, 0⟩
  requests := []
  now := 0
  told := []

/-- The intersection of two rectangles has an extent. -/
def intersects (a b : Rect ℚ) : Bool :=
  max a.x b.x < min (a.x + a.width) (b.x + b.width) ∧
    max a.y b.y < min (a.y + a.height) (b.y + b.height)

variable (SCREEN_HEIGHT : ℚ) (m : YYKeyboardManager)

/-- `cancelPreviousPerformRequestsWithTarget:selector:object:`. -/
def cancelPrevious (selector : PerformSelector) : YYKeyboardManager :=
  { m with requests := m.requests.filter (·.selector ≠ selector) }

/-- `cancelPreviousPerformRequestsWithTarget:`. -/
def cancelAll : YYKeyboardManager := { m with requests := [] }

/-- `performSelector:withObject:afterDelay:inModes:`. -/
def performAfter (selector : PerformSelector) (delay : ℚ) : YYKeyboardManager :=
  { m with requests := m.requests ++ [⟨selector, m.now + delay⟩] }

/-- The frame the keyboard came from, which the first notification makes up. -/
def startFrame (window : Option (Rect ℚ)) : Rect ℚ :=
  if m._fromFrame.width = 0 ∧ m._fromFrame.height = 0 then
    ⟨0, (window.getD zeroFrame).height, (window.getD zeroFrame).width, 0⟩
  else m._fromFrame

/-- The transition to the keyboard's latest frame. -/
def transition (window : Option (Rect ℚ)) : YYKeyboardTransition :=
  let byNotification := m._lastIsNotification ||
    (m._hasObservedChange && m._observedToFrame == m._notificationToFrame)
  let toFrame := if byNotification then m._notificationToFrame else m._observedToFrame
  { fromVisible := m._fromVisible
    toVisible := match window with
      | some bounds => 0 < toFrame.width && 0 < toFrame.height && intersects bounds toFrame
      | none => false
    fromFrame := m.startFrame window
    toFrame
    animationDuration := if byNotification then m._notificationDuration else 0
    animationCurve := if byNotification then m._notificationCurve else 0
    animationOption := if byNotification then m._notificationCurve * 2 ^ 16 else 0 }

/-- `_notifyAllObservers`. -/
def _notifyAllObservers (window : Option (Rect ℚ)) : YYKeyboardManager :=
  let trans := m.transition window
  let m := { m with _fromFrame := m.startFrame window, _trans := trans }
  let m :=
    if trans.toFrame ≠ m._fromFrame then
      if trans.toFrame.y = SCREEN_HEIGHT then m.performAfter .keyboardChange 0
      else m.cancelAll.performAfter .keyboardChange (3 / 10)
    else m
  { m with
    _hasObservedChange := false
    _fromFrame := trans.toFrame
    _fromVisible := trans.toVisible }

/-- `keyboardChange:`. -/
def keyboardChange : YYKeyboardManager := { m with told := m.told ++ [m._trans] }

/-- `_keyboardFrameWillChangeNotification:`. -/
def _keyboardFrameWillChange (after : Rect ℚ) (curve : ℤ) (duration : ℚ)
    (window : Option (Rect ℚ)) : YYKeyboardManager :=
  if after.width ≤ 0 ∧ after.height ≤ 0 then m
  else
    let m :=
      { m with
        _notificationToFrame := after
        _notificationCurve := curve
        _notificationDuration := duration
        _lastIsNotification := true }
    let m := m.cancelPrevious ._notifyAllObservers
    if duration = 0 then m.performAfter ._notifyAllObservers 0
    else m._notifyAllObservers SCREEN_HEIGHT window

/-- `_keyboardFrameDidChangeNotification:`. -/
def _keyboardFrameDidChange (after : Rect ℚ) : YYKeyboardManager :=
  if after.width ≤ 0 ∧ after.height ≤ 0 then m
  else
    let m :=
      { m with
        _notificationToFrame := after
        _notificationCurve := UIViewAnimationCurveEaseInOut
        _notificationDuration := 0
        _lastIsNotification := true }
    (m.cancelPrevious ._notifyAllObservers).performAfter ._notifyAllObservers 0

/-- `_keyboardFrameChanged:`, for the keyboard. -/
def _keyboardFrameChanged (frame : Rect ℚ) : YYKeyboardManager :=
  let m :=
    { m with
      _observedToFrame := frame
      _hasObservedChange := true
      _lastIsNotification := false }
  (m.cancelPrevious ._notifyAllObservers).performAfter ._notifyAllObservers 0

/-- The run loop performs a request that is due. -/
def perform (request : PerformRequest) (window : Option (Rect ℚ)) : Option YYKeyboardManager :=
  if request ∈ m.requests ∧ request.due ≤ m.now then
    let m := { m with requests := m.requests.erase request }
    match request.selector with
    | ._notifyAllObservers => some (m._notifyAllObservers SCREEN_HEIGHT window)
    | .keyboardChange => some m.keyboardChange
  else none

def step : KeyboardEvent → Option YYKeyboardManager
  | .keyboardFrameWillChange after curve duration window =>
    some (m._keyboardFrameWillChange SCREEN_HEIGHT after curve duration window)
  | .keyboardFrameDidChange after => some (m._keyboardFrameDidChange after)
  | .keyboardFrameChanged frame => some (m._keyboardFrameChanged frame)
  | .perform request window => m.perform SCREEN_HEIGHT request window
  | .wait seconds => if 0 ≤ seconds then some { m with now := m.now + seconds } else none

end YYKeyboardManager

end RCSdk
