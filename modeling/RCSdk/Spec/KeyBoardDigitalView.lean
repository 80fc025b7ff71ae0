import Mathlib.Data.List.Basic
import Mathlib.Data.Rat.Defs
import Mathlib.Algebra.Order.Ring.Unbundled.Rat
import Mathlib.Logic.Function.Basic

/-!
# The digital keyboard (`KeyBoardDigitalView.m`)

One shared object serves every text field. Installing it for a field builds a new key view, puts
the head and foot views into it, makes it the field's `inputView` and registers for the
notification that the keyboard will hide; a registration is not checked for, so there may be
several, and a hide notifies each of them. Each notification schedules `reductionView` after half
the animation and `keyBoardDismiss` after all of it. A run is any sequence of calls of the
application, notifications, and firings of what they scheduled, in the order of the times.

The application holds its views and fields, so no weak reference is cleared on its own.
-/

namespace RCSdk

abbrev UITextField := ℕ

/-- A view, by identity: one of the application's, or the key view of the `n`-th installation. -/
inductive UIView where
  | ofApp (n : ℕ)
  | keyMain (n : ℕ)
  deriving DecidableEq, Repr

/-- The fields of `KeyBoardDigitalView`. -/
structure KeyBoardDigitalView where
  toTextView : Option UITextField
  keyMainView : Option UIView
  headView : Option UIView
  footView : Option UIView
  upToView : Option UIView
  subFootView : Option UIView

/-- What a notification schedules. -/
inductive Teardown where
  | reductionView
  | keyBoardDismiss
  deriving DecidableEq, Repr

/-- A delayed perform: when it is due, and how many keyboards had been installed when the
keyboard hid that scheduled it. -/
structure DelayedPerform where
  selector : Teardown
  due : ℚ
  installs : ℕ
  deriving DecidableEq, Repr

/-- A call of `setKeyBoardInputView:`, with what it put where. -/
structure Installation where
  textField : UITextField
  keyMainView : UIView
  headView : Option UIView
  footView : Option UIView
  deriving DecidableEq, Repr

/-- The keyboard and the system around it: the `inputView` of every field, the superview of
every view, the registrations (each by the installation that made it), the delayed performs,
the clock, and the installations so far. -/
structure KeyBoard where
  view : KeyBoardDigitalView
  inputView : UITextField → Option UIView
  superview : UIView → Option UIView
  observers : List ℕ
  performs : List DelayedPerform
  now : ℚ
  installs : List Installation

namespace KeyBoard

def init : KeyBoard where
  view := ⟨none, none, none, none, none, none⟩
  inputView _ := none
  superview _ := none
  observers := []
  performs := []
  now := 0
  installs := []

/-- `[view addSubview:child]`, nothing for `nil`. -/
def addSubview (view : UIView) (child : Option UIView) (k : KeyBoard) : KeyBoard :=
  match child with
  | some child => { k with superview := Function.update k.superview child (some view) }
  | none => k

/-- `buildKeyBoard`: a new key view, with the head and the foot in it. -/
def buildKeyBoard (k : KeyBoard) : KeyBoard :=
  let keyMainView := UIView.keyMain k.installs.length
  let k := { k with view := { k.view with keyMainView := some keyMainView } }
  let k := k.addSubview keyMainView k.view.headView
  k.addSubview keyMainView k.view.footView

/-- Where the foot view goes back to, as `setKeyBoardInputView:` records it. -/
def originalSuperview (k : KeyBoard) : Option UIView :=
  match k.view.footView with
  | none => none
  | some footView =>
    match k.superview footView with
    | none => none
    | some foot_sup =>
      if k.view.keyMainView ≠ some foot_sup then some foot_sup else k.view.subFootView

/-- `setKeyBoardInputView:`. -/
def setKeyBoardInputView (textField : UITextField) (k : KeyBoard) : KeyBoard :=
  let k := { k with
    view := { k.view with toTextView := some textField, subFootView := k.originalSuperview } }
  let k := k.buildKeyBoard
  { k with
    inputView := Function.update k.inputView textField k.view.keyMainView
    observers := k.observers ++ [k.installs.length]
    installs := k.installs ++
      [⟨textField, .keyMain k.installs.length, k.view.headView, k.view.footView⟩] }

/-- `keyBoardDismiss`. -/
def keyBoardDismiss (k : KeyBoard) : KeyBoard :=
  { k with
    view := ⟨none, none, none, none, none, none⟩
    inputView :=
      match k.view.toTextView with
      | some textField => Function.update k.inputView textField none
      | none => k.inputView
    -- only this view is taken out of its superview
    superview :=
      match k.view.upToView with
      | some upToView => Function.update k.superview upToView none
      | none => k.superview
    observers := [] }

/-- `reductionView`: the foot view goes back. -/
def reductionView (k : KeyBoard) : KeyBoard :=
  match k.view.subFootView with
  | some subFootView => k.addSubview subFootView k.view.footView
  | none => k

def perform (selector : Teardown) (k : KeyBoard) : KeyBoard :=
  match selector with
  | .reductionView => k.reductionView
  | .keyBoardDismiss => k.keyBoardDismiss

/-- `keyboardWillHideNotification:`, for one registration. A notification without a duration
has duration zero. -/
def keyboardWillHideNotification (duration : Option ℚ) (k : KeyBoard) : List DelayedPerform :=
  let duration := duration.getD 0
  [⟨.reductionView, k.now + duration / 2, k.installs.length⟩,
    ⟨.keyBoardDismiss, k.now + duration, k.installs.length⟩]

/-- The events of a run: the application sets the views, moves its views, and installs the
keyboard; the keyboard hides; time passes; and a delayed perform fires. -/
inductive Event where
  | setHeadView (view : Option ℕ)
  | setFootView (view : Option ℕ)
  | setUpToView (view : Option ℕ)
  | moves (view : ℕ) (superview : Option ℕ)
  | setKeyBoardInputView (textField : UITextField)
  | keyboardWillHide (duration : Option ℚ)
  | wait (time : ℚ)
  | fires (n : ℕ)

/-- One event. A delayed perform fires when it is due, and none that is due earlier is
pending. -/
def step (k : KeyBoard) : Event → Option KeyBoard
  | .setHeadView view => some { k with view := { k.view with headView := view.map .ofApp } }
  | .setFootView view => some { k with view := { k.view with footView := view.map .ofApp } }
  | .setUpToView view => some { k with view := { k.view with upToView := view.map .ofApp } }
  | .moves view superview =>
    some { k with
      superview := Function.update k.superview (.ofApp view) (superview.map .ofApp) }
  | .setKeyBoardInputView textField => some (k.setKeyBoardInputView textField)
  | .keyboardWillHide duration =>
    some { k with
      performs := k.performs ++ k.observers.flatMap fun _ => k.keyboardWillHideNotification duration }
  | .wait time => if 0 ≤ time then some { k with now := k.now + time } else none
  | .fires n =>
    match k.performs[n]? with
    | none => none
    | some p =>
      if p.due ≤ k.now ∧ ∀ q ∈ k.performs, p.due ≤ q.due then
        some ({ k with performs := k.performs.eraseIdx n }.perform p.selector)
      else none

end KeyBoard

end RCSdk
