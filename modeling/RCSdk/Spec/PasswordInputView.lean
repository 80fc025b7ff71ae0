import Mathlib.Data.List.Basic

/-!
# The field of a password (`PasswordInputView.m`, `InputSecurityView.m`)

A hidden text field, and a row of cells that show its text. A string is the list of its UTF-16
units, which is what `length` and the indexes of `NSString` count. An index past the end of a string
raises, which is `none`.
-/

namespace RCSdk

abbrev unichar := UInt16

/-- `[text substringToIndex:index]`. -/
def substringToIndex (index : ℕ) (text : List unichar) : Option (List unichar) :=
  if index ≤ text.length then some (text.take index) else none

/-- An `InputSecurityView`: the text of its label, and whether the image in its place is hidden. -/
structure InputSecurityView where
  label : List unichar
  imvHidden : Bool
  deriving DecidableEq

namespace InputSecurityView

def initWithFrame : InputSecurityView := ⟨[], false⟩

/-- `setText:`. -/
def setText (text : Option (List unichar)) (btnView : InputSecurityView) : InputSecurityView :=
  match text with
  | some (c :: cs) => { btnView with label := c :: cs, imvHidden := true }
  | _ => { btnView with label := [], imvHidden := false }

end InputSecurityView

/-- The fields of `PasswordInputView`, with the text of the hidden field, whether there is a
delegate that responds to `inputComplete:`, and the words the delegate has been called with. -/
structure PasswordInputView where
  _inputNum : ℕ
  _inputViewArray : List InputSecurityView
  dynamicTextField : List unichar
  delegate : Bool
  inputComplete : List (List unichar)
  deriving DecidableEq

namespace PasswordInputView

/-- `initWithFrame:securityImage:inputNum:`, and the delegate. -/
def initWithFrame (inputNum : ℕ) (delegate : Bool) : PasswordInputView where
  _inputNum := inputNum
  _inputViewArray := List.replicate inputNum .initWithFrame
  dynamicTextField := []
  delegate
  inputComplete := []

/-- `refreshWithInputWord:`. -/
def refreshWithInputWord (inputWord : List unichar) (v : PasswordInputView) : PasswordInputView :=
  { v with
    _inputViewArray := v._inputViewArray.mapIdx fun i btnView =>
      if inputWord.length > i then btnView.setText (some ((inputWord.drop i).take 1))
      else btnView.setText none }

/-- `textFieldDidChange:`. -/
def textFieldDidChange (v : PasswordInputView) : Option PasswordInputView :=
  if v.dynamicTextField.length ≥ v._inputNum then do
    -- six, whatever the number of cells
    let text ← substringToIndex 6 v.dynamicTextField
    let v := { v with dynamicTextField := text }
    let v :=
      if v.delegate then { v with inputComplete := v.inputComplete ++ [v.dynamicTextField] } else v
    some (v.refreshWithInputWord v.dynamicTextField)
  else some (v.refreshWithInputWord v.dynamicTextField)

/-- The text of the field changes, and the field says so. -/
def change (text : List unichar) (v : PasswordInputView) : Option PasswordInputView :=
  { v with dynamicTextField := text }.textFieldDidChange

end PasswordInputView

end RCSdk
