import Mathlib.Data.List.Infix
import RCSdk.Lib.Encodings
import RCSdk.Lib.TextEdits
import RCSdk.Spec.PasswordInputView

/-!
# The name of a unit (`KPEditUintPopView.m`)

The text field of the pop-up asks before every edit, and reports every edit that is made. An edit is
proposed for a range of the text as it is.
-/

namespace RCSdk

open TextEdits Encodings

abbrev NSRange := Span

/-- `[text containsString:string]`. Nothing contains the empty string. -/
def containsString (text string : List unichar) : Bool := string ≠ [] ∧ string <:+: text

namespace KPEditUintPopView

def kMaxLength : ℕ := 8

/-- The text fields the pop-up is the delegate of. -/
inductive TextField where
  | _unitTextField
  | _unitNumer
  deriving DecidableEq, Repr

/-- `textField:shouldChangeCharactersInRange:replacementString:`. -/
def shouldChangeCharactersInRange (textField : TextField) (_range : NSRange)
    (string : List unichar) : Bool :=
  match textField with
  | ._unitTextField => !containsString (utf16 "0123456789") string
  | ._unitNumer => true

/-- `textFieldDidChange:`, with the language of the input and whether some text is marked. -/
def textFieldDidChange (lang : Option String) (marked : Bool) (toBeString : List unichar) :
    Option (List unichar) :=
  if lang = some "zh-Hans" then
    if marked then some toBeString
    else if toBeString.length > kMaxLength then substringToIndex kMaxLength toBeString
    else some toBeString
  else if toBeString.length > kMaxLength then substringToIndex kMaxLength toBeString
  else some toBeString

/-- An edit proposed to the field of the unit, with the language it is made in. -/
structure Edit where
  range : NSRange
  string : List unichar
  lang : Option String
  deriving DecidableEq

/-- The field accepts the edit. -/
def Edit.accepted (e : Edit) : Bool :=
  shouldChangeCharactersInRange ._unitTextField e.range e.string

/-- One edit of the text: `none` when its range is not one of the text. -/
def edit (text : List unichar) (e : Edit) : Option (List unichar) :=
  if e.range.Valid text.length then
    if e.accepted then textFieldDidChange e.lang false (replace text e.range e.string)
    else some text
  else none

/-- The texts that the edits leave, one after the other. -/
def texts (text : List unichar) : List Edit → Option (List (List unichar))
  | [] => some []
  | e :: edits => do
    let text ← edit text e
    let rest ← texts text edits
    some (text :: rest)

end KPEditUintPopView

end RCSdk
