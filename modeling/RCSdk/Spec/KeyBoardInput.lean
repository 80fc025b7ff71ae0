import RCSdk.Spec.KPEditUintPopView

/-!
# Typing on the digital keyboard (`KeyBoardDigitalView.m`)

What a key does to the field the keyboard serves. The text system is not part of the code: insertion
takes the place of the selection, and how much a deletion takes is a parameter.
-/

namespace RCSdk

open TextEdits Encodings

/-- The text of the field, and what is selected in it: a caret is an empty selection. -/
structure TextInput where
  text : List unichar
  selectedRange : NSRange
  deriving DecidableEq

/-- `insertText:`. -/
def TextInput.insertText (string : List unichar) (t : TextInput) : TextInput where
  text := replace t.text t.selectedRange string
  selectedRange := ⟨t.selectedRange.location + string.length, 0⟩

/-- A delegate's `textField:shouldChangeCharactersInRange:replacementString:`. -/
abbrev ShouldChange := TextInput → NSRange → List unichar → Bool

namespace KeyBoardDigitalView

/-- A button of the keyboard. A button with an image has no title. -/
structure Key where
  tag : ℕ
  currentTitle : Option String
  deriving DecidableEq, Repr

def leftArray : List String := ["-", "·", "0"]

def titleArray : List String := ["1", "2", "3", "4", "5", "6", "7", "8", "9"]

/-- The buttons of `buildKeyBoard`. -/
def buttons : List Key :=
  (leftArray.mapIdx fun i title => ⟨2000 + i, some title⟩) ++
    (titleArray.mapIdx fun j title => ⟨2003 + j, some title⟩) ++ [⟨2100, none⟩, ⟨2101, none⟩]

/-- What a key does: the edit it announces to the delegate, the field it leaves, and whether the
field gives up the keyboard. -/
structure Pressed where
  announced : Option (NSRange × List unichar)
  toTextView : TextInput
  resigned : Bool
  deriving DecidableEq

/-- The text of a key, with a full stop for the dot in the middle. -/
def keyText (sender : Key) : List unichar :=
  let key := sender.currentTitle.getD ""
  utf16 (if key = "·" then "." else key)

/-- `buttonAction:`. The delegate is `none` when it does not respond to the question. -/
def buttonAction (deleteBackward : TextInput → TextInput) (delegate : Option ShouldChange)
    (sender : Key) (toTextView : TextInput) : Pressed :=
  if sender.tag = 2100 then ⟨none, toTextView, true⟩
  else if sender.tag = 2101 then ⟨none, deleteBackward toTextView, false⟩
  else if sender.tag = 2102 then ⟨none, toTextView, false⟩
  else if sender.tag = 2103 then ⟨none, toTextView, true⟩
  else
    let key := keyText sender
    let r1 : NSRange := ⟨toTextView.text.length, 1⟩
    match delegate with
    | some shouldChange =>
      if shouldChange toTextView r1 key then ⟨some (r1, key), toTextView.insertText key, false⟩
      else ⟨some (r1, key), toTextView, false⟩
    | none => ⟨none, toTextView.insertText key, false⟩

end KeyBoardDigitalView

end RCSdk
