import RCSdk.Spec.KeyBoardInput

/-!
# What a key announces and what it types

The announced range is one unit at the end of the text, where there is none, whatever is selected.

* `press_agrees_iff`: a key keeps to its announcement exactly when it makes none.
* `rebuilt_eq_iff`: when a delegate that rebuilds the text from the announcement is right still.
-/

namespace RCSdk

open TextEdits Encodings

namespace KeyBoardDigitalView

variable {deleteBackward : TextInput → TextInput} {delegate : Option ShouldChange} {sender : Key}
  {t : TextInput}

/-- What is announced is a range of the text, and the edit that is made when the delegate accepts
it. -/
def Agrees (deleteBackward : TextInput → TextInput) (delegate : Option ShouldChange) (sender : Key)
    (t : TextInput) : Prop :=
  ∀ range string, (buttonAction deleteBackward delegate sender t).announced = some (range, string) →
    range.Valid t.text.length ∧
      ∀ shouldChange, delegate = some shouldChange → shouldChange t range string = true →
        (buttonAction deleteBackward delegate sender t).toTextView.text =
          replace t.text range string

/-- The keys that do not type. -/
def silentTags : List ℕ := [2100, 2101, 2102, 2103]

theorem announced_silent (h : sender.tag ∈ silentTags) :
    (buttonAction deleteBackward delegate sender t).announced = none := by
  simp only [silentTags, List.mem_cons, List.not_mem_nil, or_false] at h
  unfold buttonAction
  rcases h with h | h | h | h <;> rw [h] <;> rfl

/-- A key that types asks the delegate about one unit behind the text. -/
theorem press_asks (h : sender.tag ∉ silentTags) (shouldChange : ShouldChange) :
    buttonAction deleteBackward (some shouldChange) sender t =
      ⟨some (⟨t.text.length, 1⟩, keyText sender),
        if shouldChange t ⟨t.text.length, 1⟩ (keyText sender) then t.insertText (keyText sender)
        else t, false⟩ := by
  simp only [silentTags, List.mem_cons, List.not_mem_nil, or_false, not_or] at h
  unfold buttonAction
  rw [if_neg h.1, if_neg h.2.1, if_neg h.2.2.1, if_neg h.2.2.2]
  dsimp only
  split
  · rfl
  · rfl

/-- And types without asking when there is nobody to ask. -/
theorem press_types (h : sender.tag ∉ silentTags) :
    buttonAction deleteBackward none sender t = ⟨none, t.insertText (keyText sender), false⟩ := by
  simp only [silentTags, List.mem_cons, List.not_mem_nil, or_false, not_or] at h
  unfold buttonAction
  rw [if_neg h.1, if_neg h.2.1, if_neg h.2.2.1, if_neg h.2.2.2]

theorem behind_not_valid (n : ℕ) : ¬ (⟨n, 1⟩ : NSRange).Valid n := by
  simp [Span.Valid]

/-- **A key keeps to its announcement** exactly when it makes none: for any text, selection and key,
the key does not type, or the delegate is not asked. -/
theorem press_agrees_iff (deleteBackward : TextInput → TextInput) (delegate : Option ShouldChange)
    (sender : Key) (t : TextInput) :
    Agrees deleteBackward delegate sender t ↔ sender.tag ∈ silentTags ∨ delegate = none := by
  by_cases htag : sender.tag ∈ silentTags
  · refine iff_of_true (fun range string h => ?_) (Or.inl htag)
    rw [announced_silent htag] at h
    exact absurd h (by simp)
  · rw [or_iff_right htag]
    cases delegate with
    | none =>
      refine iff_of_true (fun range string h => ?_) rfl
      rw [press_types htag] at h
      exact absurd h (by simp)
    | some shouldChange =>
      refine iff_of_false (fun hagrees => ?_) (by simp)
      have hannounced : (buttonAction deleteBackward (some shouldChange) sender t).announced =
          some (⟨t.text.length, 1⟩, keyText sender) := by
        rw [press_asks htag]
      exact behind_not_valid _ (hagrees _ _ hannounced).1

/-- The key `-` pressed before the text `kg`, with a delegate that accepts everything: the range
announced is the third unit of two, and the text becomes `-kg`. -/
theorem minus_before_text :
    buttonAction id (some fun _ _ _ => true) ⟨2000, some "-"⟩ ⟨utf16 "kg", ⟨0, 0⟩⟩ =
        ⟨some (⟨2, 1⟩, utf16 "-"), ⟨utf16 "-kg", ⟨1, 0⟩⟩, false⟩ ∧
      ¬ Agrees id (some fun _ _ _ => true) ⟨2000, some "-"⟩ ⟨utf16 "kg", ⟨0, 0⟩⟩ := by
  have hpress : buttonAction id (some fun _ _ _ => true) ⟨2000, some "-"⟩
      ⟨utf16 "kg", ⟨0, 0⟩⟩ = ⟨some (⟨2, 1⟩, utf16 "-"), ⟨utf16 "-kg", ⟨1, 0⟩⟩, false⟩ := by
    decide +kernel
  refine ⟨hpress, fun hagrees => ?_⟩
  have hvalid := (hagrees ⟨2, 1⟩ (utf16 "-") (by rw [hpress])).1
  exact absurd hvalid (by decide +kernel)

/-- Every key that types has one unit. -/
theorem keyText_length (h : sender ∈ buttons) (htag : sender.tag ∉ silentTags) :
    (keyText sender).length = 1 := by
  have hall : ∀ sender ∈ buttons, sender.tag ∉ silentTags → (keyText sender).length = 1 := by
    decide +kernel
  exact hall sender h htag

/-- **A delegate that rebuilds the text from the announcement**, reading the range as the end of the
text, is right exactly when the selection is a caret with nothing behind it but the unit typed. -/
theorem rebuilt_eq_iff (h : sender ∈ buttons) (htag : sender.tag ∉ silentTags)
    (ht : t.selectedRange.Valid t.text.length) :
    replace t.text ⟨t.text.length, 1⟩ (keyText sender) = (t.insertText (keyText sender)).text ↔
      t.selectedRange.length = 0 ∧
        ∀ b ∈ t.text.drop t.selectedRange.location, [b] = keyText sender := by
  obtain ⟨c, hc⟩ := List.length_eq_one_iff.1 (keyText_length h htag)
  have hdrop : t.text.drop (t.text.length + 1) = [] := List.drop_of_length_le (Nat.le_succ _)
  have hend : replace t.text ⟨t.text.length, 1⟩ [c] = t.text ++ [c] := by
    rw [replace, List.take_length, hdrop, List.append_nil]
  rw [hc, hend]
  simp only [List.cons.injEq, and_true]
  exact append_eq_replace_iff ht c

end KeyBoardDigitalView

end RCSdk
