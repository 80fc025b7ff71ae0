import RCSdk.Spec.KPEditUintPopView

/-!
# What the name of a unit can hold

The filter turns down what is found in `0123456789`, so a string of digits that do not follow one
another, or with anything besides digits, is let through. The cut at eight units comes after.

* `accepted_of_digitFree`: a string without digits is always let through.
* `edit_clean_iff`: when one edit leaves a name without digits.
* `texts_clean_iff`: so for every sequence of edits.
-/

namespace RCSdk

open TextEdits Encodings

namespace KPEditUintPopView

/-- An ASCII digit. -/
def IsDigit (c : unichar) : Prop := 0x30 ≤ c ∧ c ≤ 0x39

def DigitFree (text : List unichar) : Prop := ∀ c ∈ text, ¬ IsDigit c

/-- A name with no digit, of at most eight units. -/
structure Clean (text : List unichar) : Prop where
  digitFree : DigitFree text
  length_le : text.length ≤ kMaxLength

/-- The string is among the digits in their order, or none of the digits it has comes to lie in the
first eight units. -/
def Edit.Harmless (e : Edit) : Prop :=
  containsString (utf16 "0123456789") e.string = true ∨
    DigitFree (e.string.take (kMaxLength - e.range.location))

instance (c : unichar) : Decidable (IsDigit c) := inferInstanceAs (Decidable (_ ∧ _))

instance (text : List unichar) : Decidable (DigitFree text) :=
  decidable_of_iff (text.all (fun c => !decide (IsDigit c)) = true) (by simp [DigitFree])

variable {text text' : List unichar} {e : Edit}

theorem isDigit_of_mem {c : unichar} (h : c ∈ utf16 "0123456789") : IsDigit c := by
  have hall : (utf16 "0123456789").all (fun c => decide (IsDigit c)) = true := by decide +kernel
  exact of_decide_eq_true (List.all_eq_true.1 hall c h)

/-- What is found among the digits has a digit. -/
theorem not_digitFree_of_containsString {string : List unichar}
    (h : containsString (utf16 "0123456789") string = true) : ¬ DigitFree string := by
  rw [containsString, decide_eq_true_iff] at h
  obtain ⟨hne, hfound⟩ := h
  obtain ⟨c, hc⟩ := List.exists_mem_of_ne_nil string hne
  intro hfree
  exact hfree c hc (isDigit_of_mem (hfound.subset hc))

theorem accepted_iff :
    e.accepted = true ↔ ¬ containsString (utf16 "0123456789") e.string = true := by
  rw [Edit.accepted, shouldChangeCharactersInRange, Bool.not_eq_true', Bool.not_eq_true]

/-- **A string without digits is always let through.** -/
theorem accepted_of_digitFree (h : DigitFree e.string) : e.accepted = true :=
  accepted_iff.2 fun hcontains => not_digitFree_of_containsString hcontains h

/-- Without marked text the language makes no difference. -/
theorem textFieldDidChange_eq (lang : Option String) (toBeString : List unichar) :
    textFieldDidChange lang false toBeString = some (toBeString.take kMaxLength) := by
  have hcut : (if toBeString.length > kMaxLength then substringToIndex kMaxLength toBeString
      else some toBeString) = some (toBeString.take kMaxLength) := by
    split
    · rename_i hlong
      exact if_pos (Nat.le_of_lt hlong)
    · rename_i hshort
      rw [List.take_of_length_le (Nat.le_of_not_lt hshort)]
  unfold textFieldDidChange
  split
  · exact hcut
  · exact hcut

/-- What an edit does. -/
theorem edit_cases (h : edit text e = some text') :
    e.range.Valid text.length ∧
      (containsString (utf16 "0123456789") e.string = true ∧ text' = text ∨
        ¬ containsString (utf16 "0123456789") e.string = true ∧
          text' = (replace text e.range e.string).take kMaxLength) := by
  unfold edit at h
  split at h
  · rename_i hvalid
    refine ⟨hvalid, ?_⟩
    split at h
    · rename_i haccepted
      rw [textFieldDidChange_eq] at h
      exact Or.inr ⟨accepted_iff.1 haccepted, (Option.some.inj h).symm⟩
    · rename_i hrejected
      rw [accepted_iff, not_not] at hrejected
      exact Or.inl ⟨hrejected, (Option.some.inj h).symm⟩
  · exact absurd h (by simp)

/-- **One edit leaves a clean name clean** exactly when it is harmless. -/
theorem edit_clean_iff (htext : Clean text) (h : edit text e = some text') :
    Clean text' ↔ e.Harmless := by
  obtain ⟨hvalid, ⟨hcontains, rfl⟩ | ⟨hcontains, rfl⟩⟩ := edit_cases h
  · exact iff_of_true htext (Or.inl hcontains)
  · have hdigits := all_take_replace_iff hvalid htext.digitFree e.string kMaxLength
    rw [Edit.Harmless, or_iff_right hcontains]
    constructor
    · intro hclean
      exact hdigits.1 hclean.digitFree
    · intro hfree
      exact ⟨hdigits.2 hfree, List.length_take_le _ _⟩

/-- **The name stays clean and every string without digits is let through**, over any sequence of
edits of a clean name, exactly when every edit of it is harmless. -/
theorem texts_clean_iff (edits : List Edit) (ts : List (List unichar)) (htext : Clean text)
    (h : texts text edits = some ts) :
    ((∀ t ∈ ts, Clean t) ∧ ∀ e ∈ edits, DigitFree e.string → e.accepted = true) ↔
      ∀ e ∈ edits, e.Harmless := by
  rw [and_iff_left fun e _ => accepted_of_digitFree]
  induction edits generalizing text ts with
  | nil =>
    obtain rfl := Option.some.inj h
    exact iff_of_true (by simp) (by simp)
  | cons e edits ih =>
    obtain ⟨text', htext', h⟩ := Option.bind_eq_some_iff.1 h
    obtain ⟨rest, hrest, h⟩ := Option.bind_eq_some_iff.1 h
    obtain rfl := Option.some.inj h
    have hstep := edit_clean_iff htext htext'
    rw [List.forall_mem_cons, List.forall_mem_cons]
    constructor
    · rintro ⟨hclean, hall⟩
      exact ⟨hstep.1 hclean, (ih rest hclean hrest).1 hall⟩
    · rintro ⟨hharmless, hall⟩
      have hclean := hstep.2 hharmless
      exact ⟨hclean, (ih rest hclean hrest).2 hall⟩

/-- The name `kg` with `1` typed behind it: the digit is turned down. -/
theorem texts_clean_digit :
    texts (utf16 "kg") [⟨⟨2, 0⟩, utf16 "1", none⟩] = some [utf16 "kg"] ∧
      (∀ t ∈ [utf16 "kg"], Clean t) ∧
      ∀ e ∈ [(⟨⟨2, 0⟩, utf16 "1", none⟩ : Edit)], DigitFree e.string → e.accepted = true := by
  have hkg : Clean (utf16 "kg") := ⟨by decide +kernel, by decide +kernel⟩
  have htexts : texts (utf16 "kg") [⟨⟨2, 0⟩, utf16 "1", none⟩] = some [utf16 "kg"] := by
    decide +kernel
  refine ⟨htexts, (texts_clean_iff _ _ hkg htexts).2 fun e he => ?_⟩
  obtain rfl := List.mem_singleton.1 he
  exact Or.inl (by decide +kernel)

/-- The same name with `13` pasted behind it: both digits stay. -/
theorem pasted_digits :
    texts (utf16 "kg") [⟨⟨2, 0⟩, utf16 "13", none⟩] = some [utf16 "kg13"] ∧
      Clean (utf16 "kg") ∧ ¬ Clean (utf16 "kg13") := by
  refine ⟨by decide +kernel, ⟨by decide +kernel, by decide +kernel⟩, fun hclean => ?_⟩
  exact absurd hclean.digitFree (by decide +kernel)

end KPEditUintPopView

end RCSdk
