import RCSdk.Spec.PasswordInputView
import Mathlib.Data.List.TakeDrop

/-!
# What the password field does with a change

The threshold is the number of cells, the cut is at six, and nothing relates the two.

* `handledRight_iff`: when one change is handled as it should be.
* `runRight_iff`: so for every sequence of changes.
-/

namespace RCSdk

/-- The cell of a place of the text, where there may be a character. -/
def InputSecurityView.showing (c : Option unichar) : InputSecurityView := ⟨c.toList, c.isSome⟩

namespace PasswordInputView

/-- What a change to `text` is to leave: a text that fits, its characters in the cells, and a call
of `inputComplete:` when the text has reached the number of cells, with that many of its
characters. -/
structure HandledRight (v : PasswordInputView) (text : List unichar) (v' : PasswordInputView) :
    Prop where
  length_le : v'.dynamicTextField.length ≤ v._inputNum
  cells : v'._inputViewArray =
    (List.range v._inputNum).map fun i => .showing v'.dynamicTextField[i]?
  complete : v._inputNum ≤ text.length →
    v'.inputComplete = v.inputComplete ++ [text.take v._inputNum]
  incomplete : text.length < v._inputNum → v'.inputComplete = v.inputComplete

/-- Each change of the sequence is handled without raising, and as it should be. -/
def RunRight (v : PasswordInputView) : List (List unichar) → Prop
  | [] => True
  | text :: texts => ∃ v', v.change text = some v' ∧ v.HandledRight text v' ∧ v'.RunRight texts

/-- There are as many cells as the number says. -/
def CellsMatch (v : PasswordInputView) : Prop := v._inputViewArray.length = v._inputNum

variable {v v' : PasswordInputView} {text : List unichar}

theorem substringToIndex_eq_some {index : ℕ} {s : List unichar}
    (h : substringToIndex index text = some s) : index ≤ text.length ∧ s = text.take index := by
  unfold substringToIndex at h
  split at h
  · rename_i hle
    exact ⟨hle, (Option.some.inj h).symm⟩
  · exact absurd h (by simp)

/-- The cells do not depend on what they showed before. -/
theorem refresh_cells (hv : v.CellsMatch) (word : List unichar) :
    (v.refreshWithInputWord word)._inputViewArray =
      (List.range v._inputNum).map fun i => .showing word[i]? := by
  have hlength : (v.refreshWithInputWord word)._inputViewArray.length = v._inputNum := by
    rw [refreshWithInputWord, List.length_mapIdx]
    exact hv
  refine List.ext_getElem (by rw [hlength, List.length_map, List.length_range]) fun i h₁ h₂ => ?_
  simp only [refreshWithInputWord, List.getElem_mapIdx, List.getElem_map, List.getElem_range]
  split
  · rename_i hi
    rw [List.drop_eq_getElem_cons hi, List.getElem?_eq_getElem hi]
    rfl
  · rename_i hi
    rw [List.getElem?_eq_none (Nat.le_of_not_lt hi)]
    rfl

/-- A text shorter than the cells. -/
theorem change_short (h : text.length < v._inputNum) :
    v.change text = some ({ v with dynamicTextField := text }.refreshWithInputWord text) :=
  if_neg (Nat.not_le.2 h)

/-- A text that reaches them: six characters are kept, or it raises. -/
theorem change_long (h : v._inputNum ≤ text.length) (hv' : v.change text = some v') :
    6 ≤ text.length ∧ v'.dynamicTextField = text.take 6 ∧
      v'._inputViewArray = (v.refreshWithInputWord (text.take 6))._inputViewArray ∧
      v'._inputNum = v._inputNum ∧ v'.delegate = v.delegate ∧
      v'.inputComplete = if v.delegate then v.inputComplete ++ [text.take 6]
        else v.inputComplete := by
  unfold change textFieldDidChange at hv'
  rw [if_pos h] at hv'
  obtain ⟨s, hs, hv'⟩ := Option.bind_eq_some_iff.1 hv'
  obtain ⟨h6, rfl⟩ := substringToIndex_eq_some hs
  obtain rfl := Option.some.inj hv'
  cases hd : v.delegate <;> simp [refreshWithInputWord, hd, h6]

/-- The fields that a change leaves alone. -/
theorem change_frame (hv : v.CellsMatch) (hv' : v.change text = some v') :
    v'._inputNum = v._inputNum ∧ v'.delegate = v.delegate ∧ v'.CellsMatch := by
  rcases Nat.lt_or_ge text.length v._inputNum with h | h
  · rw [change_short h] at hv'
    obtain rfl := Option.some.inj hv'
    exact ⟨rfl, rfl, (List.length_mapIdx).trans hv⟩
  · obtain ⟨-, -, hcells, hnum, hdelegate, -⟩ := change_long h hv'
    refine ⟨hnum, hdelegate, ?_⟩
    rw [CellsMatch, hcells, hnum]
    exact (List.length_mapIdx).trans hv

/-- **One change is handled right** exactly when the text does not reach the cells, or there are six
of them and the delegate listens. -/
theorem handledRight_iff (hv : v.CellsMatch) :
    (∃ v', v.change text = some v' ∧ v.HandledRight text v') ↔
      text.length < v._inputNum ∨ v._inputNum = 6 ∧ v.delegate = true := by
  rcases Nat.lt_or_ge text.length v._inputNum with h | h
  · refine iff_of_true ⟨_, change_short h, ?_⟩ (Or.inl h)
    exact ⟨Nat.le_of_lt h, refresh_cells hv text, fun h' => absurd h' (Nat.not_le.2 h),
      fun _ => rfl⟩
  · rw [or_iff_right (Nat.not_lt.2 h)]
    constructor
    · rintro ⟨v', hv', hright⟩
      obtain ⟨h6, -, -, -, -, hcomplete⟩ := change_long h hv'
      have hcalled := hright.complete h
      rw [hcomplete] at hcalled
      split at hcalled
      · rename_i hdelegate
        -- six characters were handed over, where one for each cell is due
        have htake : text.take 6 = text.take v._inputNum := by simpa using hcalled
        have hlength := congrArg List.length htake
        rw [List.length_take, List.length_take] at hlength
        exact ⟨by omega, hdelegate⟩
      · exact absurd hcalled (by simp)
    · rintro ⟨h6, hdelegate⟩
      rw [h6] at h
      have hsome : ∃ v', v.change text = some v' := by
        unfold change textFieldDidChange
        rw [if_pos (by rw [h6]; exact h)]
        exact ⟨_, Option.bind_eq_some_iff.2 ⟨_, if_pos h, rfl⟩⟩
      obtain ⟨v', hv'⟩ := hsome
      obtain ⟨-, htext, hcells, -, -, hcomplete⟩ := change_long (by rw [h6]; exact h) hv'
      refine ⟨v', hv', ?_, ?_, fun _ => ?_, fun h' => absurd h' (by omega)⟩
      · rw [htext, h6]
        exact List.length_take_le _ _
      · rw [hcells, htext]
        exact refresh_cells hv _
      · rw [hcomplete, hdelegate, h6]
        rfl

/-- A sequence, from any field with the right number of cells. -/
theorem runRight_iff_of_cellsMatch (hv : v.CellsMatch) (texts : List (List unichar)) :
    v.RunRight texts ↔
      ∀ text ∈ texts, text.length < v._inputNum ∨ v._inputNum = 6 ∧ v.delegate = true := by
  induction texts generalizing v with
  | nil => exact iff_of_true trivial (by simp)
  | cons text texts ih =>
    rw [List.forall_mem_cons, ← handledRight_iff hv]
    constructor
    · rintro ⟨v', hv', hright, hrest⟩
      obtain ⟨hnum, hdelegate, hcells⟩ := change_frame hv hv'
      rw [ih hcells, hnum, hdelegate] at hrest
      exact ⟨⟨v', hv', hright⟩, hrest⟩
    · rintro ⟨⟨v', hv', hright⟩, hrest⟩
      obtain ⟨hnum, hdelegate, hcells⟩ := change_frame hv hv'
      rw [← hnum, ← hdelegate] at hrest
      exact ⟨v', hv', hright, (ih hcells).2 hrest⟩

/-- **Every sequence of changes** of a new field is handled right exactly when no text of it reaches
the number of cells, or that number is six and the delegate listens. -/
theorem runRight_iff (inputNum : ℕ) (delegate : Bool) (texts : List (List unichar)) :
    (initWithFrame inputNum delegate).RunRight texts ↔
      ∀ text ∈ texts, text.length < inputNum ∨ inputNum = 6 ∧ delegate = true := by
  have hcells : (initWithFrame inputNum delegate).CellsMatch := List.length_replicate
  exact runRight_iff_of_cellsMatch hcells texts

/-- Four cells and the fourth character: the cut at six raises. Eight cells and eight characters:
the delegate gets six of them. -/
theorem four_and_eight_cells :
    ¬ (initWithFrame 4 true).RunRight [[49, 50, 51, 52]] ∧
      ¬ (initWithFrame 8 true).RunRight [[49, 50, 51, 52, 53, 54, 55, 56]] := by
  constructor
  · rintro ⟨v', hv', -⟩
    have hnone : (initWithFrame 4 true).change [49, 50, 51, 52] = none := by decide
    rw [hnone] at hv'
    exact absurd hv' (by simp)
  · rintro ⟨v', hv', hright, -⟩
    have hcalls : ((initWithFrame 8 true).change [49, 50, 51, 52, 53, 54, 55, 56]).map
        inputComplete = some [[49, 50, 51, 52, 53, 54]] := by decide
    rw [hv'] at hcalls
    have hcomplete := hright.complete (by decide)
    rw [Option.some.inj hcalls] at hcomplete
    exact absurd hcomplete (by decide)

end PasswordInputView

end RCSdk
