import RCSdk.Proof.DateOrder

/-!
# When the picker of two dates saves

`sureBtnPressed` waits for three keys in the dictionary of the caller, whichever they are. The two
times are two of them; the third can be a list of buttons, the title of a quick range, or anything
else the caller put in.

* `save_right_of_filled`, `filled_of_save_right`: with one key besides the times a save is right
  throughout, and from hardly any other dictionary.
* `save_right_iff`: the saves of a run call the block exactly when both times are there, and change
  nothing otherwise, exactly when the other keys make up the number at each.
* `save_two_times`: the two times alone are not saved, and one time can be.
-/

namespace RCSdk

open Trans

namespace DateSpace

/-- The keys besides the two times. -/
def extras (d : DateSpace) : ℕ := d.others + if d.dateKey.isSome then 1 else 0

/-- Both times are there. -/
def HasBoth (d : DateSpace) : Prop := d.beginTimer.isSome ∧ d.endTimer.isSome

instance (d : DateSpace) : Decidable d.HasBoth := inferInstanceAs (Decidable (_ ∧ _))

/-- **The condition**: besides both times there is another key; besides one of them there is one
other at most, and two without them. -/
def KeysFit (d : DateSpace) : Prop :=
  if d.HasBoth then 1 ≤ d.extras
  else if d.beginTimer.isSome ∨ d.endTimer.isSome then d.extras ≤ 1
  else d.extras ≤ 2

instance (d : DateSpace) : Decidable d.KeysFit := by
  unfold KeysFit
  infer_instance

theorem count_eq (d : DateSpace) : d.count = d.extras + (if d.beginTimer.isSome then 1 else 0) +
    (if d.endTimer.isSome then 1 else 0) := by
  unfold count extras
  omega

/-- **The keys are three or more exactly when both times are there.** -/
theorem keysFit_iff (d : DateSpace) : (3 ≤ d.count ↔ d.HasBoth) ↔ d.KeysFit := by
  rw [count_eq]
  unfold KeysFit HasBoth
  by_cases hb : d.beginTimer.isSome
  · by_cases he : d.endTimer.isSome
    · simp only [hb, he, and_self, if_true, iff_true]
      omega
    · simp only [hb, he, Bool.false_eq_true, and_false, or_false, if_true, if_false, iff_false]
      omega
  · by_cases he : d.endTimer.isSome
    · simp only [hb, he, Bool.false_eq_true, false_and, or_true, if_true, if_false, iff_false]
      omega
    · simp only [hb, he, Bool.false_eq_true, and_self, or_self, if_false, iff_false]
      omega

end DateSpace

namespace DoubleDatePickerView

variable {cal : DayCalendar} {v w : DoubleDatePickerView}

/-- **A save calls the block exactly when both times are there**, and leaves the dictionary when
it does not. -/
def SaveRight (cal : DayCalendar) (v : DoubleDatePickerView) : Prop :=
  ((v.sureBtnPressed cal).delivered.length = v.delivered.length + 1 ↔ v.dateSpace.HasBoth) ∧
    ((v.sureBtnPressed cal).delivered = v.delivered →
      (v.sureBtnPressed cal).dateSpace = v.dateSpace)

/-- What a save does: nothing, or it rounds, takes the title out and calls the block. -/
theorem sureBtnPressed_cases (cal : DayCalendar) (v : DoubleDatePickerView) :
    v.dateSpace.count < 3 ∧ v.sureBtnPressed cal = v ∨
      3 ≤ v.dateSpace.count ∧
        (v.sureBtnPressed cal).dateSpace =
          { roundDateSpace cal v.dateSpace with dateKey := some "" } ∧
        (v.sureBtnPressed cal).delivered.length = v.delivered.length + 1 := by
  unfold sureBtnPressed
  by_cases h : v.dateSpace.count < 3
  · exact Or.inl ⟨h, if_pos h⟩
  · rw [if_neg h]
    exact Or.inr ⟨by omega, rfl, by simp [deliver]⟩

theorem saveRight_iff (cal : DayCalendar) (v : DoubleDatePickerView) :
    SaveRight cal v ↔ v.dateSpace.KeysFit := by
  rw [← DateSpace.keysFit_iff]
  unfold SaveRight
  rcases sureBtnPressed_cases cal v with ⟨hlt, heq⟩ | ⟨hle, -, hlen⟩
  · rw [heq]
    have hcount : ¬ 3 ≤ v.dateSpace.count := by omega
    simp [hcount]
  · rw [hlen]
    have hne : (v.sureBtnPressed cal).delivered ≠ v.delivered := by
      intro h
      rw [h] at hlen
      omega
    simp [hle, hne]

/-! ## Runs -/

/-- One key besides the times, or both times and another key. -/
def Filled (d : DateSpace) : Prop := d.extras = 1 ∨ d.HasBoth ∧ 1 ≤ d.extras

theorem Filled.keysFit {d : DateSpace} (h : Filled d) : d.KeysFit := by
  unfold DateSpace.KeysFit
  split_ifs with hboth hone
  · rcases h with h | h
    · omega
    · exact h.2
  · rcases h with h | h
    · omega
    · exact absurd h.1 hboth
  · rcases h with h | h
    · omega
    · exact absurd h.1 hboth

/-- A time that is added keeps both kinds. -/
theorem Filled.of_more {d d' : DateSpace} (h : Filled d) (hextras : d'.extras = d.extras)
    (hbegin : d.beginTimer.isSome → d'.beginTimer.isSome)
    (hend : d.endTimer.isSome → d'.endTimer.isSome) : Filled d' := by
  unfold Filled DateSpace.HasBoth at *
  rw [hextras]
  rcases h with h | ⟨⟨hb, he⟩, h⟩
  · exact Or.inl h
  · exact Or.inr ⟨⟨hbegin hb, hend he⟩, h⟩

theorem setUnlessEqual_isSome {date : ℚ} {timer : Option ℚ} (h : timer.isSome) :
    (setUnlessEqual date timer).isSome := by
  unfold setUnlessEqual
  split_ifs
  · rfl
  · exact h

/-- **One event** keeps what is filled. -/
theorem step_filled (h : Filled v.dateSpace) {ev : Event} (hstep : step cal v ev = some w) :
    Filled w.dateSpace := by
  cases ev with
  | dateLabelPressed beginLabel =>
    obtain rfl := Option.some.inj hstep
    obtain ⟨-, hd | hd⟩ := dateLabelPressed_same beginLabel v
    · rw [hd]
      exact h
    · rw [hd]
      exact h.of_more rfl id fun _ => rfl
  | datepickerChange date =>
    obtain rfl := Option.some.inj hstep
    split_ifs
    · have hd := (setBeginLabelSelect_same v.beginLabelSelect { v with dateSpace := v.pick date }).2
      have hd : (v.datepickerChange date).dateSpace = v.pick date := hd
      rw [hd]
      unfold pick
      split_ifs
      · exact h.of_more rfl (fun _ => rfl) id
      · exact h.of_more rfl id fun _ => rfl
    · exact h
  | selectDefineDate tag =>
    obtain rfl := Option.some.inj hstep
    exact Or.inr ⟨⟨rfl, rfl⟩, Nat.le_add_left 1 _⟩
  | sureBtnPressed =>
    obtain rfl := Option.some.inj hstep
    rcases sureBtnPressed_cases cal v with ⟨-, heq⟩ | ⟨hle, hd, -⟩
    · rw [heq]
      exact h
    · -- it has gone through, so both times are there
      obtain ⟨hb, he⟩ := (v.dateSpace.keysFit_iff.2 h.keysFit).1 hle
      rw [hd]
      exact Or.inr ⟨⟨setUnlessEqual_isSome hb, setUnlessEqual_isSome he⟩, Nat.le_add_left 1 _⟩
  | wait time =>
    obtain rfl := Option.some.inj hstep
    split_ifs
    · exact h
    · exact h

/-- **A run** keeps it too. -/
theorem exec_filled (evs : List Event) (h : Filled v.dateSpace)
    (hv : exec (step cal) v evs = some w) : Filled w.dateSpace := by
  induction evs generalizing v with
  | nil =>
    obtain rfl := Option.some.inj hv
    exact h
  | cons ev evs ih =>
    obtain ⟨u, hu, hv⟩ := Option.bind_eq_some_iff.1 hv
    exact ih (step_filled h hu) hv

/-- **One key besides the times**, or the times and another key: a save is right in every state of
every run. -/
theorem save_right_of_filled (cal : DayCalendar) {dateSpace : DateSpace} (h : Filled dateSpace)
    (now : ℚ) (evs : List Event)
    (hv : exec (step cal) (initWithDateSpace dateSpace now) evs = some v) : SaveRight cal v :=
  (saveRight_iff cal v).2 (exec_filled evs h hv).keysFit

/-- With no key besides the times, the end can be added to the begin, and both where there is none:
then the keys are two. -/
theorem exists_both_of_no_extras (cal : DayCalendar) {dateSpace : DateSpace}
    (h : dateSpace.extras = 0) :
    ∃ evs v, exec (step cal) (initWithDateSpace dateSpace 0) evs = some v ∧
      v.dateSpace.HasBoth ∧ v.dateSpace.extras = 0 := by
  obtain ⟨first, last, key, others⟩ := dateSpace
  cases first with
  | some b =>
    cases last with
    | some e => exact ⟨[], _, rfl, ⟨rfl, rfl⟩, h⟩
    | none => exact ⟨[.dateLabelPressed false], _, rfl, ⟨rfl, rfl⟩, h⟩
  | none =>
    -- without a begin the picker starts at zero
    have hin : (initWithDateSpace ⟨none, last, key, others⟩ 0).InBounds 0 := by
      have hbound : (initWithDateSpace ⟨none, last, key, others⟩ 0).minimumDate =
          some (0 / 1000) := rfl
      refine ⟨fun minimumDate hmin => ?_, le_rfl⟩
      rw [hbound, zero_div] at hmin
      exact (Option.some.inj hmin).ge
    cases last with
    | some e =>
      refine ⟨[.datepickerChange 0], _, rfl, ?_⟩
      rw [if_pos hin]
      exact ⟨⟨rfl, rfl⟩, h⟩
    | none =>
      refine ⟨[.datepickerChange 0, .dateLabelPressed false], _, rfl, ?_⟩
      rw [if_pos hin]
      exact ⟨⟨rfl, rfl⟩, h⟩

/-- With two keys besides the times, one time is enough to be saved. -/
theorem exists_one_of_two_extras (cal : DayCalendar) {dateSpace : DateSpace}
    (h : 2 ≤ dateSpace.extras) (hboth : ¬ dateSpace.HasBoth) :
    ∃ evs v, exec (step cal) (initWithDateSpace dateSpace 0) evs = some v ∧
      ¬ v.dateSpace.HasBoth ∧ 2 ≤ v.dateSpace.extras ∧
        (v.dateSpace.beginTimer.isSome ∨ v.dateSpace.endTimer.isSome) := by
  obtain ⟨first, last, key, others⟩ := dateSpace
  cases first with
  | some b => exact ⟨[], _, rfl, hboth, h, Or.inl rfl⟩
  | none =>
    cases last with
    | some e => exact ⟨[], _, rfl, hboth, h, Or.inr rfl⟩
    | none =>
      refine ⟨[.dateLabelPressed false], _, rfl, ?_, h, Or.inr rfl⟩
      rintro ⟨hbegin, -⟩
      cases hbegin

/-- **Nothing else will do**: from any other dictionary a run reaches a state with the wrong
number of keys. -/
theorem filled_of_save_right (cal : DayCalendar) {dateSpace : DateSpace}
    (h : ∀ now evs v, exec (step cal) (initWithDateSpace dateSpace now) evs = some v →
      SaveRight cal v) : Filled dateSpace := by
  unfold Filled
  by_contra hnot
  rw [not_or, not_and] at hnot
  obtain ⟨hone, hboth⟩ := hnot
  rcases Nat.eq_zero_or_pos dateSpace.extras with hzero | hpos
  · obtain ⟨evs, v, hv, hb, hextras⟩ := exists_both_of_no_extras cal hzero
    have hfit := (saveRight_iff cal v).1 (h 0 evs v hv)
    rw [DateSpace.KeysFit, if_pos hb] at hfit
    omega
  · have hnone : ¬ dateSpace.HasBoth := fun hb => hboth hb hpos
    obtain ⟨evs, v, hv, hb, hextras, htime⟩ :=
      exists_one_of_two_extras cal (show 2 ≤ dateSpace.extras by omega) hnone
    have hfit := (saveRight_iff cal v).1 (h 0 evs v hv)
    rw [DateSpace.KeysFit, if_neg hb, if_pos htime] at hfit
    omega

/-- **The saves of a run are right exactly when the other keys make up the number at each**, and
those of all runs exactly when the dictionary begins with one key besides the times, or with both
times and another key. -/
theorem save_right_iff (cal : DayCalendar) (dateSpace : DateSpace) :
    (∀ now evs, (∀ q ∈ visited (step cal) (initWithDateSpace dateSpace now) evs,
        q.2 = .sureBtnPressed → SaveRight cal q.1) ↔
      ∀ q ∈ visited (step cal) (initWithDateSpace dateSpace now) evs,
        q.2 = .sureBtnPressed → q.1.dateSpace.KeysFit) ∧
    ((∀ now evs v, exec (step cal) (initWithDateSpace dateSpace now) evs = some v →
        SaveRight cal v) ↔
      dateSpace.extras = 1 ∨ dateSpace.HasBoth ∧ 1 ≤ dateSpace.extras) := by
  refine ⟨fun now evs => forall₂_congr fun q _ => ?_, filled_of_save_right cal, ?_⟩
  · rw [saveRight_iff]
  · intro h now evs v hv
    exact save_right_of_filled cal h now evs hv

/-- **The two times alone are not saved**; with a title and a list of buttons the begin is, with no
end. -/
theorem save_two_times :
    (∃ v, exec (step .utc) (initWithDateSpace ⟨none, none, none, 0⟩ 90000)
        [.datepickerChange 100, .dateLabelPressed false] = some v ∧
      v.dateSpace.HasBoth ∧ (v.sureBtnPressed .utc).delivered = v.delivered) ∧
    (¬ (initWithDateSpace ⟨some 0, none, some "", 1⟩ 90000).dateSpace.HasBoth ∧
      ((initWithDateSpace ⟨some 0, none, some "", 1⟩ 90000).sureBtnPressed .utc).delivered =
        [(some 0, some 86399000)]) := by
  refine ⟨⟨_, rfl, ?_, ?_⟩, ?_, ?_⟩ <;> decide +kernel

end DoubleDatePickerView

end RCSdk
