import RCSdk.Lib.Run
import RCSdk.Spec.DoubleDatePicker

/-!
# The order of the two dates

The picker never reports a date before its lower bound, which is the begin time, so an end can only
be picked behind the begin. Nothing keeps the begin before an end that was picked earlier: both
branches of `setBeginLabelSelect:` set the same lower bound, and the upper bound stays.

* `dates_ordered_iff`: in every run the block is given ordered times, and a save would give it
  ordered times, exactly when no date is picked on the wrong side of the other end.
* `begin_picked_after_end`: the begin is picked again, behind the end.
-/

namespace RCSdk

open Trans

namespace DateSpace

/-- The two ends as the view reads them, in seconds. -/
def beginDate (d : DateSpace) : ℚ := doubleValue d.beginTimer / 1000

def endDate (d : DateSpace) : ℚ := doubleValue d.endTimer / 1000

/-- The begin of the first day is not after the last second of the last day. -/
def DaysInOrder (cal : DayCalendar) (d : DateSpace) : Prop :=
  cal.startOfDay d.beginDate ≤ cal.startOfDay d.endDate + (24 * 3600 - 1)

end DateSpace

namespace DoubleDatePickerView

/-- The times of a call of the block are in order. -/
def PairInOrder (p : Option ℚ × Option ℚ) : Prop := doubleValue p.1 ≤ doubleValue p.2

/-- **All times the block was given are in order**, and so are those a save would give it now. -/
structure Ordered (cal : DayCalendar) (v : DoubleDatePickerView) : Prop where
  delivered : ∀ p ∈ v.delivered, PairInOrder p
  save : ∀ p ∈ (v.sureBtnPressed cal).delivered, PairInOrder p

/-- **The condition on a date that is picked**, if there are keys enough for a save: the start of the
begin's day is at most the start of the end's day and 86399 seconds, for the two dates as they are
with the new one. Where the end's day has 23 hours, that lets the day behind it pass as well. -/
def PickOK (cal : DayCalendar) (v : DoubleDatePickerView) (ev : Event) : Prop :=
  match ev with
  | .datepickerChange date => v.InBounds date → 3 ≤ (v.pick date).count →
      if v.beginLabelSelect then
        cal.startOfDay date ≤ cal.startOfDay v.dateSpace.endDate + (24 * 3600 - 1)
      else cal.startOfDay v.dateSpace.beginDate ≤ cal.startOfDay date + (24 * 3600 - 1)
  | _ => True

/-- What holds in every run: nothing lies in the future. -/
structure Past (v : DoubleDatePickerView) : Prop where
  now : 0 ≤ v.now
  beginDate : v.dateSpace.beginDate ≤ v.now
  maximumDate : v.maximumDate ≤ v.now

/-! ## Rounding to days -/

theorem mul_div_thousand (t : ℚ) : t * 1000 / 1000 = t := mul_div_cancel_right₀ t (by norm_num)

theorem setUnlessEqual_eq (date : ℚ) (timer : Option ℚ) :
    doubleValue (setUnlessEqual date timer) / 1000 = date := by
  unfold setUnlessEqual
  split
  · exact mul_div_thousand date
  · rename_i h
    exact (not_not.1 h).symm

/-- What `sureBtnPressed` makes of the two ends. -/
theorem roundDateSpace_begin (cal : DayCalendar) (d : DateSpace) :
    (roundDateSpace cal d).beginDate = cal.startOfDay d.beginDate := setUnlessEqual_eq _ _

theorem roundDateSpace_end (cal : DayCalendar) (d : DateSpace) :
    (roundDateSpace cal d).endDate = cal.startOfDay d.endDate + (24 * 3600 - 1) :=
  setUnlessEqual_eq _ _

theorem pairInOrder_iff (d : DateSpace) :
    PairInOrder (d.beginTimer, d.endTimer) ↔ d.beginDate ≤ d.endDate := by
  unfold PairInOrder DateSpace.beginDate DateSpace.endDate
  exact (div_le_div_iff_of_pos_right (by norm_num)).symm

variable {cal : DayCalendar} {v w : DoubleDatePickerView}

/-- **Order in terms of the two days**, which count when a save would call the block. -/
theorem ordered_iff : Ordered cal v ↔
    (∀ p ∈ v.delivered, PairInOrder p) ∧ (3 ≤ v.dateSpace.count → v.dateSpace.DaysInOrder cal) := by
  have hsave : (∀ p ∈ (v.sureBtnPressed cal).delivered, PairInOrder p) ↔
      (∀ p ∈ v.delivered, PairInOrder p) ∧
        (3 ≤ v.dateSpace.count → v.dateSpace.DaysInOrder cal) := by
    unfold sureBtnPressed
    by_cases hc : v.dateSpace.count < 3
    · rw [if_pos hc]
      exact (and_iff_left fun h => absurd hc (Nat.not_lt.2 h)).symm
    · rw [if_neg hc]
      have hpair : PairInOrder ((roundDateSpace cal v.dateSpace).beginTimer,
          (roundDateSpace cal v.dateSpace).endTimer) ↔ v.dateSpace.DaysInOrder cal := by
        rw [pairInOrder_iff, roundDateSpace_begin, roundDateSpace_end]
        rfl
      simp only [deliver, List.forall_mem_append, List.forall_mem_singleton, hpair,
        Nat.not_lt.1 hc, true_imp_iff]
  constructor
  · exact fun h => hsave.1 h.save
  · exact fun h => ⟨h.1, hsave.2 h⟩

/-- A state with the same times delivered and days in order. -/
theorem ordered_of_days (h : Ordered cal v) (hd : w.delivered = v.delivered)
    (hs : w.dateSpace.DaysInOrder cal) : Ordered cal w :=
  ordered_iff.2 ⟨hd ▸ h.delivered, fun _ => hs⟩

theorem ordered_congr (h : Ordered cal v) (hd : w.delivered = v.delivered)
    (hs : w.dateSpace = v.dateSpace) : Ordered cal w := by
  rw [ordered_iff] at h ⊢
  rw [hd, hs]
  exact h

/-! ## What the operations leave -/

/-- Nothing but the label and the lower bound of the picker changes. -/
structure SameTimes (v w : DoubleDatePickerView) : Prop where
  delivered : w.delivered = v.delivered
  now : w.now = v.now
  maximumDate : w.maximumDate = v.maximumDate

theorem setBeginLabelSelect_same (b : Bool) (v : DoubleDatePickerView) :
    SameTimes v (v.setBeginLabelSelect b) ∧ (v.setBeginLabelSelect b).dateSpace = v.dateSpace := by
  cases b <;> exact ⟨⟨rfl, rfl, rfl⟩, rfl⟩

theorem dateLabelPressed_same (b : Bool) (v : DoubleDatePickerView) :
    SameTimes v (v.dateLabelPressed b) ∧ ((v.dateLabelPressed b).dateSpace = v.dateSpace ∨
      (v.dateLabelPressed b).dateSpace = { v.dateSpace with endTimer := some (v.now * 1000) }) := by
  cases b with
  | true => exact ⟨⟨rfl, rfl, rfl⟩, Or.inl rfl⟩
  | false =>
    simp only [dateLabelPressed]
    split
    · exact ⟨⟨rfl, rfl, rfl⟩, Or.inr rfl⟩
    · exact ⟨⟨rfl, rfl, rfl⟩, Or.inl rfl⟩

theorem Past.of_same (hp : Past v) (h : SameTimes v w) (hb : w.dateSpace.beginDate ≤ v.now) :
    Past w := by
  refine ⟨?_, ?_, ?_⟩
  · rw [h.now]; exact hp.now
  · rw [h.now]; exact hb
  · rw [h.maximumDate, h.now]; exact hp.maximumDate

/-- `int64OfDouble` keeps the order, and does not lift a time after 1970. -/
theorem int64OfDouble_mono {x y : ℚ} (h : x ≤ y) : int64OfDouble x ≤ int64OfDouble y := by
  unfold int64OfDouble
  by_cases hx : 0 ≤ x
  · rw [if_pos hx, if_pos (hx.trans h)]
    exact Int.floor_mono h
  · rw [if_neg hx]
    split
    · rename_i hy
      have h1 : ⌈x⌉ ≤ 0 := Int.ceil_le.2 (by simpa using (not_le.1 hx).le)
      exact h1.trans (Int.floor_nonneg.2 hy)
    · exact Int.ceil_mono h

theorem int64OfDouble_le {x : ℚ} (h : 0 ≤ x) : (int64OfDouble x : ℚ) ≤ x := by
  unfold int64OfDouble
  rw [if_pos h]
  exact Int.floor_le x

theorem quickRange_nonneg (tag : ℕ) : 0 ≤ (quickRange tag).1 := by
  unfold quickRange
  split_ifs <;> decide

/-- The two times of a quick button. -/
theorem quick_le (v : DoubleDatePickerView) (tag : ℕ) :
    int64OfDouble ((v.now - (quickRange tag).1 * 24 * 60 * 60) * 1000) ≤
      int64OfDouble (v.now * 1000) := by
  refine int64OfDouble_mono ?_
  have h : (0 : ℚ) ≤ (quickRange tag).1 := by exact_mod_cast quickRange_nonneg tag
  nlinarith

/-! ## One step -/

/-- A step after which the days are in order, whatever comes of the times delivered. -/
theorem daysInOrder_of_le {d : DateSpace} (h : d.beginDate ≤ d.endDate) : d.DaysInOrder cal := by
  have := cal.mono _ _ h
  unfold DateSpace.DaysInOrder
  linarith

/-- A label is tapped: an end that was missing is today, which no begin is after. -/
theorem dateLabelPressed_step (hp : Past v) (ho : Ordered cal v) (b : Bool) :
    Past (v.dateLabelPressed b) ∧ Ordered cal (v.dateLabelPressed b) := by
  obtain ⟨hsame, hd | hd⟩ := dateLabelPressed_same b v
  · exact ⟨hp.of_same hsame (hd ▸ hp.beginDate), ordered_congr ho hsame.delivered hd⟩
  · have hbegin : (v.dateLabelPressed b).dateSpace.beginDate = v.dateSpace.beginDate := by
      rw [hd]
      rfl
    have hend : (v.dateLabelPressed b).dateSpace.endDate = v.now := by
      rw [hd]
      exact mul_div_thousand v.now
    refine ⟨hp.of_same hsame (hbegin ▸ hp.beginDate), ordered_of_days ho hsame.delivered ?_⟩
    refine daysInOrder_of_le ?_
    rw [hbegin, hend]
    exact hp.beginDate

/-- The two ends after a date was picked. -/
theorem pick_dates (date : ℚ) (v : DoubleDatePickerView) :
    ((v.pick date).beginDate, (v.pick date).endDate) =
      if v.beginLabelSelect then (date, v.dateSpace.endDate) else (v.dateSpace.beginDate, date) := by
  unfold pick
  split
  · exact Prod.ext (mul_div_thousand date) rfl
  · exact Prod.ext rfl (mul_div_thousand date)

/-- **A date is picked**: the days stay in order exactly when the condition holds. -/
theorem datepickerChange_step (hp : Past v) (ho : Ordered cal v) {date : ℚ}
    (hd : v.InBounds date) :
    Past (v.datepickerChange date) ∧
      (Ordered cal (v.datepickerChange date) ↔ PickOK cal v (.datepickerChange date)) := by
  have hdates := pick_dates date v
  obtain ⟨hsame, hds⟩ := setBeginLabelSelect_same v.beginLabelSelect
    { v with dateSpace := v.pick date }
  have hsame : SameTimes v (v.datepickerChange date) := ⟨hsame.1, hsame.2, hsame.3⟩
  have hds : (v.datepickerChange date).dateSpace = v.pick date := hds
  constructor
  · refine hp.of_same hsame ?_
    rw [hds]
    cases hb : v.beginLabelSelect with
    | true =>
      rw [hb, if_pos rfl, Prod.mk.injEq] at hdates
      rw [hdates.1]
      exact hd.2.trans hp.maximumDate
    | false =>
      rw [hb, if_neg Bool.false_ne_true, Prod.mk.injEq] at hdates
      rw [hdates.1]
      exact hp.beginDate
  · rw [ordered_iff, hsame.delivered, and_iff_right ho.delivered, hds]
    unfold PickOK DateSpace.DaysInOrder
    simp only [hd, true_imp_iff]
    cases hb : v.beginLabelSelect with
    | true =>
      rw [hb, if_pos rfl, Prod.mk.injEq] at hdates
      rw [hdates.1, hdates.2, if_pos rfl]
    | false =>
      rw [hb, if_neg Bool.false_ne_true, Prod.mk.injEq] at hdates
      rw [hdates.1, hdates.2, if_neg Bool.false_ne_true]

/-- A quick button. -/
theorem selectDefineDate_step (hp : Past v) (ho : Ordered cal v) (tag : ℕ) :
    Past (v.selectDefineDate tag) ∧ Ordered cal (v.selectDefineDate tag) := by
  have hle := quick_le v tag
  have hmax : (int64OfDouble (v.now * 1000) : ℚ) ≤ v.now * 1000 :=
    int64OfDouble_le (mul_nonneg hp.now (by norm_num))
  have hpair : (v.selectDefineDate tag).dateSpace.beginDate ≤
      (v.selectDefineDate tag).dateSpace.endDate :=
    div_le_div_of_nonneg_right (Int.cast_le.2 hle) (by norm_num)
  have hend : (v.selectDefineDate tag).dateSpace.endDate ≤ v.now := by
    have h := div_le_div_of_nonneg_right hmax (show (0 : ℚ) ≤ 1000 by norm_num)
    rwa [mul_div_thousand] at h
  refine ⟨⟨hp.now, hpair.trans hend, hp.maximumDate⟩, ordered_iff.2 ⟨?_, fun _ => ?_⟩⟩
  · refine List.forall_mem_append.2 ⟨ho.delivered, ?_⟩
    rw [List.forall_mem_singleton]
    exact (pairInOrder_iff _).2 hpair
  · exact daysInOrder_of_le hpair

/-- A save. -/
theorem sureBtnPressed_step (hp : Past v) (ho : Ordered cal v) :
    Past (v.sureBtnPressed cal) ∧ Ordered cal (v.sureBtnPressed cal) := by
  by_cases hc : v.dateSpace.count < 3
  · have he : v.sureBtnPressed cal = v := by rw [sureBtnPressed, if_pos hc]
    rw [he]
    exact ⟨hp, ho⟩
  · have hdays := (ordered_iff.1 ho).2 (Nat.not_lt.1 hc)
    have hds : (v.sureBtnPressed cal).dateSpace =
        { roundDateSpace cal v.dateSpace with dateKey := some "" } := by
      rw [sureBtnPressed, if_neg hc]
      rfl
    have hbegin : (v.sureBtnPressed cal).dateSpace.beginDate = cal.startOfDay v.dateSpace.beginDate := by
      rw [hds]
      exact roundDateSpace_begin cal v.dateSpace
    have hend : (v.sureBtnPressed cal).dateSpace.endDate =
        cal.startOfDay v.dateSpace.endDate + (24 * 3600 - 1) := by
      rw [hds]
      exact roundDateSpace_end cal v.dateSpace
    have hsame : (v.sureBtnPressed cal).now = v.now ∧
        (v.sureBtnPressed cal).maximumDate = v.maximumDate := by
      rw [sureBtnPressed, if_neg hc]
      exact ⟨rfl, rfl⟩
    refine ⟨⟨?_, ?_, ?_⟩, ordered_iff.2 ⟨ho.save, fun _ => ?_⟩⟩
    · rw [hsame.1]; exact hp.now
    · rw [hsame.1, hbegin]
      exact (cal.startOfDay_le _).trans hp.beginDate
    · rw [hsame.1, hsame.2]; exact hp.maximumDate
    · refine daysInOrder_of_le ?_
      rw [hbegin, hend]
      exact hdays

theorem step_ordered (hp : Past v) (ho : Ordered cal v) (ev : Event) :
    ∃ w, step cal v ev = some w ∧ Past w ∧ (Ordered cal w ↔ PickOK cal v ev) := by
  cases ev with
  | dateLabelPressed b =>
    obtain ⟨hp', ho'⟩ := dateLabelPressed_step hp ho b
    exact ⟨_, rfl, hp', iff_of_true ho' trivial⟩
  | datepickerChange date =>
    by_cases hd : v.InBounds date
    · obtain ⟨hp', ho'⟩ := datepickerChange_step hp ho hd
      exact ⟨_, rfl, by rw [if_pos hd]; exact hp', by rw [if_pos hd]; exact ho'⟩
    · refine ⟨v, by rw [step, if_neg hd], hp, iff_of_true ho fun h => absurd h hd⟩
  | selectDefineDate tag =>
    obtain ⟨hp', ho'⟩ := selectDefineDate_step hp ho tag
    exact ⟨_, rfl, hp', iff_of_true ho' trivial⟩
  | sureBtnPressed =>
    obtain ⟨hp', ho'⟩ := sureBtnPressed_step hp ho
    exact ⟨_, rfl, hp', iff_of_true ho' trivial⟩
  | wait time =>
    by_cases ht : 0 ≤ time
    · refine ⟨{ v with now := v.now + time }, by rw [step, if_pos ht], ⟨?_, ?_, ?_⟩, ?_⟩
      · exact add_nonneg hp.now ht
      · exact hp.beginDate.trans (le_add_of_nonneg_right ht)
      · exact hp.maximumDate.trans (le_add_of_nonneg_right ht)
      · exact iff_of_true (ordered_congr ho rfl rfl) trivial
    · exact ⟨v, by rw [step, if_neg ht], hp, iff_of_true ho trivial⟩

/-- A view as the application opens it: no times in the dictionary, and a clock after 1970. -/
structure Opening where
  dateKey : Option String
  others : ℕ
  now : ℚ
  now_nonneg : 0 ≤ now

def Opening.view (o : Opening) : DoubleDatePickerView :=
  initWithDateSpace ⟨none, none, o.dateKey, o.others⟩ o.now

theorem Opening.past (o : Opening) : Past o.view := by
  refine ⟨o.now_nonneg, ?_, le_rfl⟩
  show (0 : ℚ) / 1000 ≤ o.now
  rw [zero_div]
  exact o.now_nonneg

theorem Opening.ordered (o : Opening) : Ordered cal o.view :=
  ordered_iff.2 ⟨fun _ hp => absurd hp List.not_mem_nil, fun _ => daysInOrder_of_le le_rfl⟩

/-- **The times the block is given are in order throughout a run, and so are those a save would
give it at any moment, exactly when every date that is picked meets the condition.** -/
theorem dates_ordered_iff (cal : DayCalendar) (o : Opening) (evs : List Event) :
    (∃ w, exec (step cal) o.view evs = some w ∧
      (∀ q ∈ visited (step cal) o.view evs, Ordered cal q.1) ∧ Ordered cal w) ↔
      ∀ q ∈ visited (step cal) o.view evs, PickOK cal q.1 q.2 := by
  rw [exec_always_iff (I := Past) (A := fun _ _ => True)
    (fun v ev hp _ ho => step_ordered hp ho ev) evs o.past fun _ _ => trivial]
  exact and_iff_right o.ordered

/-- A view with buttons at its bottom, opened on the 31st of January 1970. -/
def bottomBtn : Opening := ⟨none, 1, 2592000, by norm_num⟩

/-- The begin is picked on the 6th and the end on the 11th, then the begin again, on the 21st. -/
def beginAgain : List Event :=
  [.datepickerChange 432000, .dateLabelPressed false, .datepickerChange 864000,
    .dateLabelPressed true, .datepickerChange 1728000, .sureBtnPressed]

/-- The block is given the 21st as the begin and the 11th as the end. -/
theorem begin_picked_after_end :
    (exec (step .utc) bottomBtn.view beginAgain).map (·.delivered) =
        some [(some 1728000000, some 950399000)] ∧
      ¬ PairInOrder (some 1728000000, some 950399000) := by
  constructor
  · decide +kernel
  · unfold PairInOrder doubleValue
    norm_num

end DoubleDatePickerView

end RCSdk
