import RCSdk.Lib.LocalDays
import RCSdk.Proof.DateSave

/-!
# Rounding to days of local time

A save moves the begin to the start of its day, and the end 24 hours less a second behind the start
of its day, which is the last second of the days of 24 hours only.

* `rounding_iff`: the end is left in the last second of its day, and a second save changes nothing,
  exactly when the day of the end has 24 hours, where the save goes through.
-/

namespace RCSdk

/-- The days of a time zone, as the picker asks for them. -/
def dayCalendar (days : LocalDays) : DayCalendar where
  startOfDay t := days.start (days.dayOf t)
  startOfDay_le := days.start_dayOf_le
  mono _ _ h := days.start_strictMono.monotone (days.dayOf_mono h)
  idem t := by rw [days.dayOf_start]

namespace DoubleDatePickerView

variable {days : LocalDays} {v : DoubleDatePickerView} {b e : ℚ}

/-- **What a save should leave of a range from `b` to `e`**, in milliseconds. -/
structure RoundsToDays (days : LocalDays) (v : DoubleDatePickerView) (b e : ℚ) : Prop where
  beginTimer : (v.sureBtnPressed (dayCalendar days)).dateSpace.beginTimer =
    some (days.start (days.dayOf (b / 1000)) * 1000)
  endTimer : ∃ e', (v.sureBtnPressed (dayCalendar days)).dateSpace.endTimer = some e' ∧
    days.LastSecond (days.dayOf (e / 1000)) (e' / 1000)
  again_beginTimer :
    ((v.sureBtnPressed (dayCalendar days)).sureBtnPressed (dayCalendar days)).dateSpace.beginTimer =
      (v.sureBtnPressed (dayCalendar days)).dateSpace.beginTimer
  again_endTimer :
    ((v.sureBtnPressed (dayCalendar days)).sureBtnPressed (dayCalendar days)).dateSpace.endTimer =
      (v.sureBtnPressed (dayCalendar days)).dateSpace.endTimer

theorem setUnlessEqual_some (date t : ℚ) : setUnlessEqual date (some t) = some (date * 1000) := by
  unfold setUnlessEqual doubleValue
  split_ifs with h
  · rfl
  · rw [not_not] at h
    rw [h, Option.getD_some, div_mul_cancel₀ _ (by norm_num)]

/-- **What a save leaves of both times.** -/
theorem sureBtnPressed_times (days : LocalDays) (hb : v.dateSpace.beginTimer = some b)
    (he : v.dateSpace.endTimer = some e) (hcount : 3 ≤ v.dateSpace.count) :
    (v.sureBtnPressed (dayCalendar days)).dateSpace.beginTimer =
        some (days.start (days.dayOf (b / 1000)) * 1000) ∧
      (v.sureBtnPressed (dayCalendar days)).dateSpace.endTimer =
        some ((days.start (days.dayOf (e / 1000)) + (24 * 3600 - 1)) * 1000) ∧
      3 ≤ (v.sureBtnPressed (dayCalendar days)).dateSpace.count := by
  rcases sureBtnPressed_cases (dayCalendar days) v with ⟨hlt, -⟩ | ⟨-, hd, -⟩
  · omega
  · rw [hd]
    have hbegin : (roundDateSpace (dayCalendar days) v.dateSpace).beginTimer =
        some (days.start (days.dayOf (b / 1000)) * 1000) := by
      unfold roundDateSpace
      dsimp only
      rw [hb, setUnlessEqual_some]
      rfl
    have hend : (roundDateSpace (dayCalendar days) v.dateSpace).endTimer =
        some ((days.start (days.dayOf (e / 1000)) + (24 * 3600 - 1)) * 1000) := by
      unfold roundDateSpace
      dsimp only
      rw [he, setUnlessEqual_some]
      rfl
    refine ⟨hbegin, hend, ?_⟩
    unfold DateSpace.count
    simp only [hbegin, hend, Option.isSome_some, if_true]
    omega

/-- A save that goes through. -/
theorem rounding_iff_has24 (days : LocalDays) (hb : v.dateSpace.beginTimer = some b)
    (he : v.dateSpace.endTimer = some e) (hcount : 3 ≤ v.dateSpace.count) :
    RoundsToDays days v b e ↔ days.Has24 (days.dayOf (e / 1000)) := by
  obtain ⟨hbegin, hend, hcount'⟩ := sureBtnPressed_times days hb he hcount
  obtain ⟨hbegin', hend', -⟩ := sureBtnPressed_times days hbegin hend hcount'
  rw [mul_div_thousand, days.dayOf_start, ← hbegin] at hbegin'
  rw [mul_div_thousand] at hend'
  rw [← days.lastSecond_iff]
  constructor
  · rintro ⟨-, ⟨e', he', hlast⟩, -, -⟩
    obtain rfl := Option.some.inj (hend.symm.trans he')
    rwa [mul_div_thousand] at hlast
  · intro hlast
    refine ⟨hbegin, ⟨_, hend, ?_⟩, hbegin', ?_⟩
    · rwa [mul_div_thousand]
    · rw [hend', days.dayOf_lastSecond hlast, hend]

/-- A save that the count of the keys turns back leaves the times as they are. -/
theorem rounding_iff_rounded (days : LocalDays) (hb : v.dateSpace.beginTimer = some b)
    (he : v.dateSpace.endTimer = some e) (hcount : v.dateSpace.count < 3) :
    RoundsToDays days v b e ↔ b = days.start (days.dayOf (b / 1000)) * 1000 ∧
      days.LastSecond (days.dayOf (e / 1000)) (e / 1000) := by
  have hsame : v.sureBtnPressed (dayCalendar days) = v := if_pos hcount
  constructor
  · rintro ⟨hbegin, ⟨e', he', hlast⟩, -, -⟩
    rw [hsame, hb] at hbegin
    rw [hsame, he] at he'
    obtain rfl := Option.some.inj he'
    exact ⟨Option.some.inj hbegin, hlast⟩
  · rintro ⟨hbegin, hlast⟩
    refine ⟨?_, ⟨e, ?_, hlast⟩, ?_, ?_⟩
    · rw [hsame, hb, ← hbegin]
    · rw [hsame, he]
    · rw [hsame, hsame]
    · rw [hsame, hsame]

/-- **A save rounds both ends to their days, once and for all, exactly when** it goes through and
the day of the end has 24 hours, or it does not and there is nothing to round. -/
theorem rounding_iff (days : LocalDays) (v : DoubleDatePickerView) (b e : ℚ)
    (hb : v.dateSpace.beginTimer = some b) (he : v.dateSpace.endTimer = some e) :
    RoundsToDays days v b e ↔
      3 ≤ v.dateSpace.count ∧ days.Has24 (days.dayOf (e / 1000)) ∨
        v.dateSpace.count < 3 ∧ b = days.start (days.dayOf (b / 1000)) * 1000 ∧
          days.LastSecond (days.dayOf (e / 1000)) (e / 1000) := by
  rcases Nat.lt_or_ge v.dateSpace.count 3 with hlt | hge
  · rw [rounding_iff_rounded days hb he hlt, or_iff_right fun h => absurd h.1 (Nat.not_le.2 hlt),
      and_iff_right hlt]
  · rw [rounding_iff_has24 days hb he hge, or_iff_left fun h => absurd h.1 (Nat.not_lt.2 hge),
      and_iff_right hge]

/-- A range within the first day of 1970, with a list of buttons. -/
def firstHours : DoubleDatePickerView := initWithDateSpace ⟨some 1000, some 3600000, none, 1⟩ 7200

/-- In UTC. -/
theorem rounding_utc : RoundsToDays .utc firstHours 1000 3600000 :=
  (rounding_iff .utc firstHours 1000 3600000 rfl rfl).2
    (Or.inl ⟨by decide +kernel, by decide +kernel⟩)

/-- Days of 24 hours, but the first of 1970 of 23. -/
def springForward : LocalDays where
  start k := 24 * 3600 * k - if 0 < k then 3600 else 0
  dayOf t := if t < 23 * 3600 then ⌊t / (24 * 3600)⌋ else ⌊(t + 3600) / (24 * 3600)⌋
  hours k := by
    rcases lt_trichotomy k 0 with h | rfl | h
    · refine Or.inr (Or.inl ?_)
      rw [if_neg (by omega), if_neg (by omega)]
      push_cast
      ring
    · refine Or.inl ?_
      norm_num
    · refine Or.inr (Or.inl ?_)
      rw [if_pos (by omega), if_pos h]
      push_cast
      ring
  start_dayOf_le t := by
    by_cases ht : t < 23 * 3600
    · have hneg : ¬ 0 < ⌊t / (24 * 3600)⌋ := by
        rw [Int.floor_pos, not_le, div_lt_one (by norm_num)]
        linarith
      simp only [if_pos ht, if_neg hneg, sub_zero]
      exact LocalDays.utc.start_dayOf_le t
    · have hpos : 0 < ⌊(t + 3600) / (24 * 3600)⌋ := by
        rw [Int.floor_pos, one_le_div (by norm_num)]
        linarith
      simp only [if_neg ht, if_pos hpos]
      rw [sub_le_iff_le_add]
      exact LocalDays.utc.start_dayOf_le (t + 3600)
  lt_start_succ t := by
    by_cases ht : t < 23 * 3600
    · by_cases hpos : 0 < ⌊t / (24 * 3600)⌋ + 1
      · -- the next day begins an hour early, and the time is before that
        have hle : (1 : ℚ) ≤ ((⌊t / (24 * 3600)⌋ + 1 : ℤ) : ℚ) := by exact_mod_cast hpos
        simp only [if_pos ht, if_pos hpos]
        linarith
      · simp only [if_pos ht, if_neg hpos, sub_zero]
        exact LocalDays.utc.lt_start_succ t
    · have hpos : 0 < ⌊(t + 3600) / (24 * 3600)⌋ + 1 := by
        have : 0 < ⌊(t + 3600) / (24 * 3600)⌋ := by
          rw [Int.floor_pos, one_le_div (by norm_num)]
          linarith
        omega
      simp only [if_neg ht, if_pos hpos]
      rw [lt_sub_iff_add_lt]
      exact LocalDays.utc.lt_start_succ (t + 3600)

/-- **On the short day** the end is left in the next day, and moves again. -/
theorem rounding_short_day : ¬ RoundsToDays springForward firstHours 1000 3600000 ∧
    (firstHours.sureBtnPressed (dayCalendar springForward)).dateSpace.endTimer = some 86399000 ∧
    springForward.start 1 = 82800 ∧
    ((firstHours.sureBtnPressed (dayCalendar springForward)).sureBtnPressed
      (dayCalendar springForward)).dateSpace.endTimer = some 169199000 := by
  refine ⟨fun h => ?_, by decide +kernel, by decide +kernel, by decide +kernel⟩
  have hmoved : ((firstHours.sureBtnPressed (dayCalendar springForward)).sureBtnPressed
      (dayCalendar springForward)).dateSpace.endTimer ≠
        (firstHours.sureBtnPressed (dayCalendar springForward)).dateSpace.endTimer := by
    decide +kernel
  exact hmoved h.again_endTimer

end DoubleDatePickerView

end RCSdk
