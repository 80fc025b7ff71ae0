import Mathlib.Algebra.Order.Archimedean.Basic
import Mathlib.Data.Int.ConditionallyCompleteOrder
import Mathlib.Data.Rat.Floor
import Mathlib.Order.SuccPred.IntervalSucc
import Mathlib.Tactic.Linarith
import Mathlib.Tactic.NormNum

/-!
# Days of local time

The days of a time zone, by the moments at which they begin, in seconds. Where the clock is
changed a day has 23 or 25 hours.

* `dayOf_eq_iff`: the day of an instant is the one it lies in.
* `lastSecond_iff`: 24 hours less a second after its start is in the last second of a day exactly
  when the day has 24 hours.
-/

/-- The days of a time zone. -/
structure LocalDays where
  start : ℤ → ℚ
  dayOf : ℚ → ℤ
  hours : ∀ k, start (k + 1) = start k + 23 * 3600 ∨ start (k + 1) = start k + 24 * 3600 ∨
    start (k + 1) = start k + 25 * 3600
  start_dayOf_le : ∀ t, start (dayOf t) ≤ t
  lt_start_succ : ∀ t, t < start (dayOf t + 1)

namespace LocalDays

variable (days : LocalDays) {s t : ℚ} {k : ℤ}

/-- The instants of the last second of a day. -/
def LastSecond (k : ℤ) (t : ℚ) : Prop := days.start (k + 1) - 1 ≤ t ∧ t < days.start (k + 1)

/-- The day has 24 hours. -/
def Has24 (k : ℤ) : Prop := days.start (k + 1) = days.start k + 24 * 3600

instance (k : ℤ) : Decidable (days.Has24 k) := inferInstanceAs (Decidable (_ = _))

theorem start_lt_succ (k : ℤ) : days.start k < days.start (k + 1) := by
  rcases days.hours k with h | h | h <;> linarith

theorem start_strictMono : StrictMono days.start := strictMono_int_of_lt_succ days.start_lt_succ

/-- **The day of an instant** is the one it lies in. -/
theorem dayOf_eq_iff : days.dayOf t = k ↔ days.start k ≤ t ∧ t < days.start (k + 1) := by
  constructor
  · rintro rfl
    exact ⟨days.start_dayOf_le t, days.lt_start_succ t⟩
  · rintro ⟨hle, hlt⟩
    have h₁ : k < days.dayOf t + 1 :=
      days.start_strictMono.lt_iff_lt.1 (lt_of_le_of_lt hle (days.lt_start_succ t))
    have h₂ : days.dayOf t < k + 1 :=
      days.start_strictMono.lt_iff_lt.1 (lt_of_le_of_lt (days.start_dayOf_le t) hlt)
    omega

@[simp] theorem dayOf_start (k : ℤ) : days.dayOf (days.start k) = k :=
  days.dayOf_eq_iff.2 ⟨le_rfl, days.start_lt_succ k⟩

theorem dayOf_mono (h : s ≤ t) : days.dayOf s ≤ days.dayOf t := by
  have hlt : days.start (days.dayOf s) < days.start (days.dayOf t + 1) :=
    lt_of_le_of_lt (days.start_dayOf_le s) (lt_of_le_of_lt h (days.lt_start_succ t))
  have := days.start_strictMono.lt_iff_lt.1 hlt
  omega

/-- **24 hours less a second after its start** is in the last second of a day exactly when the day
has 24 hours. -/
theorem lastSecond_iff (k : ℤ) : days.LastSecond k (days.start k + (24 * 3600 - 1)) ↔
    days.Has24 k := by
  unfold LastSecond Has24
  rcases days.hours k with h | h | h <;> rw [h]
  · exact iff_of_false (fun hin => by linarith [hin.2]) fun heq => by linarith
  · exact iff_of_true ⟨by linarith, by linarith⟩ rfl
  · exact iff_of_false (fun hin => by linarith [hin.1]) fun heq => by linarith

/-- That instant is in the day then. -/
theorem dayOf_lastSecond (h : days.LastSecond k t) : days.dayOf t = k := by
  refine days.dayOf_eq_iff.2 ⟨?_, h.2⟩
  have hle := h.1
  rcases days.hours k with hk | hk | hk <;> linarith

/-- Days of 24 hours. -/
def utc : LocalDays where
  start k := 24 * 3600 * k
  dayOf t := ⌊t / (24 * 3600)⌋
  hours k := by
    refine Or.inr (Or.inl ?_)
    push_cast
    ring
  start_dayOf_le t := by
    have h := Int.floor_le (t / (24 * 3600))
    rw [le_div_iff₀' (by norm_num)] at h
    exact h
  lt_start_succ t := by
    have h := Int.lt_floor_add_one (t / (24 * 3600))
    rw [div_lt_iff₀' (by norm_num)] at h
    push_cast
    exact h

end LocalDays
