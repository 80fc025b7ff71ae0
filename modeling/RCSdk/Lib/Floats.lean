import Mathlib.Algebra.Order.Field.Power
import Mathlib.Algebra.Order.Ring.Int
import Mathlib.Data.Int.Log
import Mathlib.Data.Rat.Floor
import Mathlib.Tactic.Linarith
import Mathlib.Tactic.Ring

/-!
# Rounding to binary floating point

`round p least x` is the multiple of a power of two nearest to `x` that has at most `p` binary
places and none behind `2 ^ least`, the even one of two that are as near. There is no greatest
number.

* `round_mul_zpow`: a number of `p` places is left as it is, so rounding twice rounds once
  (`round_round`).
* `round_nonneg`, `round_nonpos`, `round_pos`: the sign is kept, unless the number vanishes.
* `abs_round_sub_le`: the error is at most half a unit in the last place.
-/

namespace Floats

/-- The nearest integer, the even one of two that are as near. -/
def nearest (x : ℚ) : ℤ :=
  if 2 * Int.fract x < 1 ∨ 2 * Int.fract x = 1 ∧ Even ⌊x⌋ then ⌊x⌋ else ⌊x⌋ + 1

/-- The exponent of the last of `p` places. -/
def exponent (p : ℕ) (least : ℤ) (x : ℚ) : ℤ := max (Int.log 2 |x| + 1 - p) least

def round (p : ℕ) (least : ℤ) (x : ℚ) : ℚ :=
  nearest (x / 2 ^ exponent p least x) * 2 ^ exponent p least x

/-! ## The nearest integer -/

theorem nearest_intCast (n : ℤ) : nearest n = n := by
  simp [nearest]

theorem floor_le_nearest (x : ℚ) : ⌊x⌋ ≤ nearest x := by
  unfold nearest
  split_ifs <;> omega

theorem nearest_le_floor (x : ℚ) : nearest x ≤ ⌊x⌋ + 1 := by
  unfold nearest
  split_ifs <;> omega

theorem abs_nearest_sub_le (x : ℚ) : |(nearest x : ℚ) - x| ≤ 1 / 2 := by
  have hx := Int.floor_add_fract x
  have h0 := Int.fract_nonneg x
  unfold nearest
  split_ifs with h
  · have hle : 2 * Int.fract x ≤ 1 := h.elim le_of_lt fun h => h.1.le
    rw [abs_le]
    constructor <;> linarith
  · have hle : 1 ≤ 2 * Int.fract x := not_lt.1 fun hlt => h (Or.inl hlt)
    have h1 := Int.fract_lt_one x
    push_cast
    rw [abs_le]
    constructor <;> linarith

/-- A number below an integer in size is not rounded beyond it. -/
theorem abs_nearest_le {x : ℚ} {n : ℤ} (h : |x| < n) : |nearest x| ≤ n := by
  obtain ⟨hl, hu⟩ := abs_lt.1 h
  have hfloor : ⌊x⌋ < n := Int.floor_lt.2 hu
  have hfloor' : -n ≤ ⌊x⌋ := Int.le_floor.2 (by push_cast; exact hl.le)
  have h₁ := floor_le_nearest x
  have h₂ := nearest_le_floor x
  rw [abs_le]
  omega

/-! ## Rounding -/

variable (p : ℕ) (least : ℤ)

theorem two_zpow_pos (e : ℤ) : (0 : ℚ) < 2 ^ e := zpow_pos two_pos e

@[simp] theorem round_zero : round p least 0 = 0 := by
  simp [round, nearest]

/-- A number takes at most `p` places in front of its last one. -/
theorem abs_lt_two_zpow (x : ℚ) : |x| < 2 ^ (exponent p least x + p) := by
  refine (Int.lt_zpow_succ_log_self one_lt_two |x|).trans_le ?_
  have h : Int.log 2 |x| + 1 ≤ exponent p least x + p := by
    have := le_max_left (Int.log 2 |x| + 1 - p) least
    unfold exponent
    omega
  exact_mod_cast zpow_le_zpow_right₀ (one_le_two (α := ℚ)) h

/-- The exponent of a number is not above that of its last place, one for `2 ^ p` units of it. -/
theorem exponent_le_of_abs_lt {x : ℚ} {e : ℤ} (hx : x ≠ 0) (he : least ≤ e)
    (h : |x| < 2 ^ (e + p)) : exponent p least x ≤ e := by
  have hlog : Int.log 2 |x| < e + p := by
    rw [← Int.lt_zpow_iff_log_lt one_lt_two (abs_pos.2 hx)]
    exact_mod_cast h
  exact max_le (by omega) he

/-- **A number of at most `p` places is left as it is.** -/
theorem round_mul_zpow {m e : ℤ} (hm : |m| < 2 ^ p) (he : least ≤ e) :
    round p least (m * 2 ^ e) = m * 2 ^ e := by
  rcases eq_or_ne m 0 with rfl | hm0
  · simp
  set x : ℚ := m * 2 ^ e
  have hx : x ≠ 0 := mul_ne_zero (Int.cast_ne_zero.2 hm0) (two_zpow_pos e).ne'
  have habs : |x| < 2 ^ (e + p) := by
    rw [abs_mul, abs_of_pos (two_zpow_pos e), zpow_add₀ two_ne_zero, zpow_natCast, mul_comm]
    exact mul_lt_mul_of_pos_left (by exact_mod_cast hm) (two_zpow_pos e)
  have hle := exponent_le_of_abs_lt p least hx he habs
  have hint : x / 2 ^ exponent p least x = (m * 2 ^ (e - exponent p least x).toNat : ℤ) := by
    push_cast
    rw [← zpow_natCast, Int.toNat_of_nonneg (by omega), zpow_sub₀ two_ne_zero, mul_div_assoc]
  rw [round, hint, nearest_intCast, ← hint, div_mul_cancel₀ _ (two_zpow_pos _).ne']

/-- **Rounding twice rounds once.** -/
theorem round_round (hp : 0 < p) (x : ℚ) : round p least (round p least x) = round p least x := by
  set e := exponent p least x
  set m := nearest (x / 2 ^ e)
  have he : least ≤ e := le_max_right _ _
  have hm : |m| ≤ 2 ^ p := by
    refine abs_nearest_le (n := 2 ^ p) ?_
    rw [abs_div, abs_of_pos (two_zpow_pos e), div_lt_iff₀ (two_zpow_pos e)]
    have := abs_lt_two_zpow p least x
    rw [add_comm, zpow_add₀ two_ne_zero, zpow_natCast] at this
    exact_mod_cast this
  change round p least (m * 2 ^ e) = m * 2 ^ e
  rcases hm.lt_or_eq with hlt | heq
  · exact round_mul_zpow p least hlt he
  · -- rounded up to one place more, the last of which is zero
    obtain ⟨k, hk⟩ : (2 : ℤ) ∣ m := by
      rw [← dvd_abs, heq]
      exact dvd_pow_self 2 hp.ne'
    have hcarry : (m : ℚ) * 2 ^ e = k * 2 ^ (e + 1) := by
      rw [hk, zpow_add₀ two_ne_zero]
      push_cast
      ring
    rw [hcarry]
    refine round_mul_zpow p least ?_ (by omega)
    have hpow : (0 : ℤ) < 2 ^ p := by positivity
    rw [hk, abs_mul, abs_two] at heq
    omega

theorem round_nonneg {x : ℚ} (hx : 0 ≤ x) : 0 ≤ round p least x := by
  have hfloor : 0 ≤ ⌊x / 2 ^ exponent p least x⌋ :=
    Int.floor_nonneg.2 (div_nonneg hx (two_zpow_pos _).le)
  exact mul_nonneg (by exact_mod_cast hfloor.trans (floor_le_nearest _)) (two_zpow_pos _).le

theorem round_nonpos {x : ℚ} (hx : x ≤ 0) : round p least x ≤ 0 := by
  rcases hx.lt_or_eq with hlt | rfl
  · have hfloor : ⌊x / 2 ^ exponent p least x⌋ < 0 :=
      Int.floor_lt.2 (by exact_mod_cast div_neg_of_neg_of_pos hlt (two_zpow_pos _))
    have hle := nearest_le_floor (x / 2 ^ exponent p least x)
    have hnearest : nearest (x / 2 ^ exponent p least x) ≤ 0 := by omega
    exact mul_nonpos_of_nonpos_of_nonneg (by exact_mod_cast hnearest) (two_zpow_pos _).le
  · exact (round_zero p least).le

/-- **A number that is not below the least place does not vanish.** -/
theorem round_pos (hp : 0 < p) {x : ℚ} (hx : 2 ^ least ≤ x) : 0 < round p least x := by
  have hpos : 0 < x := (two_zpow_pos least).trans_le hx
  have hle : (2 : ℚ) ^ exponent p least x ≤ x := by
    rcases le_total (Int.log 2 |x| + 1 - p) least with h | h
    · rwa [exponent, max_eq_right h]
    · rw [exponent, max_eq_left h]
      have hlog := Int.zpow_log_le_self one_lt_two (abs_pos.2 hpos.ne')
      rw [abs_of_pos hpos] at hlog ⊢
      have hplace : Int.log 2 x + 1 - p ≤ Int.log 2 x := by omega
      exact (zpow_le_zpow_right₀ one_le_two hplace).trans (by exact_mod_cast hlog)
  have hfloor : 1 ≤ ⌊x / 2 ^ exponent p least x⌋ :=
    Int.le_floor.2 (by rw [Int.cast_one, le_div_iff₀ (two_zpow_pos _), one_mul]; exact hle)
  exact mul_pos (by exact_mod_cast hfloor.trans (floor_le_nearest _)) (two_zpow_pos _)

/-- **The error is at most half a unit in the last place**: relative to the number, or half the
least place. -/
theorem abs_round_sub_le (x : ℚ) :
    |round p least x - x| ≤ max (|x| / 2 ^ p) (2 ^ least / 2) := by
  set e := exponent p least x
  have hulp : |round p least x - x| ≤ 2 ^ e / 2 := by
    have hx : round p least x - x = (nearest (x / 2 ^ e) - x / 2 ^ e) * 2 ^ e := by
      rw [sub_mul, div_mul_cancel₀ _ (two_zpow_pos e).ne']
      rfl
    rw [hx, abs_mul, abs_of_pos (two_zpow_pos e)]
    have := mul_le_mul_of_nonneg_right (abs_nearest_sub_le (x / 2 ^ e)) (two_zpow_pos e).le
    linarith
  rcases eq_or_ne x 0 with rfl | hx
  · simp
  refine hulp.trans ?_
  rcases le_total (Int.log 2 |x| + 1 - p) least with h | h
  · exact le_max_of_le_right (by rw [show e = least from max_eq_right h])
  · refine le_max_of_le_left ?_
    rw [show e = Int.log 2 |x| + 1 - p from max_eq_left h, zpow_sub₀ two_ne_zero,
      zpow_add₀ two_ne_zero, zpow_natCast, zpow_one]
    have := Int.zpow_log_le_self one_lt_two (abs_pos.2 hx)
    rw [div_right_comm, mul_div_cancel_right₀ _ two_ne_zero]
    exact div_le_div_of_nonneg_right (by exact_mod_cast this) (by positivity)

end Floats
