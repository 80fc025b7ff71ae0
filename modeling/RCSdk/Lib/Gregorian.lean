import Mathlib.Order.Defs.LinearOrder
import Mathlib.Data.List.Range
import Mathlib.Order.Basic
import Mathlib.Algebra.Group.Nat.Defs

/-!
# Gregorian dates

The dates of the Gregorian calendar in the common era, ordered by year, month and day, and
their decimal text.

* `Date.Valid`: the dates that exist, with the leap years.
* `value_pad`: zero-padded decimal text is read back.
-/

namespace Gregorian

/-- The years with a 29th of February. -/
abbrev IsLeap (year : ℤ) : Prop := year % 400 = 0 ∨ year % 100 ≠ 0 ∧ year % 4 = 0

def daysInMonth (year month : ℤ) : ℤ :=
  if month = 2 then if IsLeap year then 29 else 28
  else if month = 4 ∨ month = 6 ∨ month = 9 ∨ month = 11 then 30
  else 31

theorem daysInMonth_pos (year month : ℤ) : 28 ≤ daysInMonth year month := by
  unfold daysInMonth
  split_ifs <;> omega

theorem daysInMonth_le (year month : ℤ) : daysInMonth year month ≤ 31 := by
  unfold daysInMonth
  split_ifs <;> omega

@[ext]
structure Date where
  year : ℤ
  month : ℤ
  day : ℤ
  deriving DecidableEq, Repr

namespace Date

/-- The date exists. -/
structure Valid (d : Date) : Prop where
  year_pos : 1 ≤ d.year
  month_pos : 1 ≤ d.month
  month_le : d.month ≤ 12
  day_pos : 1 ≤ d.day
  day_le : d.day ≤ daysInMonth d.year d.month

theorem Valid.day_le_31 {d : Date} (h : d.Valid) : d.day ≤ 31 :=
  Int.le_trans h.day_le (daysInMonth_le _ _)

instance (d : Date) : Decidable d.Valid :=
  decidable_of_iff (1 ≤ d.year ∧ 1 ≤ d.month ∧ d.month ≤ 12 ∧ 1 ≤ d.day ∧
      d.day ≤ daysInMonth d.year d.month)
    ⟨fun ⟨h1, h2, h3, h4, h5⟩ => ⟨h1, h2, h3, h4, h5⟩,
      fun ⟨h1, h2, h3, h4, h5⟩ => ⟨h1, h2, h3, h4, h5⟩⟩

instance : LE Date where
  le a b := a.year < b.year ∨ a.year = b.year ∧
    (a.month < b.month ∨ a.month = b.month ∧ a.day ≤ b.day)

instance : LT Date where
  lt a b := a.year < b.year ∨ a.year = b.year ∧
    (a.month < b.month ∨ a.month = b.month ∧ a.day < b.day)

variable {a b : Date}

theorem le_iff : a ≤ b ↔ a.year < b.year ∨ a.year = b.year ∧
    (a.month < b.month ∨ a.month = b.month ∧ a.day ≤ b.day) := Iff.rfl

theorem lt_iff : a < b ↔ a.year < b.year ∨ a.year = b.year ∧
    (a.month < b.month ∨ a.month = b.month ∧ a.day < b.day) := Iff.rfl

instance (a b : Date) : Decidable (a ≤ b) := decidable_of_iff _ le_iff.symm

instance (a b : Date) : Decidable (a < b) := decidable_of_iff _ lt_iff.symm

/-- **The chronological order.** -/
instance : LinearOrder Date where
  le_refl a := by rw [le_iff]; omega
  le_trans a b c := by simp only [le_iff]; omega
  le_antisymm a b hab hba := by
    rw [le_iff] at hab hba
    ext <;> omega
  le_total a b := by simp only [le_iff]; omega
  lt_iff_le_not_ge a b := by simp only [le_iff, lt_iff]; omega
  toDecidableLE := inferInstance
  toDecidableEq := inferInstance
  toDecidableLT := inferInstance

end Date

/-! ## Decimal text -/

/-- The last `width` decimal digits of `n`. -/
def pad : ℕ → ℕ → List Char
  | 0, _ => []
  | width + 1, n => pad width (n / 10) ++ [Nat.digitChar (n % 10)]

/-- The number decimal digits write. -/
def value (text : List Char) : ℕ :=
  text.foldl (fun n c => 10 * n + (c.toNat - '0'.toNat)) 0

theorem digitChar_value {n : ℕ} (h : n < 10) :
    (Nat.digitChar n).toNat - '0'.toNat = n ∧ (Nat.digitChar n).isDigit = true := by
  revert n
  decide

@[simp] theorem length_pad (width n : ℕ) : (pad width n).length = width := by
  induction width generalizing n with
  | zero => rfl
  | succ width ih => simp [pad, ih]

theorem isDigit_pad (width n : ℕ) : ∀ c ∈ pad width n, c.isDigit = true := by
  induction width generalizing n with
  | zero => intro c hc; cases hc
  | succ width ih =>
    intro c hc
    rcases List.mem_append.1 hc with hc | hc
    · exact ih _ c hc
    · rw [List.mem_singleton.1 hc]
      exact (digitChar_value (Nat.mod_lt _ (by omega))).2

/-- **Padded decimal text is read back.** -/
theorem value_pad {width n : ℕ} (h : n < 10 ^ width) : value (pad width n) = n := by
  induction width generalizing n with
  | zero =>
    have : n = 0 := by simpa using h
    subst this; rfl
  | succ width ih =>
    have hdiv : n / 10 < 10 ^ width := by
      rw [Nat.div_lt_iff_lt_mul (by omega)]
      rwa [Nat.pow_succ] at h
    have hlast := (digitChar_value (Nat.mod_lt n (by omega : 0 < 10))).1
    rw [pad, value, List.foldl_append]
    change 10 * value (pad width (n / 10)) + ((n % 10).digitChar.toNat - '0'.toNat) = n
    rw [ih hdiv, hlast]
    omega

end Gregorian
