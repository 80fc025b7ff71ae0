import Mathlib.Algebra.Order.Field.Basic
import Mathlib.Data.List.Nodup
import Mathlib.Tactic.Linarith
import Mathlib.Tactic.Ring

/-!
# Rectangles in a grid

Rectangles of a plane over an ordered field, and the cells of a grid with gaps between its columns
and rows. The cells are numbered row by row.

* `cells_disjoint`: cells of a grid with gaps have no point in common.
* `cells_within_iff`: the first cells of a grid lie within an area exactly when the last column and
  the last row that are used end in it.
* `rows_covered_iff`: when the row count `(n % m + n) / m` covers `n` cells.
-/

namespace Grids

/-- A rectangle, by its corner and its size. -/
@[ext]
structure Rect (K : Type*) where
  x : K
  y : K
  width : K
  height : K
  deriving DecidableEq, Repr

namespace Rect

variable {K : Type*} [Add K] [LinearOrder K]

/-- The point is in the rectangle or on its border. -/
def Mem (p : K × K) (a : Rect K) : Prop :=
  a.x ≤ p.1 ∧ p.1 ≤ a.x + a.width ∧ a.y ≤ p.2 ∧ p.2 ≤ a.y + a.height

/-- No point is in both. -/
def Disjoint (a b : Rect K) : Prop := ∀ p : K × K, ¬ (a.Mem p ∧ b.Mem p)

/-- A rectangle of no negative size, within another. -/
structure Within [Zero K] (outer a : Rect K) : Prop where
  width_nonneg : 0 ≤ a.width
  height_nonneg : 0 ≤ a.height
  left : outer.x ≤ a.x
  right : a.x + a.width ≤ outer.x + outer.width
  top : outer.y ≤ a.y
  bottom : a.y + a.height ≤ outer.y + outer.height

variable {a b : Rect K}

theorem Disjoint.symm (h : a.Disjoint b) : b.Disjoint a := fun p hp => h p ⟨hp.2, hp.1⟩

theorem disjoint_of_left (h : a.x + a.width < b.x) : a.Disjoint b := by
  rintro p ⟨ha, hb⟩
  exact absurd (ha.2.1.trans_lt h) (not_lt.2 hb.1)

theorem disjoint_of_above (h : a.y + a.height < b.y) : a.Disjoint b := by
  rintro p ⟨ha, hb⟩
  exact absurd (ha.2.2.2.trans_lt h) (not_lt.2 hb.2.2.1)

end Rect

/-- A grid, by the size of its cells and the gaps between them. -/
structure Grid (K : Type*) where
  width : K
  height : K
  gapX : K
  gapY : K

namespace Grid

variable {K : Type*} [Field K] [LinearOrder K]

/-- The cell of a column and a row. -/
def cell (g : Grid K) (column row : ℕ) : Rect K where
  x := (g.width + g.gapX) * column
  y := (g.height + g.gapY) * row
  width := g.width
  height := g.height

/-- The first `n` cells of a grid of `m` columns. -/
def cells (g : Grid K) (m n : ℕ) : List (Rect K) :=
  (List.range n).map fun i => g.cell (i % m) (i / m)

variable [IsStrictOrderedRing K] {g : Grid K}

/-- Along one side, a cell ends before the next begins. -/
theorem end_lt_begin {size gap : K} (hs : 0 ≤ size) (hg : 0 < gap) {i j : ℕ} (h : i < j) :
    (size + gap) * i + size < (size + gap) * j := by
  have hj : (i : K) + 1 ≤ j := by exact_mod_cast h
  calc (size + gap) * i + size < (size + gap) * (i + 1) := by linarith
    _ ≤ (size + gap) * j := mul_le_mul_of_nonneg_left hj (by linarith)

/-- And no further than a later one. -/
theorem end_le_end {size gap : K} (hs : 0 ≤ size) (hg : 0 ≤ gap) {i j : ℕ} (h : i ≤ j) :
    (size + gap) * i + size ≤ (size + gap) * j + size := by
  have hj : (i : K) ≤ j := by exact_mod_cast h
  have hmul : (size + gap) * i ≤ (size + gap) * j := mul_le_mul_of_nonneg_left hj (by linarith)
  linarith

theorem cell_disjoint (hw : 0 ≤ g.width) (hh : 0 ≤ g.height) (hx : 0 < g.gapX) (hy : 0 < g.gapY)
    {c c' r r' : ℕ} (hne : c ≠ c' ∨ r ≠ r') : (g.cell c r).Disjoint (g.cell c' r') := by
  rcases hne with hne | hne
  · rcases Nat.lt_or_gt_of_ne hne with h | h
    · exact Rect.disjoint_of_left (end_lt_begin hw hx h)
    · exact (Rect.disjoint_of_left (end_lt_begin hw hx h)).symm
  · rcases Nat.lt_or_gt_of_ne hne with h | h
    · exact Rect.disjoint_of_above (end_lt_begin hh hy h)
    · exact (Rect.disjoint_of_above (end_lt_begin hh hy h)).symm

/-- **Cells of a grid have no point in common.** -/
theorem cells_disjoint (hw : 0 ≤ g.width) (hh : 0 ≤ g.height) (hx : 0 < g.gapX) (hy : 0 < g.gapY)
    (m n : ℕ) : (g.cells m n).Pairwise Rect.Disjoint := by
  refine List.pairwise_map.2 (List.Pairwise.imp ?_ List.pairwise_lt_range)
  intro i j hij
  refine cell_disjoint hw hh hx hy ?_
  by_contra hsame
  rw [not_or, not_not, not_not] at hsame
  have hi := Nat.div_add_mod i m
  have hj := Nat.div_add_mod j m
  rw [hsame.1, hsame.2, hj] at hi
  omega

theorem cell_within_iff (hx : 0 ≤ g.gapX) (hy : 0 ≤ g.gapY) {width height : K} {c r : ℕ} :
    (⟨0, 0, width, height⟩ : Rect K).Within (g.cell c r) ↔ 0 ≤ g.width ∧ 0 ≤ g.height ∧
      (g.width + g.gapX) * c + g.width ≤ width ∧ (g.height + g.gapY) * r + g.height ≤ height := by
  constructor
  · rintro ⟨hw, hh, -, hright, -, hbottom⟩
    rw [zero_add] at hright hbottom
    exact ⟨hw, hh, hright, hbottom⟩
  · rintro ⟨hw, hh, hright, hbottom⟩
    refine ⟨hw, hh, ?_, by rw [zero_add]; exact hright, ?_, by rw [zero_add]; exact hbottom⟩
    · exact mul_nonneg (by linarith) (Nat.cast_nonneg c)
    · exact mul_nonneg (by linarith) (Nat.cast_nonneg r)

/-- **The cells lie within an area exactly when the last column and the last row do.** -/
theorem cells_within_iff (hx : 0 ≤ g.gapX) (hy : 0 ≤ g.gapY) {m n : ℕ} (hm : 0 < m) (hn : 0 < n)
    {width height : K} :
    (∀ a ∈ g.cells m n, (⟨0, 0, width, height⟩ : Rect K).Within a) ↔
      0 ≤ g.width ∧ 0 ≤ g.height ∧
        (g.width + g.gapX) * (min m n - 1 : ℕ) + g.width ≤ width ∧
        (g.height + g.gapY) * ((n - 1) / m : ℕ) + g.height ≤ height := by
  have hcell : ∀ i < n, g.cell (i % m) (i / m) ∈ g.cells m n := fun i hi =>
    List.mem_map.2 ⟨i, List.mem_range.2 hi, rfl⟩
  constructor
  · intro hall
    -- the cell of the last column in the first row, and the last cell
    have hcolumn := hall _ (hcell (min m n - 1) (by omega))
    have hrow := hall _ (hcell (n - 1) (by omega))
    rw [cell_within_iff hx hy] at hcolumn hrow
    rw [Nat.mod_eq_of_lt (by omega)] at hcolumn
    exact ⟨hcolumn.1, hcolumn.2.1, hcolumn.2.2.1, hrow.2.2.2⟩
  · rintro ⟨hw, hh, hcolumn, hrow⟩ a ha
    obtain ⟨i, hi, rfl⟩ := List.mem_map.1 ha
    have hi : i < n := List.mem_range.1 hi
    have hmod : i % m ≤ min m n - 1 := by
      have h₁ := Nat.mod_lt i hm
      have h₂ := Nat.mod_le i m
      omega
    have hdiv : i / m ≤ (n - 1) / m := Nat.div_le_div_right (by omega)
    rw [cell_within_iff hx hy]
    exact ⟨hw, hh, (end_le_end hw hx hmod).trans hcolumn, (end_le_end hh hy hdiv).trans hrow⟩

end Grid

/-- **The row count `(n % m + n) / m`** covers `n` cells exactly when the last row is full, or half
full at least. -/
theorem rows_covered_iff {m n : ℕ} (hm : 0 < m) (hn : 0 < n) :
    (n - 1) / m + 1 ≤ (n % m + n) / m ↔ n % m = 0 ∨ m ≤ 2 * (n % m) := by
  have hdiv := Nat.div_add_mod (n - 1) m
  have hlt := Nat.mod_lt (n - 1) hm
  set p := (n - 1) / m
  set t := (n - 1) % m
  have hn' : n = m * p + (t + 1) := by omega
  rw [Nat.le_div_iff_mul_le hm, Nat.add_mul, Nat.one_mul, Nat.mul_comm p m]
  rcases Nat.eq_or_lt_of_le (show t + 1 ≤ m from hlt) with hfull | hpart
  · have hmod : n % m = 0 := by
      rw [hn', hfull, Nat.mul_add_mod, Nat.mod_self]
    rw [hmod]
    exact iff_of_true (by omega) (Or.inl rfl)
  · have hmod : n % m = t + 1 := by
      rw [hn', Nat.mul_add_mod, Nat.mod_eq_of_lt hpart]
    rw [hmod]
    omega

end Grids
