import Mathlib.Algebra.Order.Interval.Set.SuccPred
import Mathlib.Data.Int.ConditionallyCompleteOrder
import Mathlib.Data.Int.SuccPred
import Mathlib.Data.List.GetD
import Mathlib.Order.ConditionallyCompleteLattice.Basic
import RCSdk.Lib.Segments
import RCSdk.Spec.CommonUtil

/-!
# What the two sorts do

`sort` keeps the pivot in a local while a hole moves through the segment: with the pivot in the hole
the array is a rearrangement of what it was (`Inv`), before and after each turn of the outer loop
(`turn_spec`), and at its end everything before the hole is at most the pivot and everything behind
it at least (`partition_spec`). So the calls for the two sides order the whole (`sort_spec`).

* `sort_sorts`: `sort` returns, touches nothing outside its segment and leaves it sorted.
* `quickSort_never`: `quickSort:left:right:` never returns, whatever the array.
-/

namespace RCSdk

open Function Segments

namespace CommonUtil

/-! ## One step after the other -/

section Bind

variable {σ α β : Type} {x : StateT σ (Except Fault) α} {y : α → StateT σ (Except Fault) β}

theorem bind_ok {m m' : σ} {v : α} (h : x m = .ok (v, m')) : (x >>= y) m = y v m' := by
  change (x m >>= fun p => y p.1 p.2) = y v m'
  rw [h]
  rfl

/-- Two steps return only if the first does. -/
theorem of_bind_ok {m : σ} {q : β × σ} (h : (x >>= y) m = .ok q) :
    ∃ v m', x m = .ok (v, m') ∧ y v m' = .ok q := by
  change (x m >>= fun p => y p.1 p.2) = .ok q at h
  generalize hx : x m = u at h
  cases u with
  | error e => exact absurd h (by rintro ⟨⟩)
  | ok p => exact ⟨p.1, p.2, rfl, h⟩

end Bind

/-! ## Memory -/

/-- The value at an index. -/
def cell (a : List ℤ) (k : ℤ) : ℤ := if 0 ≤ k then a.getD k.toNat 0 else 0

/-- Indices of the array. -/
abbrev InArray (a : List ℤ) (k : ℤ) : Prop := 0 ≤ k ∧ k < a.length

theorem cell_natCast {a : List ℤ} {n : ℕ} (h : n < a.length) : cell a n = a[n] := by
  rw [cell, if_pos (by omega), Int.toNat_natCast, List.getD_eq_getElem _ _ h]

theorem cell_set {a : List ℤ} {i : ℤ} (h : InArray a i) (x : ℤ) :
    cell (a.set i.toNat x) = update (cell a) i x := by
  obtain ⟨h0, hlt⟩ := h
  funext k
  by_cases hki : k = i
  · subst hki
    have hlt' : k.toNat < (a.set k.toNat x).length := by
      rw [List.length_set]
      omega
    rw [update_self, cell, if_pos h0, List.getD_eq_getElem _ _ hlt', List.getElem_set_self]
  · rw [update_of_ne hki, cell, cell]
    split_ifs with hk
    · have hne : i.toNat ≠ k.toNat := by omega
      rw [List.getD_eq_getElem?_getD, List.getD_eq_getElem?_getD, List.getElem?_set_ne hne]
    · rfl

/-- Nothing but the array of `m` between `l` and `r` is touched on the way to `m'`. -/
structure Within (l r : ℤ) (m m' : Memory) : Prop where
  length : m'.a.length = m.a.length
  accesses : ∀ k ∈ m'.accesses, k ∈ m.accesses ∨ l ≤ k ∧ k ≤ r

namespace Within

variable {l r l' r' : ℤ} {m m' m'' : Memory}

theorem refl (l r : ℤ) (m : Memory) : Within l r m m := ⟨rfl, fun _ hk => .inl hk⟩

theorem trans (h : Within l r m m') (h' : Within l r m' m'') : Within l r m m'' := by
  refine ⟨h'.length.trans h.length, fun k hk => ?_⟩
  rcases h'.accesses k hk with hk | hk
  · exact h.accesses k hk
  · exact .inr hk

theorem mono (h : Within l r m m') (hl : l' ≤ l) (hr : r ≤ r') : Within l' r' m m' := by
  refine ⟨h.length, fun k hk => ?_⟩
  rcases h.accesses k hk with hk | hk
  · exact .inl hk
  · exact .inr ⟨by omega, by omega⟩

theorem inArray (h : Within l r m m') {k : ℤ} (hk : InArray m.a k) : InArray m'.a k := by
  rw [InArray, h.length]
  exact hk

end Within

theorem read_spec (m : Memory) (i : ℤ) (h : InArray m.a i) :
    ∃ m', read i m = .ok (cell m.a i, m') ∧ m'.a = m.a ∧ Within i i m m' := by
  refine ⟨{ m with accesses := i :: m.accesses }, ?_, rfl, rfl, fun k hk => ?_⟩
  · rw [read, if_pos h, cell, if_pos h.1]
  · rcases List.mem_cons.1 hk with rfl | hk
    · exact .inr ⟨le_rfl, le_rfl⟩
    · exact .inl hk

theorem write_spec (m : Memory) (i x : ℤ) (h : InArray m.a i) :
    ∃ m', write i x m = .ok ((), m') ∧ cell m'.a = update (cell m.a) i x ∧ Within i i m m' := by
  refine ⟨⟨m.a.set i.toNat x, i :: m.accesses⟩, ?_, cell_set h x, List.length_set, fun k hk => ?_⟩
  · rw [write, if_pos h]
  · rcases List.mem_cons.1 hk with rfl | hk
    · exact .inr ⟨le_rfl, le_rfl⟩
    · exact .inl hk

/-- `a[i] = a[j]`, with what comes after it. -/
theorem copy_spec (m : Memory) {l r i j : ℤ} (h0 : 0 ≤ l) (hr : r < m.a.length) (hi : l ≤ i ∧ i ≤ r)
    (hj : l ≤ j ∧ j ≤ r) :
    ∃ m', (∀ {β : Type} (rest : C β), (do
        let x ← read j
        write i x
        rest : C β) m = rest m') ∧
      cell m'.a = update (cell m.a) i (cell m.a j) ∧ Within l r m m' := by
  obtain ⟨m₁, hread, ha₁, hw₁⟩ := read_spec m j ⟨by omega, by omega⟩
  have hw₁ : Within l r m m₁ := hw₁.mono hj.1 hj.2
  obtain ⟨m₂, hwrite, hc₂, hw₂⟩ :=
    write_spec m₁ i (cell m.a j) (hw₁.inArray ⟨by omega, by omega⟩)
  rw [ha₁] at hc₂
  refine ⟨m₂, fun rest => ?_, hc₂, hw₁.trans (hw₂.mono hi.1 hi.2)⟩
  rw [bind_ok hread, bind_ok hwrite]

/-! ## The inner loops -/

/-- **Down to the first value below the pivot**, or to the hole. -/
theorem scanDown_spec (key i : ℤ) (fuel : ℕ) : ∀ (j : ℤ) (m : Memory), 0 ≤ i → i ≤ j →
    j < m.a.length → (j - i).toNat + 1 ≤ fuel →
    ∃ j' m', scanDown key i fuel j m = .ok (j', m') ∧ m'.a = m.a ∧ Within i j m m' ∧
      i ≤ j' ∧ j' ≤ j ∧ (∀ k, j' < k → k ≤ j → key ≤ cell m.a k) ∧
      (j' = i ∨ cell m.a j' < key) := by
  induction fuel with
  | zero =>
    intro j m h0 hij hj hfuel
    omega
  | succ fuel ih =>
    intro j m h0 hij hj hfuel
    rw [scanDown]
    by_cases hlt : i < j
    · obtain ⟨m₁, hread, ha₁, hw₁⟩ := read_spec m j ⟨by omega, hj⟩
      have hw₁ : Within i j m m₁ := hw₁.mono hij le_rfl
      rw [if_pos hlt, bind_ok hread]
      by_cases hkey : key ≤ cell m.a j
      · have hlen : j - 1 < m₁.a.length := by
          rw [hw₁.length]
          omega
        obtain ⟨j', m', hrun, ha, hw, h1, h2, hge, hstop⟩ :=
          ih (j - 1) m₁ h0 (by omega) hlen (by omega)
        rw [ha₁] at ha hge hstop
        refine ⟨j', m', by rw [if_pos hkey, hrun], ha, hw₁.trans (hw.mono le_rfl (by omega)), h1,
          by omega, fun k hk hkj => ?_, hstop⟩
        rcases eq_or_ne k j with rfl | hne
        · exact hkey
        · exact hge k hk (by omega)
      · refine ⟨j, m₁, by rw [if_neg hkey]; rfl, ha₁, hw₁, hij, le_rfl, fun k hk hkj => ?_,
          .inr (not_le.1 hkey)⟩
        omega
    · refine ⟨j, m, by rw [if_neg hlt]; rfl, rfl, .refl _ _ _, hij, le_rfl, fun k hk hkj => ?_,
        .inl (by omega)⟩
      omega

/-- **Up to the first value above the pivot**, or to the hole. -/
theorem scanUp_spec (key j : ℤ) (fuel : ℕ) : ∀ (i : ℤ) (m : Memory), 0 ≤ i → i ≤ j →
    j < m.a.length → (j - i).toNat + 1 ≤ fuel →
    ∃ i' m', scanUp key j fuel i m = .ok (i', m') ∧ m'.a = m.a ∧ Within i j m m' ∧
      i ≤ i' ∧ i' ≤ j ∧ (∀ k, i ≤ k → k < i' → cell m.a k ≤ key) ∧
      (i' = j ∨ key < cell m.a i') := by
  induction fuel with
  | zero =>
    intro i m h0 hij hj hfuel
    omega
  | succ fuel ih =>
    intro i m h0 hij hj hfuel
    rw [scanUp]
    by_cases hlt : i < j
    · obtain ⟨m₁, hread, ha₁, hw₁⟩ := read_spec m i ⟨h0, by omega⟩
      have hw₁ : Within i j m m₁ := hw₁.mono le_rfl hij
      rw [if_pos hlt, bind_ok hread]
      by_cases hkey : key ≥ cell m.a i
      · have hlen : j < m₁.a.length := by
          rw [hw₁.length]
          exact hj
        obtain ⟨i', m', hrun, ha, hw, h1, h2, hle, hstop⟩ :=
          ih (i + 1) m₁ (by omega) (by omega) hlen (by omega)
        rw [ha₁] at ha hle hstop
        refine ⟨i', m', by rw [if_pos hkey, hrun], ha, hw₁.trans (hw.mono (by omega) le_rfl),
          by omega, h2, fun k hk hki => ?_, hstop⟩
        rcases eq_or_ne k i with rfl | hne
        · exact hkey
        · exact hle k (by omega) hki
      · refine ⟨i, m₁, by rw [if_neg hkey]; rfl, ha₁, hw₁, le_rfl, hij, fun k hk hki => ?_,
          .inr (not_le.1 hkey)⟩
        omega
    · refine ⟨i, m, by rw [if_neg hlt]; rfl, rfl, .refl _ _ _, le_rfl, hij, fun k hk hki => ?_,
        .inl (by omega)⟩
      omega

/-! ## The outer loop -/

/-- **What holds between the turns of the outer loop**, where `f` is the array before it. The hole
is at `i`. -/
structure Inv (f : ℤ → ℤ) (key left right : ℤ) (m : Memory) (i j : ℤ) : Prop where
  left_le : left ≤ i
  le : i ≤ j
  le_right : j ≤ right
  rearranged : Rearranged (Set.Icc left right) f (update (cell m.a) i key)
  before : ∀ k, left ≤ k → k < i → cell m.a k ≤ key
  behind : ∀ k, j < k → k ≤ right → key ≤ cell m.a k

section Turn

variable {f : ℤ → ℤ} {key left right i j : ℤ} {m : Memory}

/-- **A turn keeps the invariant**, and one of the two ends moves. -/
theorem turn_spec (h : Inv f key left right m i j) (h0 : 0 ≤ left) (hr : right < m.a.length)
    (hlt : i < j) (fuel : ℕ) (hfuel : (j - i).toNat + 1 ≤ fuel) :
    ∃ i' j' m', (∀ rest : ℤ → ℤ → C (ℤ × ℤ), (do
        let j ← scanDown key i fuel j
        let x ← read j
        write i x
        let i ← scanUp key j fuel i
        let x ← read i
        write j x
        rest i j : C (ℤ × ℤ)) m = rest i' j' m') ∧
      Inv f key left right m' i' j' ∧ Within left right m m' ∧
      (j' - i').toNat < (j - i).toNat := by
  obtain ⟨hli, hij, hjr, hrearr, hbefore, hbehind⟩ := h
  -- down from the right
  obtain ⟨j', m₁, hdown, ha₁, hw₁, hij', hjj', hge, hstop⟩ :=
    scanDown_spec key i fuel j m (by omega) hij (by omega) hfuel
  have hw₁ : Within left right m m₁ := hw₁.mono hli hjr
  have hr₁ : right < m₁.a.length := by
    rw [hw₁.length]
    exact hr
  obtain ⟨m₂, hcopy₂, hc₂, hw₂⟩ :=
    copy_spec (i := i) (j := j') m₁ h0 hr₁ ⟨hli, by omega⟩ ⟨by omega, by omega⟩
  have hw₂ : Within left right m m₂ := hw₁.trans hw₂
  rw [ha₁] at hc₂
  have hrearr₂ : Rearranged (Set.Icc left right) f (update (cell m₂.a) j' key) := by
    rw [hc₂]
    exact hrearr.move_hole ⟨hli, by omega⟩ ⟨by omega, by omega⟩
  have hr₂ : right < m₂.a.length := by
    rw [hw₂.length]
    exact hr
  -- up from the left
  obtain ⟨i', m₃, hup, ha₃, hw₃, hii', hij'', hle, hstop'⟩ :=
    scanUp_spec key j' fuel i m₂ (by omega) hij' (by omega) (by omega)
  have hw₃ : Within left right m m₃ := hw₂.trans (hw₃.mono hli (by omega))
  have hr₃ : right < m₃.a.length := by
    rw [hw₃.length]
    exact hr
  obtain ⟨m₄, hcopy₄, hc₄, hw₄⟩ :=
    copy_spec (i := j') (j := i') m₃ h0 hr₃ ⟨by omega, by omega⟩ ⟨by omega, by omega⟩
  have hw₄ : Within left right m m₄ := hw₃.trans hw₄
  rw [ha₃] at hc₄
  refine ⟨i', j', m₄, fun rest => ?_, ⟨by omega, hij'', by omega, ?_, fun k hk hki => ?_,
    fun k hk hkr => ?_⟩, hw₄, ?_⟩
  · rw [bind_ok hdown, hcopy₂, bind_ok hup, hcopy₄]
  · rw [hc₄]
    exact hrearr₂.move_hole ⟨by omega, by omega⟩ ⟨by omega, by omega⟩
  · -- before the hole: what was there already, or what the way up has passed
    rw [hc₄, update_of_ne (by omega : k ≠ j')]
    by_cases hik : i ≤ k
    · exact hle k hik hki
    · rw [hc₂, update_of_ne (by omega : k ≠ i)]
      exact hbefore k hk (by omega)
  · -- behind `j'`: what was there already, or what the way down has passed
    rw [hc₄, update_of_ne (by omega : k ≠ j'), hc₂, update_of_ne (by omega : k ≠ i)]
    by_cases hjk : j < k
    · exact hbehind k hjk hkr
    · exact hge k hk (by omega)
  · by_cases hmoved : j' < j
    · omega
    · -- the value at `j` is below the pivot, and is passed at `i` on the way up
      have hlow : cell m.a j' < key := by
        rcases hstop with h | h
        · omega
        · exact h
      have hmoved' : i' ≠ i := by
        rintro rfl
        rcases hstop' with h | h
        · omega
        · rw [hc₂, update_self] at h
          omega
      omega

/-- **The outer loop ends with the hole between the values up to the pivot and those from it on.** -/
theorem partition_spec (fuel : ℕ) : ∀ (i j : ℤ) (m : Memory), Inv f key left right m i j →
    0 ≤ left → right < m.a.length → (j - i).toNat + 2 ≤ fuel →
    ∃ p m', partition key fuel i j m = .ok ((p, p), m') ∧ Inv f key left right m' p p ∧
      Within left right m m' := by
  induction fuel with
  | zero =>
    intro i j m h h0 hr hfuel
    omega
  | succ fuel ih =>
    intro i j m h h0 hr hfuel
    rw [partition]
    by_cases hlt : i < j
    · obtain ⟨i', j', m₁, hrun, hinv, hw, hless⟩ :=
        turn_spec h h0 hr hlt fuel (by omega)
      have hr₁ : right < m₁.a.length := by
        rw [hw.length]
        exact hr
      obtain ⟨p, m', hrun', hinv', hw'⟩ := ih i' j' m₁ hinv h0 hr₁ (by omega)
      refine ⟨p, m', ?_, hinv', hw.trans hw'⟩
      rw [if_pos hlt, hrun, hrun']
    · have heq : j = i := le_antisymm (not_lt.1 hlt) h.le
      subst heq
      exact ⟨j, m, by rw [if_neg hlt]; rfl, h, .refl _ _ _⟩

end Turn

/-! ## The recursion -/

/-- A call returns if its parts do. -/
theorem sort_of_parts {fuel : ℕ} {left right key p q : ℤ} {m m₁ m₂ m₃ m₄ m₅ : Memory}
    (hlt : ¬ left ≥ right) (hread : read left m = .ok (key, m₁))
    (hpart : partition key fuel left right m₁ = .ok ((p, q), m₂))
    (hwrite : write p key m₂ = .ok ((), m₃)) (hleft : sort fuel left (p - 1) m₃ = .ok ((), m₄))
    (hright : sort fuel (p + 1) right m₄ = .ok ((), m₅)) :
    sort (fuel + 1) left right m = .ok ((), m₅) := by
  rw [sort, if_neg hlt, bind_ok hread, bind_ok hpart]
  change (write p key >>= fun _ => sort fuel left (p - 1) >>= fun _ => sort fuel (p + 1) right) m₂ = _
  rw [bind_ok hwrite, bind_ok hleft, hright]

/-- **`sort` returns**, and what it leaves. -/
theorem sort_spec (fuel : ℕ) : ∀ (left right : ℤ) (m : Memory), 0 ≤ left → right < m.a.length →
    (right - left).toNat + 3 ≤ fuel →
    ∃ m', sort fuel left right m = .ok ((), m') ∧ Within left right m m' ∧
      Rearranged (Set.Icc left right) (cell m.a) (cell m'.a) ∧
      MonotoneOn (cell m'.a) (Set.Icc left right) := by
  induction fuel with
  | zero =>
    intro left right m h0 hr hfuel
    omega
  | succ fuel ih =>
    intro left right m h0 hr hfuel
    by_cases hge : left ≥ right
    · refine ⟨m, by rw [sort, if_pos hge]; rfl, .refl _ _ _, .refl _ _, ?_⟩
      intro x hx y hy hxy
      have hxy' : x = y := by
        have := hx.1
        have := hy.2
        omega
      rw [hxy']
    · obtain ⟨m₁, hread, ha₁, hw₁⟩ := read_spec m left ⟨h0, by omega⟩
      have hw₁ : Within left right m m₁ := hw₁.mono le_rfl (by omega)
      have hstart : Inv (cell m.a) (cell m.a left) left right m₁ left right := by
        refine ⟨le_rfl, by omega, le_rfl, ?_, fun k hk hki => by omega, fun k hk hkr => by omega⟩
        rw [ha₁, update_eq_self]
        exact .refl _ _
      have hr₁ : right < m₁.a.length := by
        rw [hw₁.length]
        exact hr
      obtain ⟨p, m₂, hpart, hinv, hw₂⟩ := partition_spec fuel left right m₁ hstart h0 hr₁ (by omega)
      have hw₂ : Within left right m m₂ := hw₁.trans hw₂
      obtain ⟨hlp, -, hpr, hrearr, hbefore, hbehind⟩ := hinv
      obtain ⟨m₃, hwrite, hc₃, hw₃⟩ := write_spec m₂ p (cell m.a left)
        (hw₂.inArray ⟨by omega, by omega⟩)
      have hw₃ : Within left right m m₃ := hw₂.trans (hw₃.mono hlp hpr)
      have hlen₃ : m₃.a.length = m.a.length := hw₃.length
      rw [← hc₃] at hrearr
      have hpivot : cell m₃.a p = cell m.a left := by
        rw [hc₃, update_self]
      -- the two sides
      obtain ⟨m₄, hrun₄, hw₄, hrearr₄, hsort₄⟩ :=
        ih left (p - 1) m₃ h0 (by omega) (by omega)
      have hlen₄ : m₄.a.length = m₃.a.length := hw₄.length
      obtain ⟨m₅, hrun₅, hw₅, hrearr₅, hsort₅⟩ :=
        ih (p + 1) right m₄ (by omega) (by omega) (by omega)
      have hw₄ : Within left right m m₄ := hw₃.trans (hw₄.mono le_rfl (by omega))
      have hw₅ : Within left right m m₅ := hw₄.trans (hw₅.mono (by omega) le_rfl)
      rw [Set.Icc_sub_one_right_eq_Ico] at hrearr₄ hsort₄
      rw [Set.Icc_add_one_left_eq_Ioc] at hrearr₅ hsort₅
      have hlow : ∀ k ∈ Set.Ico left p, cell m₃.a k ≤ cell m₃.a p := by
        intro k hk
        rw [hpivot, hc₃, update_of_ne hk.2.ne]
        exact hbefore k hk.1 hk.2
      have hhigh : ∀ k ∈ Set.Ioc p right, cell m₃.a p ≤ cell m₃.a k := by
        intro k hk
        rw [hpivot, hc₃, update_of_ne hk.1.ne']
        exact hbehind k hk.1 hk.2
      obtain ⟨hrearr₅, hsort₅⟩ := sorted_around hlp hpr hlow hhigh hrearr₄ hsort₄ hrearr₅ hsort₅
      exact ⟨m₅, sort_of_parts hge hread hpart hwrite hrun₄ hrun₅, hw₅, hrearr.trans hrearr₅,
        hsort₅⟩

/-! ## The segment -/

/-- The elements from `left` to `right`. -/
def segment (a : List ℤ) (left right : ℤ) : List ℤ :=
  (a.drop left.toNat).take (right + 1 - left).toNat

/-- `b` is `a` with the elements from `left` to `right` in order. -/
structure SegmentSorted (a b : List ℤ) (left right : ℤ) : Prop where
  perm : (segment b left right).Perm (segment a left right)
  sorted : (segment b left right).Pairwise (· ≤ ·)
  before : b.take left.toNat = a.take left.toNat
  behind : b.drop (right + 1).toNat = a.drop (right + 1).toNat

theorem segment_eq {a : List ℤ} {left right : ℤ} (h0 : 0 ≤ left) (hr : right < a.length) :
    segment a left right =
      (List.range (right + 1 - left).toNat).map fun k : ℕ => cell a (left + k) := by
  have hlen : (segment a left right).length = (right + 1 - left).toNat := by
    rw [segment, List.length_take, List.length_drop]
    omega
  refine List.ext_getElem (by rw [hlen, List.length_map, List.length_range]) fun n h1 h2 => ?_
  have hn : left.toNat + n < a.length := by
    rw [hlen] at h1
    omega
  have hcell : left + (n : ℤ) = ((left.toNat + n : ℕ) : ℤ) := by omega
  rw [List.getElem_map, List.getElem_range, hcell, cell_natCast hn]
  simp only [segment, List.getElem_take, List.getElem_drop]

/-- The elements of the segment are the values at its indices. -/
theorem coe_segment {a : List ℤ} {left right : ℤ} (h0 : 0 ≤ left) (hr : right < a.length) :
    (segment a left right : Multiset ℤ) = (Finset.Icc left right).val.map (cell a) := by
  rw [segment_eq h0 hr]
  change _ = Multiset.map (cell a)
    ((Multiset.range (right + 1 - left).toNat).map fun k : ℕ => left + (k : ℤ))
  rw [Multiset.map_map]
  rfl

theorem segmentSorted {a b : List ℤ} {left right : ℤ} (h0 : 0 ≤ left) (hr : right < a.length)
    (hlen : b.length = a.length) (hrearr : Rearranged (Set.Icc left right) (cell a) (cell b))
    (hsort : MonotoneOn (cell b) (Set.Icc left right)) : SegmentSorted a b left right := by
  have hrb : right < b.length := by
    rw [hlen]
    exact hr
  have hsame : ∀ (n : ℕ) (h1 : n < b.length) (h2 : n < a.length),
      (n : ℤ) ∉ Set.Icc left right → b[n] = a[n] := by
    intro n h1 h2 hn
    rw [← cell_natCast h1, ← cell_natCast h2]
    exact hrearr.eq_of_notMem hn
  refine ⟨?_, ?_, ?_, ?_⟩
  · rw [← Multiset.coe_eq_coe, coe_segment h0 hr, coe_segment h0 hrb]
    rw [← Finset.coe_Icc] at hrearr
    exact hrearr.map_val
  · rw [segment_eq h0 hrb, List.pairwise_map]
    refine List.pairwise_lt_range.imp_of_mem fun {x y} hx hy hxy => ?_
    rw [List.mem_range] at hx hy
    exact hsort ⟨by omega, by omega⟩ ⟨by omega, by omega⟩ (by omega)
  · refine List.ext_getElem (by rw [List.length_take, List.length_take, hlen]) fun n h1 h2 => ?_
    rw [List.length_take] at h1 h2
    rw [List.getElem_take, List.getElem_take]
    refine hsame n (by omega) (by omega) fun h => ?_
    have := h.1
    omega
  · refine List.ext_getElem (by rw [List.length_drop, List.length_drop, hlen]) fun n h1 h2 => ?_
    rw [List.length_drop] at h1 h2
    rw [List.getElem_drop, List.getElem_drop]
    refine hsame _ (by omega) (by omega) fun h => ?_
    have := h.2
    push_cast at this
    omega

/-- **`sort` returns**, reads and writes only from `left` to `right`, and leaves the elements there in
order and all others as they were. -/
theorem sort_sorts (a : List ℤ) (left right : ℤ) (hleft : 0 ≤ left) (hright : right < a.length)
    (fuel : ℕ) (hfuel : (right - left).toNat + 3 ≤ fuel) :
    ∃ b accesses, (sort fuel left right).run ⟨a, []⟩ = .ok ((), ⟨b, accesses⟩) ∧
      (∀ k ∈ accesses, left ≤ k ∧ k ≤ right) ∧ b.length = a.length ∧
      SegmentSorted a b left right := by
  obtain ⟨⟨b, accesses⟩, hrun, hw, hrearr, hsort⟩ :=
    sort_spec fuel left right ⟨a, []⟩ hleft hright hfuel
  have hlen : b.length = a.length := hw.length
  refine ⟨b, accesses, hrun, fun k hk => ?_, hlen, segmentSorted hleft hright hlen hrearr hsort⟩
  rcases hw.accesses k hk with h | h
  · exact absurd h List.not_mem_nil
  · exact h

/-- The array of `testQuickArray`. -/
theorem sort_testQuickArray : ((0 : ℤ) ≤ 0 ∧ (5 : ℤ) < [6, 2, 7, 3, 9, 8].length) ∧
    ∃ b accesses, (sort 8 0 5).run ⟨[6, 2, 7, 3, 9, 8], []⟩ = .ok ((), ⟨b, accesses⟩) ∧
      (∀ k ∈ accesses, 0 ≤ k ∧ k ≤ 5) ∧ b.length = 6 ∧
      SegmentSorted [6, 2, 7, 3, 9, 8] b 0 5 :=
  ⟨by decide, sort_sorts [6, 2, 7, 3, 9, 8] 0 5 (by decide) (by decide) 8 (by decide)⟩

/-! ## The method -/

/-- `quickSort:left:right:` returns, and leaves what `sort` leaves. -/
def QuickSortRight (array : List NSNumber) : Prop :=
  ∃ fuel b, (quickSort fuel 0 (array.length - 1)).run array = .ok ((), b) ∧
    ∃ fuel accesses, (sort fuel 0 (array.length - 1)).run ⟨array, []⟩ = .ok ((), ⟨b, accesses⟩)

theorem intValue_zero : intValue 0 = 0 := rfl

/-- **From the left end on, the recursion has no end**: the test for it asks for a left index above
zero. -/
theorem quickSort_zero_never (fuel : ℕ) : ∀ (right : NSNumber) (array : List NSNumber)
    (q : Unit × List NSNumber), quickSort fuel 0 right array ≠ .ok q := by
  induction fuel with
  | zero => rintro right array q ⟨⟩
  | succ fuel ih =>
    intro right array q hrun
    have hguard : ¬ (intValue 0 > 0 ∧ unsigned (intValue right) < unsigned (array.length - 1) ∧
        intValue 0 ≥ intValue right) := fun h => absurd h.1 (lt_irrefl _)
    have hget : (get : ObjC (List NSNumber)) array = .ok (array, array) := rfl
    rw [quickSort, bind_ok hget, if_neg hguard] at hrun
    obtain ⟨key, m₁, -, hrun⟩ := of_bind_ok hrun
    obtain ⟨⟨i, j⟩, m₂, -, hrun⟩ := of_bind_ok hrun
    obtain ⟨-, m₃, -, hrun⟩ := of_bind_ok hrun
    obtain ⟨v, m₄, hleft, -⟩ := of_bind_ok hrun
    exact ih (intValue j - 1) m₃ (v, m₄) hleft

/-- **`quickSort:left:right:` sorts no array.** -/
theorem quickSort_never (array : List NSNumber) : ¬ QuickSortRight array := by
  rintro ⟨fuel, b, hrun, -⟩
  exact quickSort_zero_never fuel _ array _ hrun

/-- With nothing left to arrange, the recursion goes on to the left of the array. -/
theorem quickSort_descends (x : ℤ) (xs : List ℤ) (fuel : ℕ) : ∀ right : ℤ,
    right ≤ 0 → -2 ^ 31 ≤ right - fuel →
    quickSort fuel 0 right (x :: xs) = .error .outOfFuel := by
  induction fuel with
  | zero => exact fun right _ _ => rfl
  | succ fuel ih =>
    intro right hr hdepth
    have hint : intValue right = right := by
      unfold intValue
      refine Int.bmod_eq_of_le (by omega) (by omega)
    have hguard : ¬ (intValue 0 > 0 ∧ unsigned (intValue right) <
        unsigned ((x :: xs).length - 1) ∧ intValue 0 ≥ intValue right) :=
      fun h => absurd h.1 (lt_irrefl _)
    have hget : (get : ObjC (List NSNumber)) (x :: xs) = .ok (x :: xs, x :: xs) := rfl
    have hbounds : (0 : ℤ) ≤ 0 ∧ (0 : ℤ) < (x :: xs).length := ⟨le_rfl, by simp⟩
    have hkey : objectAtIndex (intValue 0) (x :: xs) = .ok (x, x :: xs) := by
      rw [intValue_zero, objectAtIndex, if_pos hbounds]
      rfl
    have hset : setObject (intValue 0) x (x :: xs) = .ok ((), x :: xs) := by
      rw [intValue_zero, setObject, if_pos hbounds]
      rfl
    rw [quickSort, bind_ok hget, if_neg hguard, bind_ok hkey]
    cases fuel with
    | zero => rfl
    | succ fuel =>
      have harrange : arrange x (fuel + 1) 0 right (x :: xs) = .ok ((0, right), x :: xs) := by
        rw [arrange, if_neg (by rw [intValue_zero, hint]; omega)]
        rfl
      have hleft := ih (intValue right - 1) (by omega) (by rw [hint]; push_cast at hdepth ⊢; omega)
      rw [bind_ok harrange]
      change (setObject (intValue 0) x >>= fun _ => quickSort (fuel + 1) 0 (intValue right - 1) >>=
        fun _ => quickSort (fuel + 1) (intValue 0 + 1) right) (x :: xs) = _
      rw [bind_ok hset]
      change (quickSort (fuel + 1) 0 (intValue right - 1) (x :: xs) >>= _) = _
      rw [hleft]
      rfl

/-- An array of one number: the calls go down from the right index 0, as far as an int goes. -/
theorem quickSort_one : ¬ QuickSortRight [7] ∧
    ∀ fuel < 2 ^ 31, (quickSort fuel 0 0).run [7] = .error .outOfFuel :=
  ⟨fun ⟨fuel, _, hrun, _⟩ => quickSort_zero_never fuel _ _ _ hrun,
    fun fuel hfuel => quickSort_descends 7 [] fuel 0 le_rfl (by omega)⟩

end CommonUtil

end RCSdk
