import Mathlib.Data.Finset.Functor
import Mathlib.Data.Int.Interval
import Mathlib.Logic.Equiv.Basic
import Mathlib.Order.Interval.Set.Basic

/-!
# Segments of an array

An array as a function of its index, and what is done to a part of it in place.

* `Rearranged s f g`: `g` has the values of `f`, in another order within `s` and unchanged outside.
* `Rearranged.move_hole`: a value kept aside, and the place it was taken from filled from another
  place, is the array rearranged, up to the value kept aside.
* `sorted_around`: two parts that are put in order around an element between them leave the whole in
  order (`monotoneOn_join`).
-/

namespace Segments

open Function

section Rearranged

variable {ι α : Type*} {s t : Set ι} {f g h : ι → α}

/-- The values within `s` in another order, and all others unchanged. -/
def Rearranged (s : Set ι) (f g : ι → α) : Prop :=
  ∃ σ : Equiv.Perm ι, (∀ k, k ∉ s → σ k = k) ∧ ∀ k, g k = f (σ k)

theorem Rearranged.refl (s : Set ι) (f : ι → α) : Rearranged s f f :=
  ⟨Equiv.refl ι, fun _ _ => rfl, fun _ => rfl⟩

theorem Rearranged.trans (hfg : Rearranged s f g) (hgh : Rearranged s g h) : Rearranged s f h := by
  obtain ⟨σ, hσ, hg⟩ := hfg
  obtain ⟨τ, hτ, hh⟩ := hgh
  refine ⟨τ.trans σ, fun k hk => ?_, fun k => ?_⟩
  · rw [Equiv.trans_apply, hτ k hk, hσ k hk]
  · rw [hh, hg, Equiv.trans_apply]

theorem Rearranged.mono (hst : s ⊆ t) (hfg : Rearranged s f g) : Rearranged t f g := by
  obtain ⟨σ, hσ, hg⟩ := hfg
  exact ⟨σ, fun k hk => hσ k fun hs => hk (hst hs), hg⟩

theorem Rearranged.eq_of_notMem (hfg : Rearranged s f g) {k : ι} (hk : k ∉ s) : g k = f k := by
  obtain ⟨σ, hσ, hg⟩ := hfg
  rw [hg, hσ k hk]

/-- A value within `s` was within `s` before. -/
theorem Rearranged.exists_eq (hfg : Rearranged s f g) {k : ι} (hk : k ∈ s) :
    ∃ j ∈ s, g k = f j := by
  obtain ⟨σ, hσ, hg⟩ := hfg
  refine ⟨σ k, ?_, hg k⟩
  by_contra hout
  -- `σ` would take both `k` and `σ k` to the same place
  have hfix : σ (σ k) = σ k := hσ _ hout
  rw [σ.injective hfix] at hout
  exact hout hk

/-- **What holds of all values within `s` still does.** -/
theorem Rearranged.forall {P : α → Prop} (hfg : Rearranged s f g) (hf : ∀ k ∈ s, P (f k)) :
    ∀ k ∈ s, P (g k) := by
  intro k hk
  obtain ⟨j, hj, h⟩ := hfg.exists_eq hk
  rw [h]
  exact hf j hj

/-- **Moving a hole.** The value `a` is kept aside and its place `i` is filled from `j`; with `a` at
`j` instead, the array is still a rearrangement. -/
theorem Rearranged.move_hole [DecidableEq ι] {i j : ι} {a : α}
    (hfg : Rearranged s f (update g i a)) (hi : i ∈ s) (hj : j ∈ s) :
    Rearranged s f (update (update g i (g j)) j a) := by
  refine hfg.trans ⟨Equiv.swap i j, fun k hk => ?_, fun k => ?_⟩
  · have hki : k ≠ i := fun h => hk (h ▸ hi)
    have hkj : k ≠ j := fun h => hk (h ▸ hj)
    exact Equiv.swap_apply_of_ne_of_ne hki hkj
  · by_cases hkj : k = j
    · subst hkj
      rw [update_self, Equiv.swap_apply_right, update_self]
    · by_cases hki : k = i
      · subst hki
        rw [update_of_ne hkj, update_self, Equiv.swap_apply_left, update_of_ne (Ne.symm hkj)]
      · rw [update_of_ne hkj, update_of_ne hki, Equiv.swap_apply_of_ne_of_ne hki hkj,
          update_of_ne hki]

/-- The values within a finite `s` are the same, each as often. -/
theorem Rearranged.map_val {s : Finset ι} (hfg : Rearranged (s : Set ι) f g) :
    s.val.map g = s.val.map f := by
  obtain ⟨σ, hσ, hg⟩ := hfg
  have hs : s.map σ.toEmbedding = s := by
    refine Finset.map_perm fun k hk => ?_
    by_contra hout
    exact hk (hσ k hout)
  have hval : s.val.map σ = s.val := congrArg Finset.val hs
  have hgσ : g = f ∘ σ := funext hg
  rw [hgσ, ← Multiset.map_map, hval]

end Rearranged

section Sorted

variable {ι α : Type*} [LinearOrder ι] [Preorder α] {f : ι → α} {l p r : ι}

/-- **Two sorted parts with an element between them.** -/
theorem monotoneOn_join (hl : MonotoneOn f (Set.Ico l p)) (hr : MonotoneOn f (Set.Ioc p r))
    (hlp : ∀ k ∈ Set.Ico l p, f k ≤ f p) (hpr : ∀ k ∈ Set.Ioc p r, f p ≤ f k) :
    MonotoneOn f (Set.Icc l r) := by
  intro x hx y hy hxy
  rcases lt_trichotomy x p with hxp | rfl | hxp
  · have hfx : x ∈ Set.Ico l p := ⟨hx.1, hxp⟩
    rcases lt_trichotomy y p with hyp | rfl | hyp
    · exact hl hfx ⟨hy.1, hyp⟩ hxy
    · exact hlp x hfx
    · exact (hlp x hfx).trans (hpr y ⟨hyp, hy.2⟩)
  · rcases hxy.eq_or_lt with rfl | hlt
    · exact le_rfl
    · exact hpr y ⟨hlt, hy.2⟩
  · exact hr ⟨hxp, hx.2⟩ ⟨hxp.trans_le hxy, hy.2⟩ hxy

/-- **Sorting around a pivot.** Where the values before `p` are at most the one there and those behind
it at least, the whole is in order when each part is. -/
theorem sorted_around {g h : ι → α} (hl : l ≤ p) (hr : p ≤ r)
    (hlp : ∀ k ∈ Set.Ico l p, f k ≤ f p) (hpr : ∀ k ∈ Set.Ioc p r, f p ≤ f k)
    (hfg : Rearranged (Set.Ico l p) f g) (hg : MonotoneOn g (Set.Ico l p))
    (hgh : Rearranged (Set.Ioc p r) g h) (hh : MonotoneOn h (Set.Ioc p r)) :
    Rearranged (Set.Icc l r) f h ∧ MonotoneOn h (Set.Icc l r) := by
  have hbefore : ∀ k ∈ Set.Ico l p, h k = g k :=
    fun k hk => hgh.eq_of_notMem fun hout => (hk.2.trans hout.1).false
  have hbehind : ∀ k ∈ Set.Ioc p r, g k = f k :=
    fun k hk => hfg.eq_of_notMem fun hout => (hk.1.trans hout.2).false
  have hpivot : h p = f p := by
    rw [hgh.eq_of_notMem fun hout => hout.1.false, hfg.eq_of_notMem fun hout => hout.2.false]
  have hleft : Set.Ico l p ⊆ Set.Icc l r := fun k hk => ⟨hk.1, hk.2.le.trans hr⟩
  have hright : Set.Ioc p r ⊆ Set.Icc l r := fun k hk => ⟨hl.trans hk.1.le, hk.2⟩
  refine ⟨(hfg.mono hleft).trans (hgh.mono hright), monotoneOn_join ?_ hh (fun k hk => ?_)
    fun k hk => ?_⟩
  · intro x hx y hy hxy
    rw [hbefore x hx, hbefore y hy]
    exact hg hx hy hxy
  · rw [hbefore k hk, hpivot]
    exact hfg.forall (P := (· ≤ f p)) hlp k hk
  · rw [hpivot]
    refine hgh.forall (P := (f p ≤ ·)) (fun j hj => ?_) k hk
    rw [hbehind j hj]
    exact hpr j hj

end Sorted

end Segments
