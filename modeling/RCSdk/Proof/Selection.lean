import RCSdk.Lib.Run
import RCSdk.Proof.DropDown
import RCSdk.Proof.SortBar

/-!
# One item selected at a time

* `tap_selects`: in a sort bar, and in a drop-down list that stays after a tap, every tap of every
  sequence selects the tapped item and no other.
-/

namespace RCSdk

open Trans

/-- A tap on any place of a sort bar. -/
theorem SortSelect.step_place {items : SelectItems} {s : SortSelect}
    (h : Settled HasButton s.panel ∧ s.sortModelArr = items.list) (i : ℕ) :
    ∃ t, s.step (100 + i) = some t ∧ (Settled HasButton t.panel ∧ t.sortModelArr = items.list) ∧
      ∀ x, items.list[i]? = some x → Tapped s.panel t.panel (100 + i) x := by
  obtain ⟨hset, hl⟩ := h
  cases hx : s.sortModelArr[i]? with
  | some x =>
    obtain ⟨t, hst, ht, htap⟩ := step_tap hset (hl ▸ items.few) hx
    refine ⟨t, hst, ⟨ht, htap.list.trans hl⟩, fun y hy => ?_⟩
    rw [← hl, hx] at hy
    obtain rfl := Option.some.inj hy
    exact htap
  | none =>
    have hno : viewWithTag (100 + i) s.sortScroll = none := by
      cases hv : viewWithTag (100 + i) s.sortScroll with
      | none => rfl
      | some b =>
        obtain ⟨hb, ht⟩ := viewWithTag_eq_some hv
        have hp : s.sortModelArr[b.tag - 100]? = some b.model := (hset.place b hb).2
        rw [ht, Nat.add_sub_cancel_left, hx] at hp
        cases hp
    refine ⟨s, by rw [step, hno], ⟨hset, hl⟩, fun y hy => ?_⟩
    rw [← hl, hx] at hy
    cases hy

/-- A tap on any place of a drop-down list that stays. -/
theorem DownSelect.step_place {items : SelectItems} {s : DownSelect}
    (h : Stays s ∧ s.view.selectList = items.list ∧
      ∀ one, (s.models one).modelSelect = (items.models one).modelSelect) (i : ℕ) :
    ∃ t, s.step (.tap (100 + i)) = some t ∧ (Stays t ∧ t.view.selectList = items.list ∧
        ∀ one, (t.models one).modelSelect = (items.models one).modelSelect) ∧
      ∀ x, items.list[i]? = some x → HasButton (items.models x) →
        Tapped s.panel t.panel (100 + i) x := by
  obtain ⟨hs, hl, hmodel⟩ := h
  cases hv : viewWithTag (100 + i) s.view.displayed with
  | some b =>
    obtain ⟨hb, htag⟩ := viewWithTag_eq_some hv
    obtain ⟨t, hst, ht, htap⟩ := step_tap hs hb
    rw [htag] at hst htap
    refine ⟨t, hst, ⟨ht, htap.list.trans hl, fun one => ?_⟩, fun x hx _ => ?_⟩
    · exact (htap.modelSelect one).trans (hmodel one)
    · have hp : s.view.selectList[b.tag - 100]? = some b.model :=
        (hs.panel.place b (hs.displayed ▸ hb)).2
      rw [htag, Nat.add_sub_cancel_left, hl, hx] at hp
      obtain rfl := Option.some.inj hp
      exact htap
  | none =>
    refine ⟨s, by rw [step, hv], ⟨hs, hl, hmodel⟩, fun x hx hb => ?_⟩
    have hx' : s.panel.list[i]? = some x := by rw [← hx, ← hl]; rfl
    have hb' : HasButton (s.panel.models x) := (hmodel x).trans_ne hb
    obtain ⟨b, hbm, htag⟩ := hs.panel.button i x hx' hb'
    obtain ⟨b', hb''⟩ := viewWithTag_isSome hbm htag
    rw [← hs.displayed, hv] at hb''
    cases hb''

/-- **One item selected at a time.** In a sort bar, and in a drop-down list that stays after a tap,
every tap of every sequence selects the tapped item and no other. -/
theorem tap_selects (items : SelectItems) :
    (∀ bar, SortSelect.shown items.models items.list = some bar → ∀ taps : List ℕ,
      ∀ q ∈ visited (fun s i => SortSelect.step s (100 + i)) bar taps, ∃ t,
        SortSelect.step q.1 (100 + q.2) = some t ∧
          ∀ x, items.list[q.2]? = some x → Tapped q.1.panel t.panel (100 + q.2) x) ∧
    ∀ taps : List ℕ, ∀ q ∈ visited (fun s i => DownSelect.step s (.tap (100 + i)))
        (DownSelect.shown items.models items.list) taps, ∃ t,
      DownSelect.step q.1 (.tap (100 + q.2)) = some t ∧
        ∀ x, items.list[q.2]? = some x → DownSelect.HasButton (items.models x) →
          Tapped q.1.panel t.panel (100 + q.2) x := by
  constructor
  · intro bar hbar taps
    have hl : bar.sortModelArr = items.list := SortSelect.shown_sortModelArr hbar
    exact forall_visited_of_step (fun s i h => SortSelect.step_place h i) taps bar
      ⟨SortSelect.settled_shown hbar, hl⟩
  · intro taps
    by_cases hne : items.list.length = 0
    · have hnil : items.list = [] := List.length_eq_zero_iff.1 hne
      have hstep : ∀ (s : DownSelect) (i : ℕ), s.view.displayed = [] →
          ∃ t, s.step (.tap (100 + i)) = some t ∧ t.view.displayed = [] ∧
            ∀ x, items.list[i]? = some x → DownSelect.HasButton (items.models x) →
              Tapped s.panel t.panel (100 + i) x := by
        intro s i h
        refine ⟨s, by simp [DownSelect.step, viewWithTag, h], h, fun x hx => ?_⟩
        simp [hnil] at hx
      refine forall_visited_of_step hstep taps _ ?_
      simp [DownSelect.shown, DownSelectView.openSelectFrame, hne, DownSelectView.displayed,
        DownSelectView.initWithView]
    · refine forall_visited_of_step (fun s i h => DownSelect.step_place h i) taps _
        ⟨DownSelect.stays_shown items hne, ?_, fun _ => rfl⟩
      simp [DownSelect.shown, DownSelectView.openSelectFrame, hne, DownSelectView.initWithView]

/-- A selected Multiselect item and one of type Radio. -/
def twoItems : SelectItems where
  models one := if one = 0 then
      { (SelectToModel.initWithType .multiselect).selectModelToDo true with
        modelSelect := .default, isFirstFire := false, name := some "time" }
    else { SelectToModel.initWithType .radio with
      modelSelect := .default, isFirstFire := false, name := some "price" }
  list := [0, 1]
  nodup := by decide
  few := by decide
  made one _ := by
    split
    · exact .setFields _ _ _ (.selectModelToDo _ (.initWithType _))
    · exact .setFields _ _ _ (.initWithType _)
  atMostOne := by decide

theorem tap_selects_second :
    (∃ bar t, SortSelect.shown twoItems.models twoItems.list = some bar ∧
      bar.step 101 = some t ∧ Tapped bar.panel t.panel 101 1) ∧
    ∃ t, (DownSelect.shown twoItems.models twoItems.list).step (.tap 100) = some t ∧
      Tapped (DownSelect.shown twoItems.models twoItems.list).panel t.panel 100 0 := by
  obtain ⟨hbar, hview⟩ := tap_selects twoItems
  obtain ⟨bar, hshown⟩ : ∃ bar, SortSelect.shown twoItems.models twoItems.list = some bar := ⟨_, rfl⟩
  obtain ⟨t, ht, htap⟩ := hbar bar hshown [1] (bar, 1) List.mem_cons_self
  obtain ⟨t', ht', htap'⟩ := hview [0] _ List.mem_cons_self
  exact ⟨⟨bar, t, hshown, ht, htap 1 rfl⟩, t', ht', htap' 0 rfl (by simp [DownSelect.HasButton, twoItems])⟩

end RCSdk
