import RCSdk.Lib.Run
import RCSdk.Proof.TabBarButtons
import RCSdk.Spec.Tabbar

/-!
# The index of the tab controller

`backLastIndex` takes the index before this one, which is -1 until a second tab was selected and
may be that of a tab removed since. `removeViewControllerAtIndex:` does not move the index, so a tab
may only be removed behind the selected one. A controller whose dictionary lacks an image has no
button, and is no tab to select or to remove.

* `tab_safe_iff`: the controller is shown and in every run no array is indexed out of bounds, and
  index, shown controller and highlighted button agree, exactly when the first tab has a button and
  every step meets this condition.
* `back_before_any_switch`: `backLastIndex` right after `viewDidLoad` raises.
-/

namespace RCSdk

open Trans

namespace RCTabbarController

/-- The buttons of the bar. -/
def buttons (s : RCTabbarController) : List TabButton := s._myTabBar.tabButtons

/-- The selected controller. -/
def selected (s : RCTabbarController) : Option ControllerRef := s.viewControllers[s.selectIndex.toNat]?

/-- **Index, controller and button agree**: the index is that of a controller with a button, this
controller is shown, and its button alone is highlighted. -/
structure Consistent (s : RCTabbarController) : Prop where
  lt : s.selectIndex.toNat < s.viewControllers.length
  lt_buttons : s.selectIndex.toNat < s.buttons.length
  shown : s.shown = s.selected
  button : ∀ i b, s.buttons[i]? = some b → (b.selected = true ↔ i = s.selectIndex.toNat)

/-- What a step is to leave: a consistent state, and the same controller selected when another tab
was removed. -/
def Safe (s : RCTabbarController) (ev : Event) (t : RCTabbarController) : Prop :=
  Consistent t ∧ ∀ index, ev = .removeViewControllerAtIndex index → index ≠ s.selectIndex →
    t.selected = s.selected

/-- **The condition on a step.** -/
def TabOK (s : RCTabbarController) (ev : Event) : Prop :=
  match ev with
  | .tabBarButtonClicked _ => True
  | .setSelectIndex index => index.toNat < s.buttons.length
  | .backLastIndex => s.lastIndex.toUInt64 = s.selectIndex ∨
      s.lastIndex.toUInt64.toNat < s.buttons.length
  | .removeViewControllerAtIndex index =>
    ∀ nav, s.viewControllers[index.toNat]? = some nav →
      index.toNat < s.buttons.length ∧ s.selectIndex < index ∧ s.shown ≠ some nav
  | .selectedNowController => True

/-- The first controllers have buttons, under the tags of their places. -/
structure Tagged (s : RCTabbarController) : Prop where
  length : s.buttons.length ≤ s.viewControllers.length
  tag : ∀ (i : ℕ) b, s.buttons[i]? = some b → b.tag = (i : ℤ) + 100
  few : s.buttons.length < NSNotFound

/-! ## Selecting a tab -/

variable {s t : RCTabbarController}

@[simp] theorem popToRootViewController_frame (navVC : ControllerRef) (s : RCTabbarController) :
    (s.popToRootViewController navVC).viewControllers = s.viewControllers ∧
      (s.popToRootViewController navVC).selectIndex = s.selectIndex ∧
      (s.popToRootViewController navVC).shown = s.shown ∧
      (s.popToRootViewController navVC)._myTabBar = s._myTabBar := by
  unfold popToRootViewController
  split
  · exact ⟨rfl, rfl, rfl, rfl⟩
  · split <;> exact ⟨rfl, rfl, rfl, rfl⟩

/-- `displayViewAtIndex:` shows the controller at the index, and raises beyond the end. -/
theorem displayViewAtIndex_eq (index : UInt64) (s : RCTabbarController) :
    (∀ nav, s.viewControllers[index.toNat]? = some nav →
      ∃ t, s.displayViewAtIndex index = some t ∧ t.viewControllers = s.viewControllers ∧
        t.selectIndex = index ∧ t.shown = some nav ∧ t._myTabBar = s._myTabBar) ∧
    (s.viewControllers[index.toNat]? = none → s.displayViewAtIndex index = none) := by
  have key : ∀ s' : RCTabbarController, s'.viewControllers = s.viewControllers →
      s'.selectIndex = index → s'._myTabBar = s._myTabBar →
      ∀ nav, ∃ t, (if s'.shown = some nav then s'.popToRootViewController nav
          else { s' with shown := some nav }) = t ∧ t.viewControllers = s.viewControllers ∧
        t.selectIndex = index ∧ t.shown = some nav ∧ t._myTabBar = s._myTabBar := by
    intro s' hv hi hb nav
    by_cases hs : s'.shown = some nav
    · obtain ⟨h1, h2, h3, h4⟩ := popToRootViewController_frame nav s'
      exact ⟨_, if_pos hs, h1.trans hv, h2.trans hi, h3.trans hs, h4.trans hb⟩
    · exact ⟨_, if_neg hs, hv, hi, rfl, hb⟩
  simp only [displayViewAtIndex]
  by_cases hi : s.selectIndex = index
  · subst hi
    simp only [if_true]
    refine ⟨fun nav hnav => ?_, fun hnone => by rw [hnone]; rfl⟩
    obtain ⟨t, ht, hrest⟩ := key s rfl rfl rfl nav
    exact ⟨t, by rw [hnav, Option.map_some, ht], hrest⟩
  · simp only [hi, if_false]
    refine ⟨fun nav hnav => ?_, fun hnone => by rw [hnone]; rfl⟩
    obtain ⟨t, ht, hrest⟩ := key
      { s with lastIndex := s.selectIndex.toInt64, selectIndex := index } rfl rfl rfl nav
    exact ⟨t, by rw [hnav, Option.map_some, ht], hrest⟩

/-- **What selecting a tab does**: nothing is found at an index that has no button. -/
theorem setSelectIndex_eq (h : Tagged s) (index : UInt64) :
    (index.toNat < s.buttons.length → ∃ nav t, s.viewControllers[index.toNat]? = some nav ∧
      s.setSelectIndex index = some t ∧ t.viewControllers = s.viewControllers ∧
        t.selectIndex = index ∧ t.shown = some nav ∧
        t.buttons = TabButtons.highlight index.toNat s.buttons) ∧
    (s.buttons.length ≤ index.toNat → s.setSelectIndex index = none) := by
  obtain ⟨hsome, hnone⟩ := displayViewAtIndex_eq index s
  obtain ⟨hselect, hraise⟩ := TabBar.selectTabAtIndex_spec h.few index.toInt64
  rw [UInt64.toUInt64_toInt64] at hselect hraise
  simp only [setSelectIndex, didSelectIndex, UInt64.toUInt64_toInt64]
  refine ⟨fun hlt => ?_, fun hle => ?_⟩
  · have hnav := List.getElem?_eq_getElem (Nat.lt_of_lt_of_le hlt h.length)
    obtain ⟨t, ht, hv, hi, hs, hb⟩ := hsome _ hnav
    obtain ⟨bar, hbar, hbuttons⟩ := hselect hlt
    refine ⟨_, { t with _myTabBar := bar }, hnav, ?_, hv, hi, hs, hbuttons⟩
    simp only [ht, Option.bind_eq_bind, Option.bind_some, hi, hb, hbar]
  · cases hnav : s.viewControllers[index.toNat]? with
    | none => rw [hnone hnav, Option.bind_eq_bind, Option.bind_none]
    | some nav =>
      obtain ⟨t, ht, -, hi, -, hb⟩ := hsome nav hnav
      simp only [ht, Option.bind_eq_bind, Option.bind_some, hi, hb, hraise hle, Option.bind_none]

theorem consistent_of_select {index : UInt64} {nav : ControllerRef}
    (hnav : s.viewControllers[index.toNat]? = some nav)
    (hv : t.viewControllers = s.viewControllers) (hi : t.selectIndex = index)
    (hs : t.shown = some nav) {buttons : List TabButton} (hlt : index.toNat < buttons.length)
    (hb : t.buttons = TabButtons.highlight index.toNat buttons) : Consistent t := by
  refine ⟨?_, ?_, ?_, fun i b hib => ?_⟩
  · rw [hi, hv]
    exact (List.getElem?_eq_some_iff.1 hnav).1
  · rw [hi, hb, TabButtons.highlight_length]
    exact hlt
  · rw [hs, selected, hi, hv, hnav]
  · rw [hb] at hib
    obtain ⟨b', -, rfl⟩ := TabButtons.highlight_getElem? hib
    rw [hi]
    exact decide_eq_true_iff

theorem tagged_of_select (h : Tagged s) (hv : t.viewControllers = s.viewControllers) {place : ℕ}
    (hb : t.buttons = TabButtons.highlight place s.buttons) : Tagged t := by
  refine ⟨?_, fun i b hib => ?_, ?_⟩
  · rw [hb, hv, TabButtons.highlight_length]
    exact h.length
  · rw [hb] at hib
    obtain ⟨b', hb', rfl⟩ := TabButtons.highlight_getElem? hib
    exact h.tag i b' hb'
  · rw [hb, TabButtons.highlight_length]
    exact h.few

/-- Selecting a tab that is there. -/
theorem setSelectIndex_step (h : Tagged s) {index : UInt64}
    (hlt : index.toNat < s.buttons.length) :
    ∃ t, s.setSelectIndex index = some t ∧ Tagged t ∧ Consistent t := by
  obtain ⟨nav, t, hnav, ht, hv, hi, hs, hb⟩ := (setSelectIndex_eq h index).1 hlt
  exact ⟨t, ht, tagged_of_select h hv hb, consistent_of_select hnav hv hi hs hlt hb⟩

theorem lt_of_setSelectIndex (h : Tagged s) {index : UInt64}
    (ht : s.setSelectIndex index = some t) : index.toNat < s.buttons.length := by
  by_contra hlt
  rw [(setSelectIndex_eq h index).2 (Nat.le_of_not_lt hlt)] at ht
  cases ht

/-! ## Taps -/

/-- The tag of a button gives the place of it back. -/
theorem toNat_tag {i : ℕ} (h : i < NSNotFound) :
    (Int64.ofInt ((i : ℤ) + 100 - 100)).toUInt64.toNat = i := by
  have hi : i < 2 ^ 64 := by
    unfold NSNotFound at h
    omega
  rw [Int.add_sub_cancel, Int64.ofInt_eq_ofNat, Int64.toUInt64_ofNat', UInt64.toNat_ofNat',
    Nat.mod_eq_of_lt hi]

/-- The place as the number the delegate is told. -/
theorem toInt_tag {i : ℕ} (h : i < NSNotFound) :
    (Int64.ofInt ((i : ℤ) + 100 - 100)).toInt = (i : ℤ) := by
  rw [Int.add_sub_cancel, Int64.ofInt_eq_ofNat]
  exact Int64.toInt_ofNat_of_lt (by unfold NSNotFound at h; omega)

theorem tabBarButtonClicked_step (h : Tagged s) {place : ℕ} {btn : BarButton}
    (hb : s._myTabBar.buttons[place]? = some btn) :
    ∃ t, s.tabBarButtonClicked btn = some t ∧ Tagged t ∧ Consistent t := by
  have hbtn : s.buttons[place]? = some btn.toTabButton := by
    rw [buttons, TabBar.tabButtons, List.getElem?_map, hb, Option.map_some]
  have hlt : place < s.buttons.length := (List.getElem?_eq_some_iff.1 hbtn).1
  have hplace := toNat_tag (Nat.lt_trans hlt h.few)
  have hint := toInt_tag (Nat.lt_trans hlt h.few)
  have htag : btn.tag - 100 = (place : ℤ) + 100 - 100 := by rw [h.tag place _ hbtn]
  set index := Int64.ofInt ((place : ℤ) + 100 - 100) with hindex
  -- the bar selects the place, and the controller selects it again
  obtain ⟨bar, hbar, hbuttons⟩ := (TabBar.selectTabAtIndex_spec h.few index).1 (hplace.symm ▸ hlt)
  rw [hplace] at hbuttons
  set s' : RCTabbarController := { s with _myTabBar := bar }
  have hs' : Tagged s' := tagged_of_select h rfl hbuttons
  have hlt' : index.toUInt64.toNat < s'.buttons.length := by
    have hlen := congrArg List.length hbuttons
    rw [TabButtons.highlight_length] at hlen
    rw [hplace]
    exact Nat.lt_of_lt_of_eq hlt hlen.symm
  obtain ⟨t, ht, htagged, hct⟩ := setSelectIndex_step hs' hlt'
  refine ⟨t, ?_, htagged, hct⟩
  rw [hint] at hbar
  have hnum : (place : ℤ) + 100 - 100 = (place : ℤ) := Int.add_sub_cancel _ _
  simp only [tabBarButtonClicked, TabBar.tabBarButtonClicked, htag, hnum, hbar, Option.map_some,
    Option.bind_eq_bind, Option.bind_some]
  rw [setSelectIndex, Int64.toInt64_toUInt64, hindex, hnum] at ht
  exact ht

/-! ## Removing a tab -/

theorem removeViewControllerAtIndex_eq (h : Tagged s) {index : UInt64} {nav : ControllerRef}
    (hnav : s.viewControllers[index.toNat]? = some nav) (hlt : index.toNat < s.buttons.length) :
    ∃ t : RCTabbarController, s.removeViewControllerAtIndex index = some t ∧ Tagged t ∧
      t.viewControllers = s.viewControllers.eraseIdx index.toNat ∧
      t.selectIndex = s.selectIndex ∧ t.shown = (if s.shown = some nav then none else s.shown) ∧
      t.buttons.length = s.buttons.length - 1 ∧
      ∀ (i : ℕ) b', t.buttons[i]? = some b' → ∃ b,
        s.buttons[if i < index.toNat then i else i + 1]? = some b ∧ b'.selected = b.selected := by
  have hltv : index.toNat < s.viewControllers.length := (List.getElem?_eq_some_iff.1 hnav).1
  obtain ⟨bar, hbar, hlen, hget⟩ := (TabBar.removeTabAtIndex_spec h.few h.tag index).1 hlt
  simp only [removeViewControllerAtIndex, hnav, hbar]
  refine ⟨_, rfl, ⟨?_, fun i b' hb' => (hget i b' hb').1, ?_⟩, rfl, rfl, rfl, hlen,
    fun i b' hb' => (hget i b' hb').2⟩
  · have hle := h.length
    rw [List.length_eraseIdx_of_lt hltv]
    exact Nat.le_trans hlen.le (Nat.sub_le_sub_right hle 1)
  · exact Nat.lt_of_le_of_lt (hlen.le.trans (Nat.sub_le _ 1)) h.few

/-- Without a button the bar raises. -/
theorem lt_of_removeViewControllerAtIndex (h : Tagged s) {index : UInt64} {nav : ControllerRef}
    (hnav : s.viewControllers[index.toNat]? = some nav)
    (ht : s.removeViewControllerAtIndex index = some t) : index.toNat < s.buttons.length := by
  by_contra hlt
  have hnone := (TabBar.removeTabAtIndex_spec h.few h.tag index).2 (Nat.le_of_not_lt hlt)
  simp only [removeViewControllerAtIndex, hnav, hnone, Option.bind_eq_bind, Option.bind_none] at ht
  cases ht

/-- **Removing a tab behind the selected one** changes nothing of what is selected. -/
theorem remove_step (h : Tagged s) (hc : Consistent s) {index : UInt64} {nav : ControllerRef}
    (hnav : s.viewControllers[index.toNat]? = some nav) (hbtn : index.toNat < s.buttons.length)
    (hlt : s.selectIndex < index) (hne : s.shown ≠ some nav) :
    ∃ t, s.removeViewControllerAtIndex index = some t ∧ Tagged t ∧ Consistent t ∧
      t.selected = s.selected := by
  obtain ⟨t, ht, htag, hv, hi, hs, hlen, hb⟩ := removeViewControllerAtIndex_eq h hnav hbtn
  have hlt : s.selectIndex.toNat < index.toNat := UInt64.lt_iff_toNat_lt.1 hlt
  have hlenv : index.toNat < s.viewControllers.length := (List.getElem?_eq_some_iff.1 hnav).1
  have hsel : t.selected = s.selected := by
    rw [selected, selected, hv, hi, List.getElem?_eraseIdx, if_pos hlt]
  refine ⟨t, ht, htag, ⟨?_, ?_, ?_, fun i b' hb' => ?_⟩, hsel⟩
  · rw [hv, hi, List.length_eraseIdx_of_lt hlenv]
    omega
  · rw [hi, hlen]
    omega
  · rw [hs, if_neg hne, hsel]
    exact hc.shown
  · obtain ⟨b, hb, hbs⟩ := hb i b' hb'
    rw [hbs, hc.button _ b hb, hi]
    split <;> omega

/-- **Removing another tab**, or one of the shown controller, leaves no consistent state. -/
theorem remove_inconsistent (h : Tagged s) (hc : Consistent s) {index : UInt64}
    {nav : ControllerRef} (hnav : s.viewControllers[index.toNat]? = some nav)
    (ht : s.removeViewControllerAtIndex index = some t) (hct : Consistent t) :
    index.toNat < s.buttons.length ∧ s.selectIndex < index ∧ s.shown ≠ some nav := by
  have hbtn := lt_of_removeViewControllerAtIndex h hnav ht
  obtain ⟨t', ht', htag, hv, hi, hs, hlen, hb⟩ := removeViewControllerAtIndex_eq h hnav hbtn
  obtain rfl := Option.some.inj (ht.symm.trans ht')
  have hlt := hct.lt
  have hne : s.shown ≠ some nav := by
    intro he
    have hnone := hct.shown
    rw [hs, if_pos he, selected, List.getElem?_eq_getElem hlt] at hnone
    cases hnone
  refine ⟨hbtn, ?_, hne⟩
  by_contra hge
  have hge : index.toNat ≤ s.selectIndex.toNat := by
    rw [UInt64.lt_iff_toNat_lt] at hge
    omega
  have hltb := hct.lt_buttons
  rw [hi] at hltb
  -- the button now at the selected place is not the one that was highlighted
  obtain ⟨b, hb, hbs⟩ := hb _ _ (List.getElem?_eq_getElem hltb)
  have h1 := (hct.button _ _ (List.getElem?_eq_getElem hltb)).2 (by rw [hi])
  rw [if_neg (by omega)] at hb
  rw [hbs, hc.button _ b hb] at h1
  omega

/-! ## Runs -/

/-- A new controller. -/
theorem tagged_init {vcs : List ControllerRef} {bArr : List TabImageDic}
    {stack : ControllerRef → Option (List ControllerRef)}
    (h : initWithViewControllers vcs bArr stack = some (some s)) :
    Tagged s ∧ (0 < s.buttons.length ↔ bArr.head?.any TabImageDic.complete = true) := by
  unfold initWithViewControllers at h
  split_ifs at h with hcount
  · obtain ⟨bar, hbar, hs⟩ := Option.map_eq_some_iff.1 h
    obtain rfl := Option.some.inj hs
    have hb := TabBar.initWithFrame_tabButtons hbar
    have hlen : bar.tabButtons.length = bar.buttons.length := bar.tabButtons_length
    refine ⟨⟨?_, fun i b hib => ?_, ?_⟩, hlen ▸ hb.pos⟩
    · exact (hlen.trans_le hb.le).trans_eq hcount.symm
    · change bar.tabButtons[i]? = some b at hib
      rw [hb.tabButtons] at hib
      exact TabButtons.numbered_tag hib
    · exact Nat.lt_of_le_of_lt (hlen.trans_le hb.few) (by decide)
  · cases Option.some.inj h

/-- A step that meets the condition. -/
theorem step_safe (h : Tagged s ∧ Consistent s) {ev : Event} (hok : TabOK s ev) :
    ∃ t, s.step ev = some t ∧ (Tagged t ∧ Consistent t) ∧ Safe s ev t := by
  obtain ⟨ht, hc⟩ := h
  cases ev with
  | tabBarButtonClicked place =>
    cases hb : s._myTabBar.buttons[place]? with
    | none => exact ⟨s, by rw [step, hb], ⟨ht, hc⟩, hc, by simp⟩
    | some btn =>
      obtain ⟨t, hst, htt, hct⟩ := tabBarButtonClicked_step ht hb
      exact ⟨t, by simp only [step, hb, hst], ⟨htt, hct⟩, hct, by simp⟩
  | setSelectIndex index =>
    obtain ⟨t, hst, htt, hct⟩ := setSelectIndex_step ht hok
    exact ⟨t, hst, ⟨htt, hct⟩, hct, by simp⟩
  | backLastIndex =>
    by_cases he : s.lastIndex.toUInt64 = s.selectIndex
    · exact ⟨s, if_pos he, ⟨ht, hc⟩, hc, by simp⟩
    · obtain ⟨t, hst, htt, hct⟩ := setSelectIndex_step ht (hok.resolve_left he)
      exact ⟨t, (if_neg he).trans hst, ⟨htt, hct⟩, hct, by simp⟩
  | removeViewControllerAtIndex index =>
    cases hnav : s.viewControllers[index.toNat]? with
    | none =>
      have hst : s.step (.removeViewControllerAtIndex index) = some s := by
        simp only [step, removeViewControllerAtIndex, hnav]
      exact ⟨s, hst, ⟨ht, hc⟩, hc, fun _ _ _ => rfl⟩
    | some nav =>
      obtain ⟨hbtn, hlt, hne⟩ := hok nav hnav
      obtain ⟨t, hst, htt, hct, hsel⟩ := remove_step ht hc hnav hbtn hlt hne
      exact ⟨t, hst, ⟨htt, hct⟩, hct, fun _ _ _ => hsel⟩
  | selectedNowController =>
    refine ⟨s, ?_, ⟨ht, hc⟩, hc, by simp⟩
    simp only [step, RCTabbarController.selectedNowController, List.getElem?_eq_getElem hc.lt,
      Option.map_some]

/-- A step that leaves what it is to leave met the condition. -/
theorem tabOK_of_safe (h : Tagged s ∧ Consistent s) {ev : Event} (hst : s.step ev = some t)
    (hs : Safe s ev t) : TabOK s ev := by
  obtain ⟨ht, hc⟩ := h
  cases ev with
  | tabBarButtonClicked place => trivial
  | setSelectIndex index => exact lt_of_setSelectIndex ht hst
  | backLastIndex =>
    by_cases he : s.lastIndex.toUInt64 = s.selectIndex
    · exact Or.inl he
    · simp only [step, backLastIndex, he, if_false] at hst
      exact Or.inr (lt_of_setSelectIndex ht hst)
  | removeViewControllerAtIndex index =>
    exact fun nav hnav => remove_inconsistent ht hc hnav hst hs.1
  | selectedNowController => trivial

/-- **The controller is shown, no array is indexed out of bounds, and index, shown controller and
highlighted button agree, exactly when the first tab has both images and every step after
`viewDidLoad` meets the condition.** -/
theorem tab_safe_iff {vcs : List ControllerRef} {bArr : List TabImageDic}
    {stack : ControllerRef → Option (List ControllerRef)}
    (h : initWithViewControllers vcs bArr stack = some (some s)) (evs : List Event) :
    (∃ t, s.viewDidLoad = some t ∧ Consistent t ∧
      ∀ q ∈ visited step t evs, ∃ u, step q.1 q.2 = some u ∧ Safe q.1 q.2 u) ↔
      bArr.head?.any TabImageDic.complete = true ∧
        ∀ t, s.viewDidLoad = some t → ∀ q ∈ visited step t evs, TabOK q.1 q.2 := by
  obtain ⟨htag, hpos⟩ := tagged_init h
  have hrun : ∀ t, Tagged t ∧ Consistent t →
      ((∀ q ∈ visited step t evs, ∃ u, step q.1 q.2 = some u ∧ Safe q.1 q.2 u) ↔
        ∀ q ∈ visited step t evs, TabOK q.1 q.2) := fun t ht =>
    forall_visited_iff_of (fun s ev h hok => step_safe h hok)
      (fun s ev t h hst hsafe => tabOK_of_safe h hst hsafe) evs t ht
  rw [← hpos]
  constructor
  · rintro ⟨t, ht, hc, hsafe⟩
    have hlt := lt_of_setSelectIndex htag ht
    obtain ⟨t', ht', htt, -⟩ := setSelectIndex_step htag hlt
    obtain rfl := Option.some.inj (ht.symm.trans ht')
    refine ⟨hlt, fun u hu => ?_⟩
    obtain rfl := Option.some.inj (ht.symm.trans hu)
    exact (hrun t ⟨htt, hc⟩).1 hsafe
  · rintro ⟨hlt, hok⟩
    have hlt : (0 : UInt64).toNat < s.buttons.length := hlt
    obtain ⟨t, ht, htt, hc⟩ := setSelectIndex_step htag hlt
    exact ⟨t, ht, hc, (hrun t ⟨htt, hc⟩).2 (hok t ht)⟩

/-- Two controllers; the dictionary of the second may lack an image. -/
def twoTabs (second : Bool) : Option (Option RCTabbarController) :=
  initWithViewControllers [0, 1] [⟨true, true⟩, ⟨second, true⟩] fun _ => none

/-- There and back. -/
theorem two_tabs_safe :
    ∃ s t, twoTabs true = some (some s) ∧ s.viewDidLoad = some t ∧ Consistent t ∧
      ∀ q ∈ visited step t [.setSelectIndex 1, .backLastIndex], ∃ u,
        step q.1 q.2 = some u ∧ Safe q.1 q.2 u := by
  have hs : twoTabs true = some (some _) := rfl
  obtain ⟨t, ht, hc, hsafe⟩ := (tab_safe_iff hs [.setSelectIndex 1, .backLastIndex]).2
    ⟨rfl, fun t ht q hq => by
      obtain rfl := Option.some.inj ht
      rcases List.mem_cons.1 hq with rfl | hq
      · exact (by decide : (1 : UInt64).toNat < 2)
      · obtain rfl := List.mem_singleton.1 hq
        exact Or.inr (by decide : (0 : UInt64).toNat < 2)⟩
  exact ⟨_, t, hs, ht, hc, hsafe⟩

/-- `backLastIndex` right after `viewDidLoad` raises, and after the tab before the selected one is
removed the index is beyond the end. Where the second dictionary lacks an image there is no button
for the second controller, and selecting it raises. -/
theorem back_before_any_switch :
    (((twoTabs true).join.bind viewDidLoad).bind fun s => s.step .backLastIndex).isNone = true ∧
      (((twoTabs true).join.bind viewDidLoad).bind fun s =>
        exec step s [.setSelectIndex 1, .removeViewControllerAtIndex 0]).map
          (fun t => (t.selectIndex, t.viewControllers, t.shown, t.selectedNowController)) =
        some (1, [1], some 1, none) ∧
      ((twoTabs false).join.bind viewDidLoad).isSome = true ∧
      (((twoTabs false).join.bind viewDidLoad).bind fun s =>
        s.step (.setSelectIndex 1)).isNone = true := by
  decide +kernel

end RCTabbarController

end RCSdk
