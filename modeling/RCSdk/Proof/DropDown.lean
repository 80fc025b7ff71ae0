import RCSdk.Proof.Panel

/-!
# A tap in a drop-down list

* `settled_buildItems`: the buttons that are built for a list are in order.
* `selectToDo_eq`: `selectToDo:`, whatever the items and buttons are.
* `selectToDo_tapped`, `DownSelect.step_tap`: where they are in order.
-/

namespace RCSdk

namespace DownSelect

/-- An item for which `openSelectFrame:ItemHeight:List:` builds a button. -/
def HasButton (m : SelectToModel) : Prop := m.modelSelect ≠ .free

/-- A view that stays after a tap, with its buttons on the screen. -/
structure Stays (s : DownSelect) : Prop where
  panel : Settled HasButton s.panel
  isAutoPop : s.view.isAutoPop = false
  isOnScreen : s.view.isOnScreen = true
  bgView : s.view.bgView.isSome = true

theorem Stays.displayed {s : DownSelect} (h : Stays s) : s.view.displayed = s.panel.buttons := by
  rw [DownSelectView.displayed, if_pos h.isOnScreen]
  rfl

theorem buildItems_mem {models : Models} {list : List ItemRef} {b : UIButton}
    (hb : b ∈ DownSelectView.buildItems models list) :
    ∃ i one, list[i]? = some one ∧ b = DownSelectView.item one (models one) i := by
  simp only [DownSelectView.buildItems, List.mem_filterMap, Prod.exists] at hb
  obtain ⟨one, i, hmem, hb⟩ := hb
  refine ⟨i, one, List.mk_mem_zipIdx_iff_getElem?.1 hmem, ?_⟩
  split at hb <;> first | exact (Option.some.inj hb).symm | cases hb

theorem mem_buildItems {models : Models} {list : List ItemRef} {i : ℕ} {one : ItemRef}
    (hi : list[i]? = some one) (hb : HasButton (models one)) :
    DownSelectView.item one (models one) i ∈ DownSelectView.buildItems models list := by
  simp only [DownSelectView.buildItems, List.mem_filterMap, Prod.exists]
  refine ⟨one, i, List.mk_mem_zipIdx_iff_getElem?.2 hi, ?_⟩
  unfold HasButton at hb
  cases hm : (models one).modelSelect with
  | free => exact absurd hm hb
  | default => rfl
  | model_2 => rfl

/-- The buttons built for a list are in order. -/
theorem settled_buildItems {models : Models} {list : List ItemRef} (hl : list.Nodup)
    (htags : ∀ one ∈ list, (models one).TagOK)
    (hmost : ∀ one ∈ list, ∀ two ∈ list,
      (models one).isSelected = true → (models two).isSelected = true → one = two)
    (calls : List DelegateCall) :
    Settled HasButton ⟨models, list, DownSelectView.buildItems models list, calls⟩ := by
  refine ⟨⟨hl, htags, hmost, ?_, ?_, ?_⟩, ?_⟩
  · intro b hb
    obtain ⟨i, one, hi, rfl⟩ := buildItems_mem hb
    refine ⟨Nat.le_add_right 100 i, ?_⟩
    simpa [DownSelectView.item] using hi
  · intro b hb hlogo
    obtain ⟨i, one, -, rfl⟩ := buildItems_mem hb
    cases hlogo
  · intro i one hi hb
    exact ⟨_, mem_buildItems hi hb, rfl⟩
  · intro b hb
    obtain ⟨i, one, -, rfl⟩ := buildItems_mem hb
    rfl

/-- What the first call of `openSelectFrame:ItemHeight:List:` leaves. -/
theorem openSelectFrame_first {list : List ItemRef} (hne : list.length ≠ 0) (models : Models)
    {v : DownSelectView} (hv : v.bgView = none) :
    v.openSelectFrame models (some list) =
      { v with selectList := list, bgView := some (DownSelectView.buildItems models list) } := by
  simp only [DownSelectView.openSelectFrame, hne, if_false, hv]

theorem stays_shown (items : SelectItems) (hne : items.list.length ≠ 0) :
    Stays (shown items.models items.list) := by
  have hv := openSelectFrame_first hne items.models
    (v := { DownSelectView.initWithView with isAutoPop := false }) rfl
  have hset := settled_buildItems items.nodup (fun one hone => (items.made one hone).tagOK)
    items.atMostOne []
  unfold shown
  rw [hv]
  exact ⟨hset, rfl, rfl, rfl⟩

/-- What a tap tells the delegate: nothing of an item that is selected already, but that the view
closes if it is to. -/
def callsOf (v : DownSelectView) (m : SelectToModel) (x : ItemRef) : List DelegateCall :=
  if m.isRepeated then if v.isAutoPop then [.colseView] else [] else [.downSelectView x]

/-- The view after a tap on an item, which may close it. -/
def viewAfter (v : DownSelectView) (m : SelectToModel) (buttons : List UIButton) : DownSelectView :=
  { v with
    bgView := some buttons
    hasTapGesture := v.hasTapGesture && !(m.isRepeated && v.isAutoPop)
    isOnScreen := v.isOnScreen && !v.isAutoPop }

/-- The items and the buttons after a tap on item `x`. -/
def afterTap (v : DownSelectView) (sender : ℕ) (x : ItemRef) (models : Models)
    (buttons : List UIButton) : Models × List UIButton :=
  if (models x).isRepeated then (models, buttons)
  else selectLoop (·.setSelected false) v.selectList x sender models buttons

/-- **`selectToDo:`**, when it finds an item. -/
theorem selectToDo_eq {v : DownSelectView} {sender : ℕ} {x : ItemRef} {buttons : List UIButton}
    (hbg : v.bgView = some buttons) (hx : v.selectList[sender - 100]? = some x) (models : Models) :
    v.selectToDo sender models =
      some ((afterTap v sender x models buttons).1,
        viewAfter v (models x) (afterTap v sender x models buttons).2,
        callsOf v (models x) x) := by
  obtain ⟨bgView, selectList, isAutoPop, hasTapGesture, isOnScreen⟩ := v
  subst hbg
  simp only [DownSelectView.selectToDo, hx, Option.map_some, callsOf, viewAfter, afterTap]
  cases hr : (models x).isRepeated with
  | true => cases isAutoPop <;> simp [DownSelectView.closeDo, DownSelectView.hideSelect]
  | false => cases isAutoPop <;> simp [DownSelectView.hideSelect]

/-- A tap in a view whose items and buttons are in order. -/
theorem selectToDo_tapped {v : DownSelectView} {models : Models} {calls : List DelegateCall}
    {sender : ℕ} {x : ItemRef} {buttons : List UIButton} (hbg : v.bgView = some buttons)
    (h : Settled HasButton ⟨models, v.selectList, buttons, calls⟩) (h100 : 100 ≤ sender)
    (hx : v.selectList[sender - 100]? = some x) :
    ∃ models' buttons' told,
      v.selectToDo sender models =
        some (models', viewAfter v (models x) buttons', callsOf v (models x) x) ∧
      Settled HasButton ⟨models', v.selectList, buttons', calls ++ told⟩ ∧
      Tapped ⟨models, v.selectList, buttons, calls⟩ ⟨models', v.selectList, buttons', calls ++ told⟩
        sender x ∧
      told = if (models x).isRepeated then [] else [.downSelectView x] := by
  rw [selectToDo_eq hbg hx models, afterTap]
  cases hr : (models x).isRepeated with
  | true =>
    refine ⟨models, buttons, [], rfl, by simpa using h, ?_, rfl⟩
    simpa using tapped_repeated h h100 hx hr
  | false =>
    have hm := congrArg Prod.fst (selectLoop_eq (u := (·.setSelected false)) (fun _ => rfl)
      h.nodup x sender models buttons)
    have hmark := marked_selectLoop (u := (·.setSelected false)) h.toPlaced
      (fun _ => ⟨rfl, rfl, rfl, rfl⟩) x sender
    exact ⟨_, _, [.downSelectView x], rfl,
      settled_of (fun _ _ => Iff.rfl) h.toPlaced h100 hx hm rfl hmark,
      tapped_of h.toPlaced hx hr hm rfl hmark rfl, rfl⟩

theorem step_tap {s : DownSelect} (h : Stays s) {b : UIButton} (hb : b ∈ s.view.displayed) :
    ∃ t, s.step (.tap b.tag) = some t ∧ Stays t ∧ Tapped s.panel t.panel b.tag b.model := by
  obtain ⟨buttons, hbg⟩ := Option.isSome_iff_exists.1 h.bgView
  have hp : s.panel = ⟨s.models, s.view.selectList, buttons, s.calls⟩ := by
    rw [panel, hbg, Option.getD_some]
  have hset := h.panel
  have hbp : b ∈ s.panel.buttons := h.displayed ▸ hb
  obtain ⟨h100, hx⟩ := hset.place b hbp
  rw [hp] at hset hx ⊢
  obtain ⟨b', hb'⟩ := viewWithTag_isSome hb rfl
  obtain ⟨models, buttons', told, hsel, hset', htap, htold⟩ := selectToDo_tapped hbg hset h100 hx
  have hcalls : callsOf s.view (s.models b.model) b.model = told := by
    rw [callsOf, h.isAutoPop, htold]
    rfl
  rw [hcalls] at hsel
  refine ⟨⟨models, viewAfter s.view (s.models b.model) buttons', s.calls ++ told⟩, ?_,
    ⟨hset', h.isAutoPop, ?_, rfl⟩, htap⟩
  · simp only [step, hb', hsel, Option.map_some]
  · simp [viewAfter, h.isOnScreen, h.isAutoPop]

end DownSelect

end RCSdk
