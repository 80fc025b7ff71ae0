import RCSdk.Lib.Run
import RCSdk.Lib.Traverse
import RCSdk.Proof.DropDown

/-!
# What is tapped and what is delivered

A drop-down list looks a tap up in the list it stored last. It builds its buttons once: a second
`openSelectFrame:ItemHeight:List:` stores its list before it finds the buttons there and returns.
So the taps deliver what they show exactly as long as every such call brings the list back that
the buttons were built for.

* `tap_delivers_iff`: in every run of opens, hides and taps.
* `second_list_delivered`: a second list under the buttons of the first, and one too short for them.
-/

namespace RCSdk

open Trans

namespace DownSelect

/-- The items the delegate was given. -/
def delivered (calls : List DelegateCall) : List ItemRef :=
  calls.filterMap fun call =>
    match call with
    | .downSelectView data => some data
    | .colseView => none

/-- The call left list and buttons as they were, or replaced both. -/
def BothOrNeither (s : DownSelect) (list : Option (List ItemRef)) (t : DownSelect) : Prop :=
  t.view.selectList = s.view.selectList ∧ t.view.bgView = s.view.bgView ∨
    list = some t.view.selectList ∧
      t.view.bgView = some (DownSelectView.buildItems s.models t.view.selectList)

/-- **What is tapped is delivered**, but for a repeated tap, of which nothing is told. A call that
opens the view leaves list and buttons as they were, or replaces both. -/
def Delivers (s : DownSelect) (ev : Event) (t : DownSelect) : Prop :=
  match ev with
  | .tap sender => ∀ b, viewWithTag sender s.view.displayed = some b →
      delivered t.calls = delivered s.calls ++
        if (s.models b.model).isRepeated then [] else [b.model]
  | .openSelectFrame list => BothOrNeither s list t
  | .openSelectOrgY list => BothOrNeither s list t
  | _ => delivered t.calls = delivered s.calls

/-- **The condition on a call that opens the view**: there is nothing in the list, or no button
yet, or it is the list that is stored, or one whose buttons are those that are there. -/
def Reopens (s : DownSelect) (list : Option (List ItemRef)) : Prop :=
  ∀ items, list = some items → items ≠ [] → ∀ buttons, s.view.bgView = some buttons →
    items = s.view.selectList ∨ DownSelectView.buildItems s.models items = buttons

/-- Every call that opens the view meets the condition. -/
def OpensSame (s : DownSelect) (ev : Event) : Prop :=
  match ev with
  | .openSelectFrame list => Reopens s list
  | .openSelectOrgY list => Reopens s list
  | _ => True

/-- Every button is that of the item at its place in the stored list. -/
def Matched (s : DownSelect) : Prop :=
  ∀ b ∈ s.view.bgView.getD [], s.view.selectList[b.tag - 100]? = some b.model

end DownSelect

/-- The loop leaves every button where it was, for the item it was built for. -/
theorem selectLoop_buttons {u : UIButton → UIButton}
    (hu : ∀ b, (u b).tag = b.tag ∧ (u b).model = b.model) (list : List ItemRef)
    (x : ItemRef) (sender : ℕ) (models : Models) (buttons : List UIButton) :
    ∀ b' ∈ (selectLoop u list x sender models buttons).2,
      ∃ b ∈ buttons, b'.tag = b.tag ∧ b'.model = b.model := by
  refine Traverse.foldl_zipIdx_invariant
    (P := fun _ (y : Models × List UIButton) => ∀ b' ∈ y.2, ∃ b ∈ buttons,
      b'.tag = b.tag ∧ b'.model = b.model)
    (fun b' hb' => ⟨b', hb', rfl, rfl⟩) (fun l one y ih b' hb' => ?_) list
  obtain ⟨c, hc, rfl⟩ := List.mem_map.1 hb'
  obtain ⟨b, hb, ht, hm⟩ := ih c hc
  have hset : (if c.tag = sender then c.setSelected true else u c).tag = b.tag ∧
      (if c.tag = sender then c.setSelected true else u c).model = b.model := by
    split
    · exact ⟨ht, hm⟩
    · exact ⟨(hu c).1.trans ht, (hu c).2.trans hm⟩
  refine ⟨b, hb, ?_⟩
  by_cases h1 : c.tag = 100 + l.length
  · rw [if_pos h1]
    exact hset
  · rw [if_neg h1]
    exact ⟨ht, hm⟩

namespace DownSelect

variable {s t : DownSelect}

theorem matched_buildItems (models : Models) (list : List ItemRef) :
    ∀ b ∈ DownSelectView.buildItems models list, list[b.tag - 100]? = some b.model := by
  intro b hb
  obtain ⟨i, one, hi, rfl⟩ := buildItems_mem hb
  simpa [DownSelectView.item] using hi

theorem openSelectFrame_step {list : Option (List ItemRef)} (h : Matched s) (hr : Reopens s list) :
    Matched { s with view := s.view.openSelectFrame s.models list } ∧
      BothOrNeither s list { s with view := s.view.openSelectFrame s.models list } := by
  unfold DownSelectView.openSelectFrame
  cases list with
  | none => exact ⟨h, Or.inl ⟨rfl, rfl⟩⟩
  | some items =>
    by_cases hne : items.length = 0
    · simp only [hne, if_true]
      exact ⟨h, Or.inl ⟨rfl, rfl⟩⟩
    · have hne' : items ≠ [] := fun he => hne (by rw [he]; rfl)
      simp only [hne, if_false]
      cases hb : s.view.bgView with
      | none => exact ⟨matched_buildItems s.models items, Or.inr ⟨rfl, rfl⟩⟩
      | some buttons =>
        rcases hr items rfl hne' buttons hb with he | he
        · subst he
          exact ⟨by simpa [Matched, hb] using h, Or.inl ⟨rfl, hb.symm⟩⟩
        · subst he
          exact ⟨by simpa [Matched, hb] using matched_buildItems s.models items, Or.inr ⟨rfl, rfl⟩⟩

theorem reopens_of_bothOrNeither {list : Option (List ItemRef)}
    (h : BothOrNeither s list { s with view := s.view.openSelectFrame s.models list }) :
    Reopens s list := by
  intro items hl hne buttons hb
  subst hl
  have hne' : items.length ≠ 0 := fun he => hne (List.length_eq_zero_iff.1 he)
  simp only [BothOrNeither, DownSelectView.openSelectFrame, hne', if_false, hb, and_true, true_and,
    Option.some.injEq] at h
  exact h.imp id Eq.symm

@[simp] theorem hideSelect_bgView (v : DownSelectView) : v.hideSelect.bgView = v.bgView := by
  unfold DownSelectView.hideSelect
  split <;> rfl

@[simp] theorem hideSelect_selectList (v : DownSelectView) :
    v.hideSelect.selectList = v.selectList := by
  unfold DownSelectView.hideSelect
  split <;> rfl

/-- The delegate is given the item that was found, unless it was selected already. -/
theorem delivered_callsOf (v : DownSelectView) (m : SelectToModel) (x : ItemRef) :
    delivered (callsOf v m x) = if m.isRepeated then [] else [x] := by
  unfold callsOf
  cases m.isRepeated with
  | true => cases v.isAutoPop <;> rfl
  | false => rfl

/-- A tap leaves every button where it was, for the item it was built for. -/
theorem afterTap_buttons (v : DownSelectView) (sender : ℕ) (x : ItemRef) (models : Models)
    (buttons : List UIButton) :
    ∀ b' ∈ (afterTap v sender x models buttons).2, ∃ b ∈ buttons,
      b'.tag = b.tag ∧ b'.model = b.model := by
  unfold afterTap
  split
  · exact fun b' hb' => ⟨b', hb', rfl, rfl⟩
  · exact selectLoop_buttons (u := (·.setSelected false)) (fun _ => ⟨rfl, rfl⟩) v.selectList x
      sender models buttons

theorem mem_of_displayed {v : DownSelectView} {b : UIButton} (hb : b ∈ v.displayed) :
    ∃ buttons, v.bgView = some buttons ∧ b ∈ buttons := by
  unfold DownSelectView.displayed at hb
  split at hb
  · cases hbg : v.bgView with
    | some buttons => exact ⟨buttons, rfl, by rwa [hbg, Option.getD_some] at hb⟩
    | none => simp [hbg] at hb
  · cases hb

/-- A tap in a view whose buttons match its list. -/
theorem tap_step (h : Matched s) (sender : ℕ) :
    ∃ t, s.step (.tap sender) = some t ∧ Matched t ∧ Delivers s (.tap sender) t := by
  cases hv : viewWithTag sender s.view.displayed with
  | none =>
    refine ⟨s, by rw [step, hv], h, fun b hb => ?_⟩
    rw [hv] at hb
    cases hb
  | some b =>
    obtain ⟨hb, ht⟩ := viewWithTag_eq_some hv
    obtain ⟨buttons, hbg, hmem⟩ := mem_of_displayed hb
    rw [Matched, hbg, Option.getD_some] at h
    have hx := h b hmem
    rw [ht] at hx
    have hst : s.step (.tap sender) = some
        ⟨(afterTap s.view sender b.model s.models buttons).1,
          viewAfter s.view (s.models b.model) (afterTap s.view sender b.model s.models buttons).2,
          s.calls ++ callsOf s.view (s.models b.model) b.model⟩ := by
      simp only [step, hv, selectToDo_eq hbg hx, Option.map_some]
    refine ⟨_, hst, ?_, ?_⟩
    · intro b' hb'
      obtain ⟨c, hc, htag, hmodel⟩ := afterTap_buttons s.view sender b.model s.models buttons b' hb'
      show s.view.selectList[b'.tag - 100]? = some b'.model
      rw [htag, hmodel]
      exact h c hc
    · intro b' hb'
      rw [hv] at hb'
      obtain rfl := Option.some.inj hb'
      rw [← delivered_callsOf s.view]
      exact List.filterMap_append

theorem hide_step (h : Matched s) (calls : List DelegateCall) (v : DownSelectView)
    (hv : v.bgView = s.view.bgView ∧ v.selectList = s.view.selectList) :
    Matched { s with view := v.hideSelect, calls } := by
  unfold Matched
  simp only [hideSelect_bgView, hideSelect_selectList, hv]
  exact h

/-- **What is tapped is delivered, and no tap raises, exactly when every call that opens the view
meets the condition.** -/
theorem tap_delivers_iff (models : Models) (isAutoPop : Bool) (evs : List Event) :
    let init := { initWithView models with
      view := { DownSelectView.initWithView with isAutoPop } }
    (∀ q ∈ visited step init evs, ∃ t, step q.1 q.2 = some t ∧ Delivers q.1 q.2 t) ↔
      ∀ q ∈ visited step init evs, OpensSame q.1 q.2 := by
  refine forall_visited_iff_of (I := Matched) (fun s ev h hc => ?_) (fun s ev t h hs hd => ?_) evs _
    fun b hb => absurd hb List.not_mem_nil
  · cases ev with
    | openSelectFrame list => exact ⟨_, rfl, openSelectFrame_step h hc⟩
    | openSelectOrgY list => exact ⟨_, rfl, openSelectFrame_step h hc⟩
    | hideSelect => exact ⟨_, rfl, hide_step h s.calls s.view ⟨rfl, rfl⟩, rfl⟩
    | tap sender => exact tap_step h sender
    | tapOutside =>
      by_cases ho : s.view.hasTapGesture ∧ s.view.isOnScreen
      · refine ⟨_, if_pos ho, hide_step h _ { s.view with hasTapGesture := false } ⟨rfl, rfl⟩, ?_⟩
        simp [Delivers, delivered, DownSelectView.closeDo]
      · exact ⟨s, if_neg ho, h, rfl⟩
  · cases ev with
    | openSelectFrame list =>
      obtain rfl := Option.some.inj hs
      exact reopens_of_bothOrNeither hd
    | openSelectOrgY list =>
      obtain rfl := Option.some.inj hs
      exact reopens_of_bothOrNeither hd
    | hideSelect => trivial
    | tap sender => trivial
    | tapOutside => trivial

/-- Items of type Radio, of which none is selected. -/
def radioItems : Models := fun one => { SelectToModel.initWithType .radio with
  modelSelect := .default, name := some (toString one) }

/-- A view with the button of item 0 and a list of item 1. -/
def secondList : DownSelect where
  models := radioItems
  view := ((DownSelectView.initWithView.openSelectFrame radioItems (some [0])).openSelectFrame
    radioItems (some [1]))
  calls := []

/-- A second list under the buttons of the first: the button of item 0 delivers item 1. With a
second list too short for them, the button of item 1 indexes beyond its end. -/
theorem second_list_delivered :
    (∃ q ∈ visited step (initWithView radioItems)
        [.openSelectFrame (some [0]), .openSelectFrame (some [1]), .tap 100],
      q.2 = .tap 100 ∧ (q.1.view.displayed.map fun b => (b.title, b.model)) = [(some "0", 0)] ∧
        (step q.1 q.2).map (fun t => delivered t.calls) = some [1] ∧
        ¬ ∃ t, step q.1 q.2 = some t ∧ Delivers q.1 q.2 t) ∧
    exec step (initWithView radioItems)
      [.openSelectFrame (some [0, 1]), .openSelectFrame (some [0]), .tap 101] = none := by
  refine ⟨⟨(secondList, .tap 100), ?_, rfl, by decide, by decide, ?_⟩, rfl⟩
  · exact List.mem_cons_of_mem _ (List.mem_cons_of_mem _ List.mem_cons_self)
  · rintro ⟨t, ht, hd⟩
    have hd : delivered t.calls = [0] := hd _ rfl
    have hone : (secondList.step (.tap 100)).map (fun t => delivered t.calls) = some [1] := by decide
    rw [ht, Option.map_some, hd] at hone
    exact absurd hone (by decide)

end DownSelect

end RCSdk
