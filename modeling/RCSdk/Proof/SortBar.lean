import RCSdk.Lib.Tables
import RCSdk.Lib.Traverse
import RCSdk.Proof.Panel

/-!
# A tap in a sort bar

`beginShow` builds the buttons one by one and remembers the last selected item, whose button it
highlights at the end, or fires.

* `settled_shown`: a bar that is shown is in order.
* `SortSelect.step_tap`: a tap leaves it in order.
-/

namespace RCSdk

theorem Marked.trans {sender : ℕ} {b₁ b₂ b₃ : List UIButton} (h₁ : Marked sender b₁ b₂)
    (h₂ : Marked sender b₂ b₃) : Marked sender b₁ b₃ := by
  obtain ⟨f, rfl, hf⟩ := h₁
  obtain ⟨g, rfl, hg⟩ := h₂
  refine ⟨g ∘ f, List.map_map, fun b hb => ?_⟩
  obtain ⟨ht, hm, hl, -⟩ := hf b hb
  obtain ⟨ht', hm', hl', hs'⟩ := hg (f b) (List.mem_map_of_mem hb)
  rw [ht] at hs' ht'
  exact ⟨ht', hm'.trans hm, hl'.trans hl, hs'⟩

namespace SortSelect

/-- Every item of a sort bar has a button. -/
abbrev HasButton (_ : SelectToModel) : Prop := True

/-- Items that differ in their marks only. -/
structure SameSelection (m m' : SelectToModel) : Prop where
  typeSelect : m'.typeSelect = m.typeSelect
  isSelected : m'.isSelected = m.isSelected
  tagSelecte : m'.tagSelecte = m.tagSelecte

/-- What the loop of `beginShow` has built from the first items `list` of bar `s`. -/
structure Built (s : SortSelect) (list : List ItemRef) (x : Building) : Prop where
  models : ∀ one, SameSelection (s.models one) (x.bar.models one)
  sortModelArr : x.bar.sortModelArr = s.sortModelArr
  buttons : ∀ b ∈ x.bar.sortScroll, 100 ≤ b.tag ∧ list[b.tag - 100]? = some b.model ∧
    b.selected = false ∧ (b.logo.isSome = true → (s.models b.model).typeSelect = .multiselect)
  all : ∀ i one, list[i]? = some one → ∃ b ∈ x.bar.sortScroll, b.tag = 100 + i
  first : x.firstBtn = none ∧ x.isFirstFire = false ∧ (∀ one ∈ list, (s.models one).isSelected = false) ∨
    ∃ i one, list[i]? = some one ∧ (s.models one).isSelected = true ∧ x.firstBtn = some (100 + i)

theorem built_append {s : SortSelect} {list : List ItemRef} {x : Building} (one : ItemRef)
    (h : Built s list x) : Built s (list ++ [one]) (buildButton x one list.length) := by
  obtain ⟨hmodels, harr, hbuttons, hall, hfirst⟩ := h
  have hold : ∀ {i two}, list[i]? = some two → (list ++ [one])[i]? = some two :=
    fun hi => Tables.getElem?_concat_eq_some.2 (Or.inl hi)
  have hlast : (list ++ [one])[list.length]? = some one := List.getElem?_concat_length
  have hsel := (hmodels one).isSelected
  have hscroll : (buildButton x one list.length).bar.sortScroll =
      x.bar.sortScroll ++ [button one (x.bar.models one) list.length] := by
    simp only [buildButton]
    split <;> rfl
  refine ⟨fun two => ?_, ?_, ?_, ?_, ?_⟩
  · -- only the mark of the item changes
    simp only [buildButton]
    split
    · by_cases h2 : two = one
      · subst h2
        simpa using ⟨(hmodels two).1, (hmodels two).2, (hmodels two).3⟩
      · simpa [Function.update_of_ne h2] using hmodels two
    · exact hmodels two
  · rw [← harr, buildButton]
    split <;> rfl
  · rw [hscroll, List.forall_mem_append, List.forall_mem_singleton]
    refine ⟨fun b hb => ?_, Nat.le_add_right 100 _, ?_, rfl, fun hlogo => ?_⟩
    · obtain ⟨h100, hplace, hrest⟩ := hbuttons b hb
      exact ⟨h100, hold hplace, hrest⟩
    · rw [button, Nat.add_sub_cancel_left, hlast]
    · by_contra hne
      have hne : ¬ (s.models one).typeSelect = .multiselect := hne
      rw [← (hmodels one).typeSelect] at hne
      simp [button, hne] at hlogo
  · intro i two hi
    rw [hscroll]
    rcases Tables.getElem?_concat_eq_some.1 hi with hi | ⟨rfl, -⟩
    · obtain ⟨b, hb, ht⟩ := hall i two hi
      exact ⟨b, List.mem_append_left _ hb, ht⟩
    · exact ⟨_, List.mem_append_right _ (List.mem_singleton_self _), rfl⟩
  · -- the selected item that comes last is the first button
    cases hs : (s.models one).isSelected with
    | true =>
      refine Or.inr ⟨list.length, one, hlast, hs, ?_⟩
      rw [hs] at hsel
      simp [buildButton, hsel, button]
    | false =>
      rw [hs] at hsel
      have hx : (buildButton x one list.length).firstBtn = x.firstBtn ∧
          (buildButton x one list.length).isFirstFire = x.isFirstFire := by
        simp [buildButton, hsel]
      rw [hx.1, hx.2, List.forall_mem_append, List.forall_mem_singleton]
      rcases hfirst with ⟨hf, hff, hno⟩ | ⟨i, two, hi, hs2, hf⟩
      · exact Or.inl ⟨hf, hff, hno, hs⟩
      · exact Or.inr ⟨i, two, hold hi, hs2, hf⟩

theorem built {s : SortSelect} (hs : s.sortScroll = []) : Built s s.sortModelArr s.buildButtons := by
  refine Traverse.foldl_zipIdx_invariant (P := Built s) ?_ (fun _ one _ h => built_append one h) _
  refine ⟨fun _ => ⟨rfl, rfl, rfl⟩, rfl, fun b hb => ?_, fun i one hi => ?_, Or.inl ⟨rfl, rfl, ?_⟩⟩
  · rw [hs] at hb
    cases hb
  · simp at hi
  · simp

/-- The panel built for the items, before anything is highlighted. -/
theorem placed_of_built {items : SelectItems} {x : Building}
    (h : Built ⟨items.models, items.list, [], []⟩ items.list x) :
    Placed HasButton x.bar.panel := by
  have hl : x.bar.panel.list = items.list := h.sortModelArr
  have htag : ∀ one ∈ items.list, (x.bar.models one).TagOK := by
    intro one hone ht
    obtain ⟨h1, h2, h3⟩ := h.models one
    rw [h2, h3]
    exact (items.made one hone).tagOK (h1.symm.trans ht)
  refine ⟨hl ▸ items.nodup, hl ▸ htag, ?_, ?_, ?_, ?_⟩
  · rw [hl]
    intro one hone two htwo h1 h2
    have h1 : (items.models one).isSelected = true := (h.models one).isSelected ▸ h1
    have h2 : (items.models two).isSelected = true := (h.models two).isSelected ▸ h2
    exact items.atMostOne one hone two htwo h1 h2
  · rw [hl]
    exact fun b hb => ⟨(h.buttons b hb).1, (h.buttons b hb).2.1⟩
  · intro b hb hlogo
    exact (h.models b.model).typeSelect.trans ((h.buttons b hb).2.2.2 hlogo)
  · intro i one hi _
    exact h.all i one (hl ▸ hi)

/-- The tag of a button gives the place of its item back. -/
theorem asUnsigned_tag {s : SortSelect} (hfew : s.sortModelArr.length < 900) {sender : ℕ}
    {x : ItemRef} (h100 : 100 ≤ sender) (hx : s.sortModelArr[sender - 100]? = some x) :
    asUnsigned (tagOf (some sender) - 100) = sender - 100 := by
  have hlt : sender - 100 < s.sortModelArr.length := (List.getElem?_eq_some_iff.1 hx).1
  have ht : tagOf (some sender) = (sender : ℤ) := rfl
  rw [ht, asUnsigned]
  omega

/-- A message to `nil` answers tag 0, which is no button's. -/
theorem reorderSelectUI_nil (s : SortSelect) : s.reorderSelectUI none = s := by
  simp only [reorderSelectUI]
  split
  · rename_i h
    cases h
  · rfl

/-- `reorderSelectUI:` highlights its sender and changes no more than the logo of it. -/
theorem reorderSelectUI_marked {s : SortSelect} (hfew : s.sortModelArr.length < 900) {sender : ℕ}
    {one : ItemRef} (h100 : 100 ≤ sender) (hx : s.sortModelArr[sender - 100]? = some one)
    (hs : ∀ b ∈ s.sortScroll, b.selected = true → b.tag = sender) :
    ∃ sortScroll, s.reorderSelectUI (some sender) = { s with sortScroll } ∧
      Marked sender s.sortScroll sortScroll := by
  have hu := asUnsigned_tag hfew h100 hx
  simp only [reorderSelectUI, hu, hx]
  refine ⟨_, rfl, _, rfl, fun b hb => ?_⟩
  split
  · rename_i ht
    refine ⟨rfl, rfl, ?_, iff_of_true rfl ht⟩
    simp [UIButton.setLogo, UIButton.setSelected]
  · rename_i ht
    exact ⟨rfl, rfl, rfl, iff_of_false (fun h => ht (hs b hb h)) ht⟩

/-- `reorderSelectToDo:` of a repeated item only highlights its button. -/
theorem reorderSelectToDo_of_repeated {s : SortSelect} (hfew : s.sortModelArr.length < 900)
    {sender : ℕ} {x : ItemRef} (h100 : 100 ≤ sender) (hx : s.sortModelArr[sender - 100]? = some x)
    (hr : (s.models x).isRepeated = true) :
    s.reorderSelectToDo (some sender) = s.reorderSelectUI (some sender) := by
  have hu := asUnsigned_tag hfew h100 hx
  simp only [reorderSelectToDo, hu, hx, hr, if_true]

/-- `reorderSelectToDo:` of an item that is not repeated. -/
theorem reorderSelectToDo_of_not_repeated {s : SortSelect} (h : Placed HasButton s.panel)
    (hfew : s.sortModelArr.length < 900) {sender : ℕ} {x : ItemRef} (h100 : 100 ≤ sender)
    (hx : s.sortModelArr[sender - 100]? = some x) (hr : (s.models x).isRepeated = false) :
    Settled HasButton (s.reorderSelectToDo (some sender)).panel ∧
      Tapped s.panel (s.reorderSelectToDo (some sender)).panel sender x := by
  have hu := asUnsigned_tag hfew h100 hx
  have hm := congrArg Prod.fst (selectLoop_eq (u := unselect) (fun _ => rfl) h.nodup
    x sender s.models s.sortScroll)
  have hmark := marked_selectLoop (u := unselect) h
    (fun b => ⟨rfl, rfl, by simp [unselect, UIButton.setLogo, UIButton.setSelected], rfl⟩) x sender
  simp only [reorderSelectToDo, hu, hx, hr, Bool.false_eq_true, if_false]
  set y := selectLoop unselect s.sortModelArr x sender s.models s.sortScroll with hy
  have hset : Settled HasButton (SortSelect.panel { s with models := y.1, sortScroll := y.2 }) :=
    settled_of (fun _ _ => Iff.rfl) h h100 hx hm rfl hmark
  have hs : ∀ b ∈ y.2, b.selected = true → b.tag = sender := by
    obtain ⟨f, hf, hfb⟩ := hmark
    have hf : y.2 = s.sortScroll.map f := hf
    rw [hf, List.forall_mem_map]
    intro b hb hsel
    rw [(hfb b hb).1]
    exact (hfb b hb).2.2.2.1 hsel
  obtain ⟨sortScroll, he, hmark'⟩ := reorderSelectUI_marked (s := { s with
    models := y.1, sortScroll := y.2 }) hfew h100 hx hs
  rw [he]
  have hmark := Marked.trans hmark hmark'
  exact ⟨settled_of (fun _ _ => Iff.rfl) h h100 hx hm rfl hmark,
    tapped_of h hx hr hm rfl hmark rfl⟩

/-- Highlighting the button of the selected item settles a panel without highlighted buttons. -/
theorem reorderSelectUI_settled {s : SortSelect} (h : Placed HasButton s.panel)
    (hfew : s.sortModelArr.length < 900) {sender : ℕ} {x : ItemRef} (h100 : 100 ≤ sender)
    (hx : s.sortModelArr[sender - 100]? = some x)
    (hsel : (s.models x).isSelected = true) (hno : ∀ b ∈ s.sortScroll, b.selected = false) :
    Settled HasButton (s.reorderSelectUI (some sender)).panel := by
  have hs : ∀ b ∈ s.sortScroll, b.selected = true → b.tag = sender := fun b hb ht => by
    rw [hno b hb] at ht
    cases ht
  obtain ⟨sortScroll, he, hmark⟩ := reorderSelectUI_marked hfew h100 hx hs
  rw [he]
  refine settled_of_only h h100 hx rfl (fun _ _ => rfl) h.tags (fun _ _ hb => hb) ?_ hmark
  intro one hone
  constructor
  · exact fun ht => h.atMostOne one hone x (List.mem_of_getElem? hx) ht hsel
  · rintro rfl
    exact hsel

theorem settled_shown {items : SelectItems} {s : SortSelect}
    (hs : shown items.models items.list = some s) : Settled HasButton s.panel := by
  simp only [shown, initWithFrame, Option.map_eq_some_iff, Option.ite_none_left_eq_some,
    Option.some.injEq] at hs
  obtain ⟨bar, ⟨-, rfl⟩, rfl⟩ := hs
  have hb := built (s := ⟨items.models, items.list, [], []⟩) rfl
  set x := buildButtons ⟨items.models, items.list, [], []⟩ with hx
  have hp := placed_of_built hb
  have hno : ∀ b ∈ x.bar.sortScroll, b.selected = false := fun b hb' => (hb.buttons b hb').2.2.1
  have hsort : x.bar.sortModelArr = items.list := hb.sortModelArr
  have hfew : x.bar.sortModelArr.length < 900 := hsort ▸ items.few
  simp only [beginShow, ← hx]
  rcases hb.first with ⟨hf, hff, hnone⟩ | ⟨i, one, hi, hsel, hf⟩
  · rw [hff, hf, if_neg Bool.false_ne_true, reorderSelectUI_nil]
    refine ⟨hp, fun b hb' => ?_⟩
    have hmem : b.model ∈ items.list := List.mem_of_getElem? (hb.buttons b hb').2.1
    exact (hno b hb').trans ((hb.models b.model).isSelected.trans (hnone _ hmem)).symm
  · have hx' : x.bar.sortModelArr[100 + i - 100]? = some one := by
      rw [hsort, Nat.add_sub_cancel_left, hi]
    have hsel : (x.bar.models one).isSelected = true := (hb.models one).isSelected.trans hsel
    have h100 : 100 ≤ 100 + i := Nat.le_add_right 100 i
    rw [hf]
    split
    · cases hr : (x.bar.models one).isRepeated with
      | true =>
        rw [reorderSelectToDo_of_repeated hfew h100 hx' hr]
        exact reorderSelectUI_settled hp hfew h100 hx' hsel hno
      | false => exact (reorderSelectToDo_of_not_repeated hp hfew h100 hx' hr).1
    · exact reorderSelectUI_settled hp hfew h100 hx' hsel hno

@[simp] theorem reorderSelectUI_sortModelArr (sender : Option ℕ) (s : SortSelect) :
    (s.reorderSelectUI sender).sortModelArr = s.sortModelArr := by
  simp only [reorderSelectUI]
  split <;> rfl

@[simp] theorem reorderSelectToDo_sortModelArr (sender : Option ℕ) (s : SortSelect) :
    (s.reorderSelectToDo sender).sortModelArr = s.sortModelArr := by
  simp only [reorderSelectToDo]
  split
  · split
    · exact reorderSelectUI_sortModelArr _ s
    · exact reorderSelectUI_sortModelArr _ _
  · rfl

theorem shown_sortModelArr {models : Models} {list : List ItemRef} {s : SortSelect}
    (hs : shown models list = some s) : s.sortModelArr = list := by
  simp only [shown, initWithFrame, Option.map_eq_some_iff, Option.ite_none_left_eq_some,
    Option.some.injEq] at hs
  obtain ⟨bar, ⟨-, rfl⟩, rfl⟩ := hs
  have hb := built (s := ⟨models, list, [], []⟩) rfl
  simp only [beginShow]
  split
  · exact (reorderSelectToDo_sortModelArr _ _).trans hb.sortModelArr
  · exact (reorderSelectUI_sortModelArr _ _).trans hb.sortModelArr

theorem setLogo_of_none {b : UIButton} (h : b.logo = none) (image : Option String) :
    b.setLogo image = b := by
  cases b
  cases h
  rfl

/-- Highlighting a button that is highlighted, and has no logo, does nothing. -/
theorem reorderSelectUI_repeated {s : SortSelect} (h : Settled HasButton s.panel)
    (hfew : s.sortModelArr.length < 900) {sender : ℕ} {x : ItemRef} (h100 : 100 ≤ sender)
    (hx : s.sortModelArr[sender - 100]? = some x)
    (hr : (s.models x).isRepeated = true) : s.reorderSelectUI (some sender) = s := by
  have hu := asUnsigned_tag hfew h100 hx
  simp only [SelectToModel.isRepeated, Bool.and_eq_true, decide_eq_true_eq] at hr
  have hmap : ∀ image : String, modifyViewWithTag sender (fun item =>
      (item.setSelected true).setLogo (some image)) s.sortScroll = s.sortScroll := by
    intro image
    refine (List.map_congr_left fun b hb => ?_).trans (List.map_id _)
    by_cases ht : b.tag = sender
    · have hm : x = b.model := (h.tag_eq_iff h100 hx hb).1 ht
      have hsel : b.selected = true := by rw [h.agree b hb, ← hm]; exact hr.1
      have hlogo : b.logo = none := by
        by_contra hne
        exact hr.2 (hm ▸ h.logo b hb (Option.isSome_iff_ne_none.2 hne))
      have hset : b.setSelected true = b := hsel ▸ rfl
      rw [if_pos ht]
      show (b.setSelected true).setLogo (some image) = b
      rw [hset, setLogo_of_none hlogo]
    · rw [if_neg ht, id_eq]
  simp only [reorderSelectUI, hu, hx, hmap]

theorem step_tap {s : SortSelect} (h : Settled HasButton s.panel)
    (hfew : s.sortModelArr.length < 900) {i : ℕ} {x : ItemRef} (hx : s.sortModelArr[i]? = some x) :
    ∃ t, s.step (100 + i) = some t ∧ Settled HasButton t.panel ∧
      Tapped s.panel t.panel (100 + i) x := by
  have h100 : 100 ≤ 100 + i := Nat.le_add_right 100 i
  have hx' : s.sortModelArr[100 + i - 100]? = some x := by rw [Nat.add_sub_cancel_left, hx]
  obtain ⟨b, hb, ht⟩ := h.button i x hx trivial
  obtain ⟨b', hb'⟩ := viewWithTag_isSome hb ht
  have hb' : viewWithTag (100 + i) s.sortScroll = some b' := hb'
  refine ⟨s.reorderSelectToDo (some (100 + i)), by rw [step, hb'], ?_⟩
  cases hr : (s.models x).isRepeated with
  | false => exact reorderSelectToDo_of_not_repeated h.toPlaced hfew h100 hx' hr
  | true =>
    rw [reorderSelectToDo_of_repeated hfew h100 hx' hr,
      reorderSelectUI_repeated h hfew h100 hx' hr]
    exact ⟨h, tapped_repeated h h100 hx' hr⟩

end SortSelect

end RCSdk
