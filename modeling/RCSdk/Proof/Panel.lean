import RCSdk.Spec.DownSelectView

/-!
# Items and their buttons

The drop-down list and the sort bar run the same loop over their items and buttons. What it does
is stated once, for what the two have in common (`Panel`): after a tap the tapped item is the only
one selected, and its button the only one highlighted.

* `selectLoop_eq`: the loop, over all items and buttons at once.
* `tapped_of`, `tapped_repeated`: what a tap does to a panel whose items and buttons are in order.
-/

namespace RCSdk

/-- A list of distinct items as the application makes it, at most one of them selected. -/
structure SelectItems where
  models : Models
  list : List ItemRef
  nodup : list.Nodup
  few : list.length < 900
  made : ∀ one ∈ list, (models one).Made
  atMostOne : ∀ one ∈ list, ∀ two ∈ list,
    (models one).isSelected = true → (models two).isSelected = true → one = two

/-- What a drop-down list and a sort bar have in common. -/
structure Panel where
  models : Models
  list : List ItemRef
  buttons : List UIButton
  calls : List DelegateCall

def DownSelect.panel (s : DownSelect) : Panel :=
  ⟨s.models, s.view.selectList, s.view.bgView.getD [], s.calls⟩

def SortSelect.panel (s : SortSelect) : Panel :=
  ⟨s.models, s.sortModelArr, s.sortScroll, s.calls⟩

/-- The tag of a Multiselect item says whether it is selected. -/
def SelectToModel.TagOK (m : SelectToModel) : Prop :=
  m.typeSelect = .multiselect →
    if m.isSelected then m.tagSelecte = 1 ∨ m.tagSelecte = 2 else m.tagSelecte = 0

/-- **What a tap on the button of item `x` does.** -/
structure Tapped (p p' : Panel) (sender : ℕ) (x : ItemRef) : Prop where
  list : p'.list = p.list
  modelSelect : ∀ one, (p'.models one).modelSelect = (p.models one).modelSelect
  name : ∀ one, (p'.models one).name = (p.models one).name
  model : ∀ one ∈ p.list, ((p'.models one).isSelected = true ↔ one = x)
  button : ∀ b ∈ p'.buttons, (b.selected = true ↔ b.tag = sender)
  tags : ∀ one ∈ p.list, (p'.models one).TagOK
  first : (p.models x).typeSelect = .multiselect → (p.models x).isSelected = false →
    (p'.models x).tagSelecte = 1
  alternate : (p.models x).typeSelect = .multiselect → (p.models x).isSelected = true →
    (p'.models x).tagSelecte = 3 - (p.models x).tagSelecte
  repeated : (p.models x).isRepeated = true → p' = p
  told : p'.models = p.models ∧ p'.calls = p.calls ∨
    p'.models ≠ p.models ∧ p'.calls = p.calls ++ [.downSelectView x]

/-! ## Items -/

namespace SelectToModel

@[simp] theorem selectModelToDo_isSelected (b : Bool) (m : SelectToModel) :
    (m.selectModelToDo b).isSelected = b := rfl

@[simp] theorem selectModelToDo_typeSelect (b : Bool) (m : SelectToModel) :
    (m.selectModelToDo b).typeSelect = m.typeSelect := rfl

theorem selectModelToDo_tagOK (b : Bool) (m : SelectToModel) : (m.selectModelToDo b).TagOK := by
  cases b with
  | false =>
    intro (ht : m.typeSelect = .multiselect)
    simp [selectModelToDo, ht]
  | true =>
    intro (ht : m.typeSelect = .multiselect)
    simp only [selectModelToDo, ht, if_true]
    split_ifs <;> simp

/-- An unselected Multiselect item is tagged 1, a selected one the other way round. -/
theorem tagSelecte_first {m : SelectToModel} (ht : m.typeSelect = .multiselect)
    (hs : m.isSelected = false) : (m.selectModelToDo true).tagSelecte = 1 := by
  simp [selectModelToDo, ht, hs]

theorem tagSelecte_alternate {m : SelectToModel} (h : m.TagOK) (ht : m.typeSelect = .multiselect)
    (hs : m.isSelected = true) : (m.selectModelToDo true).tagSelecte = 3 - m.tagSelecte := by
  have h := h ht
  rw [hs, if_pos rfl] at h
  rcases h with h | h <;> simp [selectModelToDo, ht, hs, h]

theorem Made.tagOK {m : SelectToModel} (h : m.Made) : m.TagOK := by
  induction h with
  | initWithType type => intro _; simp [SelectToModel.initWithType]
  | selectModelToDo b _ _ => exact selectModelToDo_tagOK b _
  | setFields _ _ _ _ ih => exact ih

/-- A tap that is not repeated changes the item. -/
theorem selectModelToDo_ne {m : SelectToModel} (h : m.TagOK) (hr : m.isRepeated = false) :
    m.selectModelToDo true ≠ m := by
  intro he
  cases hs : m.isSelected with
  | false =>
    have := congrArg SelectToModel.isSelected he
    simp [hs] at this
  | true =>
    have ht : m.typeSelect = .multiselect := by simpa [isRepeated, hs] using hr
    have h3 := tagSelecte_alternate h ht hs
    rw [he] at h3
    have h12 := h ht
    rw [hs, if_pos rfl] at h12
    omega

end SelectToModel

/-! ## The loop -/

/-- The buttons stay where they are, and only that of tag `sender` is highlighted. -/
def Marked (sender : ℕ) (buttons buttons' : List UIButton) : Prop :=
  ∃ f : UIButton → UIButton, buttons' = buttons.map f ∧ ∀ b ∈ buttons, (f b).tag = b.tag ∧
    (f b).model = b.model ∧ (f b).logo.isSome = b.logo.isSome ∧
    ((f b).selected = true ↔ b.tag = sender)

/-- The models after the loop. -/
def selectedOnly (list : List ItemRef) (x : ItemRef) (models : Models) : Models := fun one =>
  if one ∈ list then (models one).selectModelToDo (decide (x = one)) else models one

theorem loop_from {u : UIButton → UIButton} (hu : ∀ b, (u b).tag = b.tag)
    (x : ItemRef) (sender : ℕ) (list : List ItemRef) (hl : list.Nodup) :
    ∀ (n : ℕ) (models : Models) (buttons : List UIButton),
      (list.zipIdx n).foldl (fun y p => selectOne u x sender p.1 p.2 y.1 y.2)
          (models, buttons) =
      (selectedOnly list x models, buttons.map fun item =>
        if 100 + n ≤ item.tag ∧ item.tag < 100 + n + list.length then
          if item.tag = sender then item.setSelected true else u item
        else item) := by
  induction list with
  | nil =>
    intro n models buttons
    have hid : (fun item : UIButton => if 100 + n ≤ item.tag ∧ item.tag < 100 + n + 0 then
        if item.tag = sender then item.setSelected true else u item else item) = id := by
      funext item
      exact if_neg (by omega)
    simp only [List.zipIdx_nil, List.foldl_nil, List.length_nil, hid, List.map_id]
    congr 1
  | cons one list ih =>
    intro n models buttons
    obtain ⟨hn, hl⟩ := List.nodup_cons.1 hl
    rw [List.zipIdx_cons, List.foldl_cons, selectOne, ih hl]
    congr 1
    · funext two
      by_cases h2 : two = one
      · subst h2
        simp [selectedOnly, hn]
      · simp [selectedOnly, h2]
    · rw [modifyViewWithTag, List.map_map]
      refine List.map_congr_left fun item _ => ?_
      simp only [Function.comp_apply, List.length_cons]
      -- the button of this item, or one the rest of the loop has in its range as before
      by_cases hi : item.tag = 100 + n
      · have ht : (if item.tag = sender then item.setSelected true else u item).tag =
            item.tag := by
          split
          · rfl
          · exact hu item
        have h1 : ¬ (100 + (n + 1) ≤ item.tag ∧ item.tag < 100 + (n + 1) + list.length) := by omega
        have h2 : 100 + n ≤ item.tag ∧ item.tag < 100 + n + (list.length + 1) := by omega
        rw [if_pos hi, ht, if_neg h1, if_pos h2]
      · have h1 : 100 + (n + 1) ≤ item.tag ∧ item.tag < 100 + (n + 1) + list.length ↔
            100 + n ≤ item.tag ∧ item.tag < 100 + n + (list.length + 1) := by omega
        rw [if_neg hi, if_congr h1 rfl rfl]

/-- **The loop**: the chosen item is selected, all others are deselected. -/
theorem selectLoop_eq {u : UIButton → UIButton} (hu : ∀ b, (u b).tag = b.tag)
    {list : List ItemRef} (hl : list.Nodup) (x : ItemRef) (sender : ℕ) (models : Models)
    (buttons : List UIButton) :
    selectLoop u list x sender models buttons =
      (selectedOnly list x models, buttons.map fun item =>
        if 100 ≤ item.tag ∧ item.tag < 100 + list.length then
          if item.tag = sender then item.setSelected true else u item
        else item) := by
  simpa [selectLoop] using loop_from hu x sender list hl 0 models buttons

/-! ## A panel in order -/

/-- Every button is that of the item it was built for, under the tag of its place, and every item
that satisfies `hasButton` has one. -/
structure Placed (hasButton : SelectToModel → Prop) (p : Panel) : Prop where
  nodup : p.list.Nodup
  tags : ∀ one ∈ p.list, (p.models one).TagOK
  atMostOne : ∀ one ∈ p.list, ∀ two ∈ p.list,
    (p.models one).isSelected = true → (p.models two).isSelected = true → one = two
  place : ∀ b ∈ p.buttons, 100 ≤ b.tag ∧ p.list[b.tag - 100]? = some b.model
  logo : ∀ b ∈ p.buttons, b.logo.isSome = true → (p.models b.model).typeSelect = .multiselect
  button : ∀ i one, p.list[i]? = some one → hasButton (p.models one) →
    ∃ b ∈ p.buttons, b.tag = 100 + i

/-- The buttons show which item is selected. -/
structure Settled (hasButton : SelectToModel → Prop) (p : Panel) : Prop
    extends Placed hasButton p where
  agree : ∀ b ∈ p.buttons, b.selected = (p.models b.model).isSelected

section Loop

variable {hasButton : SelectToModel → Prop} {p p' : Panel} {sender : ℕ} {x : ItemRef}

/-- The button of an item is the one with the tag of its place. -/
theorem Placed.tag_eq_iff (h : Placed hasButton p) (h100 : 100 ≤ sender)
    (hx : p.list[sender - 100]? = some x) {b : UIButton} (hb : b ∈ p.buttons) :
    b.tag = sender ↔ x = b.model := by
  obtain ⟨hb100, hbm⟩ := h.place b hb
  constructor
  · intro he
    rw [he, hx] at hbm
    exact Option.some.inj hbm
  · intro he
    rw [← he] at hbm
    have hlt : sender - 100 < p.list.length := (List.getElem?_eq_some_iff.1 hx).1
    have := (List.getElem?_inj hlt h.nodup).1 (hx.trans hbm.symm)
    omega

/-- A panel whose buttons are placed is settled once one item is the only one selected and its
button the only one marked. -/
theorem settled_of_only (h : Placed hasButton p) (h100 : 100 ≤ sender)
    (hx : p.list[sender - 100]? = some x) (hl : p'.list = p.list)
    (htype : ∀ one ∈ p.list, (p'.models one).typeSelect = (p.models one).typeSelect)
    (htags : ∀ one ∈ p.list, (p'.models one).TagOK)
    (hP : ∀ one ∈ p.list, hasButton (p'.models one) → hasButton (p.models one))
    (honly : ∀ one ∈ p.list, ((p'.models one).isSelected = true ↔ one = x))
    (hb : Marked sender p.buttons p'.buttons) : Settled hasButton p' := by
  obtain ⟨f, hf, hfb⟩ := hb
  have hmem : ∀ b ∈ p.buttons, b.model ∈ p.list := fun b hb =>
    List.mem_of_getElem? (h.place b hb).2
  refine ⟨⟨hl ▸ h.nodup, hl ▸ htags, ?_, ?_, ?_, ?_⟩, ?_⟩
  · rw [hl]
    intro one hone two htwo h1 h2
    exact ((honly one hone).1 h1).trans ((honly two htwo).1 h2).symm
  · rw [hf, List.forall_mem_map]
    intro b hb
    obtain ⟨ht, hbm, -, -⟩ := hfb b hb
    rw [ht, hbm, hl]
    exact h.place b hb
  · rw [hf, List.forall_mem_map]
    intro b hb hlogo
    obtain ⟨-, hbm, hbl, -⟩ := hfb b hb
    rw [hbl] at hlogo
    rw [hbm, htype _ (hmem b hb)]
    exact h.logo b hb hlogo
  · intro i one hone hbt
    rw [hl] at hone
    obtain ⟨b, hb, ht⟩ := h.button i one hone (hP one (List.mem_of_getElem? hone) hbt)
    exact ⟨f b, hf ▸ List.mem_map_of_mem hb, (hfb b hb).1.trans ht⟩
  · rw [hf, List.forall_mem_map]
    intro b hb
    obtain ⟨-, hbm, -, hbs⟩ := hfb b hb
    rw [hbm, Bool.eq_iff_iff, hbs, honly _ (hmem b hb), h.tag_eq_iff h100 hx hb]
    exact eq_comm

theorem selectedOnly_of_mem {list : List ItemRef} {one : ItemRef} (h : one ∈ list) (x : ItemRef)
    (models : Models) :
    selectedOnly list x models one = (models one).selectModelToDo (decide (x = one)) := if_pos h

theorem selectedOnly_modelSelect (list : List ItemRef) (x : ItemRef) (models : Models)
    (one : ItemRef) : (selectedOnly list x models one).modelSelect = (models one).modelSelect := by
  unfold selectedOnly
  split <;> rfl

theorem selectedOnly_name (list : List ItemRef) (x : ItemRef) (models : Models) (one : ItemRef) :
    (selectedOnly list x models one).name = (models one).name := by
  unfold selectedOnly
  split <;> rfl

theorem selectedOnly_isSelected {list : List ItemRef} {one : ItemRef} (h : one ∈ list)
    (x : ItemRef) (models : Models) :
    (selectedOnly list x models one).isSelected = true ↔ one = x := by
  rw [selectedOnly_of_mem h, SelectToModel.selectModelToDo_isSelected, decide_eq_true_eq]
  exact eq_comm

/-- **What the loop leaves**, in a panel whose buttons are placed. -/
theorem settled_of (hP : ∀ b m, hasButton (SelectToModel.selectModelToDo b m) ↔ hasButton m)
    (h : Placed hasButton p) (h100 : 100 ≤ sender) (hx : p.list[sender - 100]? = some x)
    (hm : p'.models = selectedOnly p.list x p.models) (hl : p'.list = p.list)
    (hb : Marked sender p.buttons p'.buttons) : Settled hasButton p' := by
  refine settled_of_only h h100 hx hl ?_ ?_ ?_ ?_ hb <;> intro one hone <;> rw [hm]
  · rw [selectedOnly_of_mem hone, SelectToModel.selectModelToDo_typeSelect]
  · rw [selectedOnly_of_mem hone]
    exact SelectToModel.selectModelToDo_tagOK _ _
  · rw [selectedOnly_of_mem hone]
    exact (hP _ _).1
  · exact selectedOnly_isSelected hone x p.models

/-- **A tap that is not repeated**, when the delegate is told of it. -/
theorem tapped_of (h : Placed hasButton p) (hx : p.list[sender - 100]? = some x)
    (hr : (p.models x).isRepeated = false)
    (hm : p'.models = selectedOnly p.list x p.models) (hl : p'.list = p.list)
    (hb : Marked sender p.buttons p'.buttons)
    (hc : p'.calls = p.calls ++ [.downSelectView x]) : Tapped p p' sender x := by
  obtain ⟨f, hf, hfb⟩ := hb
  have hxm : x ∈ p.list := List.mem_of_getElem? hx
  have hxs : p'.models x = (p.models x).selectModelToDo true := by
    rw [hm, selectedOnly_of_mem hxm, decide_eq_true rfl]
  refine ⟨hl, fun one => ?_, fun one => ?_, ?_, ?_, ?_, ?_, ?_, ?_, ?_⟩
  · rw [hm]
    exact selectedOnly_modelSelect p.list x p.models one
  · rw [hm]
    exact selectedOnly_name p.list x p.models one
  · intro one hone
    rw [hm]
    exact selectedOnly_isSelected hone x p.models
  · rw [hf, List.forall_mem_map]
    intro b hb
    rw [(hfb b hb).1]
    exact (hfb b hb).2.2.2
  · intro one hone
    rw [hm, selectedOnly_of_mem hone]
    exact SelectToModel.selectModelToDo_tagOK _ _
  · intro ht hs
    rw [hxs]
    exact SelectToModel.tagSelecte_first ht hs
  · intro ht hs
    rw [hxs]
    exact SelectToModel.tagSelecte_alternate (h.tags x hxm) ht hs
  · intro h'
    rw [hr] at h'
    cases h'
  · refine Or.inr ⟨fun he => ?_, hc⟩
    have := congrFun he x
    rw [hxs] at this
    exact SelectToModel.selectModelToDo_ne (h.tags x hxm) hr this

/-- **A tap that is repeated**, when nothing comes of it. -/
theorem tapped_repeated (h : Settled hasButton p) (h100 : 100 ≤ sender)
    (hx : p.list[sender - 100]? = some x) (hr : (p.models x).isRepeated = true) :
    Tapped p p sender x := by
  have hxm : x ∈ p.list := List.mem_of_getElem? hx
  simp only [SelectToModel.isRepeated, Bool.and_eq_true, decide_eq_true_eq] at hr
  have honly : ∀ one ∈ p.list, ((p.models one).isSelected = true ↔ one = x) := by
    intro one hone
    constructor
    · exact fun hs => h.atMostOne one hone x hxm hs hr.1
    · rintro rfl
      exact hr.1
  refine ⟨rfl, fun _ => rfl, fun _ => rfl, honly, fun b hb => ?_, h.tags,
    fun ht => absurd ht hr.2, fun ht => absurd ht hr.2, fun _ => rfl, Or.inl ⟨rfl, rfl⟩⟩
  rw [h.agree b hb, honly b.model (List.mem_of_getElem? (h.place b hb).2),
    h.tag_eq_iff h100 hx hb]
  exact eq_comm

end Loop

/-- The loop marks the button of its sender, if all buttons have a place in the list. -/
theorem marked_selectLoop {hasButton : SelectToModel → Prop} {p : Panel}
    {u : UIButton → UIButton} (h : Placed hasButton p)
    (hu : ∀ b, (u b).tag = b.tag ∧ (u b).model = b.model ∧
      (u b).logo.isSome = b.logo.isSome ∧ (u b).selected = false)
    (x : ItemRef) (sender : ℕ) :
    Marked sender p.buttons (selectLoop u p.list x sender p.models p.buttons).2 := by
  refine ⟨_, by rw [selectLoop_eq (fun b => (hu b).1) h.nodup], fun b hb => ?_⟩
  obtain ⟨h100, hplace⟩ := h.place b hb
  have hlt : b.tag - 100 < p.list.length := (List.getElem?_eq_some_iff.1 hplace).1
  have hin : 100 ≤ b.tag ∧ b.tag < 100 + p.list.length := by omega
  rw [if_pos hin]
  by_cases ht : b.tag = sender
  · rw [if_pos ht]
    exact ⟨rfl, rfl, rfl, iff_of_true rfl ht⟩
  · rw [if_neg ht]
    exact ⟨(hu b).1, (hu b).2.1, (hu b).2.2.1, iff_of_false (by simp [(hu b).2.2.2]) ht⟩

theorem viewWithTag_eq_some {tag : ℕ} {buttons : List UIButton} {b : UIButton}
    (h : viewWithTag tag buttons = some b) : b ∈ buttons ∧ b.tag = tag := by
  refine ⟨List.mem_of_find?_eq_some h, ?_⟩
  simpa using List.find?_some h

theorem viewWithTag_isSome {tag : ℕ} {buttons : List UIButton} {b : UIButton} (hb : b ∈ buttons)
    (ht : b.tag = tag) : ∃ b', viewWithTag tag buttons = some b' := by
  rw [← Option.isSome_iff_exists, viewWithTag, List.find?_isSome]
  exact ⟨b, hb, by simp [ht]⟩

end RCSdk
