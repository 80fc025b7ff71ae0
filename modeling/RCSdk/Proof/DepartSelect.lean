import RCSdk.Lib.Run
import RCSdk.Lib.Tables
import RCSdk.Lib.Traverse
import RCSdk.Proof.DropDown
import RCSdk.Spec.DepartSelect

/-!
# The department that is delivered

The tapped row comes back as a name, and the department is looked up by it without an early exit,
so the last row of that name is taken. A tap on the highlighted row is swallowed by the drop-down
list, and changes nothing.

* `depart_agrees_iff`: index, highlighted row and delivered department agree throughout a run exactly when
  every tapped row is highlighted already or the last of its name.
* `last_of_name_delivered`: of two departments of one name the second is delivered.
-/

namespace RCSdk

open Trans

/-- Departments with distinct ids, and one of them or none to begin with. -/
structure DepartChoice where
  departments : List KPDepartment
  distinct : (departments.map KPDepartment.departmentId).Nodup
  initial : Option KPDepartment
  mem : ∀ d, initial = some d → d ∈ departments

namespace DepartChoice

def start (c : DepartChoice) : DepartSelect :=
  ⟨.initWithDepartment c.initial c.departments, none⟩

/-- The department taken for `nil`: that of id 0, else the first. -/
def fallback (c : DepartChoice) : Option KPDepartment :=
  (c.departments.find? (·.departmentId = 0)).or c.departments.head?

/-- The department chosen by the taps: that of the last row tapped, if there was one. -/
def chosen (c : DepartChoice) (tapped : Option KPDepartment) : Option KPDepartment :=
  tapped.or (c.initial.or c.fallback)

end DepartChoice

namespace DepartSelect

/-- **Index, row and department agree.** -/
structure Agrees (c : DepartChoice) (s : DepartSelect) : Prop where
  index : s.popView.sortDepartments[s.popView.selectIndex]? = s.popView.department
  row : ∀ list, s.popView.selectView = some list → ∀ b ∈ list.view.bgView.getD [],
    (b.selected = true ↔ b.tag = 100 + s.popView.selectIndex)
  delivers : s.popView.clickSureBtn = c.chosen s.tapped

/-- **The condition on a tap**: the row is the one highlighted, or no later one has its name. -/
def LastOfName (s : DepartSelect) (ev : Event) : Prop :=
  match ev with
  | .tapRow row => ∀ d, s.rowTapped row = some d → row = s.popView.selectIndex ∨
      ∀ j d', row < j → s.popView.sortDepartments[j]? = some d' → d'.name ≠ d.name
  | _ => True

/-- What holds in every run: a list on the screen is as it was opened. -/
structure Fresh (c : DepartChoice) (s : DepartSelect) : Prop where
  departments : s.popView.sortDepartments = c.departments
  list : ∀ list, s.popView.openView = some list → list = s.popView.dropDown ∧ c.departments ≠ []

end DepartSelect

namespace KPDepartSelectPopView

variable {v : KPDepartSelectPopView}

/-! ## The department to begin with -/

/-- What the loop of `createData` makes of view `v` with the first departments `l`. -/
structure Scanned (v : KPDepartSelectPopView) (l : List KPDepartment) (r : KPDepartSelectPopView) :
    Prop where
  department : r.department = v.department.or (l.find? (·.departmentId = 0))
  departments : r.sortDepartments = v.sortDepartments
  selectView : r.selectView = v.selectView
  index : ∀ d, r.department = some d → d ∈ l → l[r.selectIndex]? = some d

theorem scanned_append {l : List KPDepartment} {r : KPDepartSelectPopView} {one : KPDepartment}
    (h : Scanned v l r) (hdis : ∀ d ∈ l, d.departmentId ≠ one.departmentId) :
    Scanned v (l ++ [one]) (r.createDatum one l.length) := by
  obtain ⟨hdep, harr, hview, hidx⟩ := h
  have hlast : (l ++ [one])[l.length]? = some one := by simp
  simp only [createDatum]
  cases hd : r.department with
  | none =>
    rw [hd] at hdep
    obtain ⟨hv, hfind⟩ := Option.or_eq_none_iff.1 hdep.symm
    by_cases h0 : 0 = one.departmentId
    · simp only [h0, if_true]
      refine ⟨?_, harr, hview, fun d hd' _ => ?_⟩
      · simp [hv, List.find?_append, hfind, ← h0]
      · rw [hlast]
        exact hd'
    · simp only [h0, if_false]
      refine ⟨?_, harr, hview, fun d hd' => ?_⟩
      · simp [hd, hv, List.find?_append, hfind, Ne.symm h0]
      · rw [hd] at hd'
        cases hd'
  | some d =>
    rw [hd] at hdep
    have hor : some d = v.department.or ((l ++ [one]).find? (·.departmentId = 0)) := by
      rw [hdep, List.find?_append, ← Option.or_assoc, ← hdep]
      rfl
    by_cases hid : d.departmentId = one.departmentId
    · simp only [hid, if_true]
      refine ⟨hor, harr, hview, fun d' hd' hmem => ?_⟩
      obtain rfl := Option.some.inj hd'
      rcases List.mem_append.1 hmem with hmem | hmem
      · exact absurd hid (hdis _ hmem)
      · rw [hlast, List.mem_singleton.1 hmem]
    · simp only [hid, if_false]
      refine ⟨hd.trans hor, harr, hview, fun d' hd' hmem => ?_⟩
      obtain rfl := Option.some.inj (hd.symm.trans hd')
      rcases List.mem_append.1 hmem with hmem | hmem
      · exact Tables.getElem?_concat_eq_some.2 (Or.inl (hidx d hd hmem))
      · exact absurd (congrArg _ (List.mem_singleton.1 hmem)) hid

/-- The loop of `createData`. -/
theorem createData_loop (v : KPDepartSelectPopView) (l : List KPDepartment)
    (hl : (l.map KPDepartment.departmentId).Nodup) :
    Scanned v l (l.zipIdx.foldl (fun v p => v.createDatum p.1 p.2) v) := by
  refine Traverse.foldl_zipIdx_invariant
    (P := fun l r => (l.map KPDepartment.departmentId).Nodup → Scanned v l r)
    (fun _ => ?_) (fun l one r ih hl => ?_) l hl
  · exact ⟨by simp, rfl, rfl, fun d _ hd => absurd hd List.not_mem_nil⟩
  · rw [List.map_append, List.nodup_append] at hl
    obtain ⟨hl, -, hdis⟩ := hl
    exact scanned_append (ih hl) fun d hd => hdis _ (List.mem_map_of_mem hd) _ (by simp)

/-- **What the picker starts with.** -/
theorem createData_spec (c : DepartChoice) (h : v.department = c.initial) :
    (createData c.departments v).sortDepartments = c.departments ∧
      (createData c.departments v).selectView = v.selectView ∧
      (createData c.departments v).department = c.initial.or c.fallback ∧
      c.departments[(createData c.departments v).selectIndex]? =
        (createData c.departments v).department := by
  obtain ⟨hdep, harr, hview, hidx⟩ := createData_loop { v with sortDepartments := c.departments }
    c.departments c.distinct
  simp only [createData]
  set r := c.departments.zipIdx.foldl (fun v p => createDatum v p.1 p.2)
    { v with sortDepartments := c.departments }
  have harr : r.sortDepartments = c.departments := harr
  have hview : r.selectView = v.selectView := hview
  have hdep : r.department = c.initial.or (c.departments.find? (·.departmentId = 0)) := by
    rw [← h]
    exact hdep
  cases hd : r.department with
  | some d =>
    have hor : some d = c.initial.or c.fallback := by
      rw [DepartChoice.fallback, ← Option.or_assoc, ← hdep, hd]
      rfl
    have hmem : d ∈ c.departments := by
      rw [hd] at hdep
      cases hi : c.initial with
      | some d' =>
        rw [hi] at hdep
        exact c.mem d (hi.trans hdep.symm)
      | none =>
        rw [hi] at hdep
        exact List.mem_of_find?_eq_some hdep.symm
    simp only [hd]
    exact ⟨harr, hview, hor, hidx d hd hmem⟩
  | none =>
    -- no department was given, and none has the number zero: the first is taken
    rw [hd] at hdep
    obtain ⟨hi, hfind⟩ := Option.or_eq_none_iff.1 hdep.symm
    have hor : c.departments.head? = c.initial.or c.fallback := by
      rw [hi, DepartChoice.fallback, hfind]
      rfl
    rw [← hor]
    cases hl : c.departments with
    | nil =>
      rw [hl] at harr
      simp only [harr, hd]
      exact ⟨trivial, hview, rfl, rfl⟩
    | cons first rest =>
      rw [hl] at harr
      simp only [harr]
      exact ⟨trivial, hview, rfl, rfl⟩

/-! ## The way back from a name -/

/-- The `j`-th department is the last of the name. -/
structure LastNamed (l : List KPDepartment) (name : String) (j : ℕ) (d : KPDepartment) : Prop where
  get : l[j]? = some d
  name_eq : d.name = name
  last : ∀ k d', j < k → l[k]? = some d' → d'.name ≠ name

/-- What the look-up of a name makes of view `v` with the first departments `l`. -/
def LookedUp (name : String) (v : KPDepartSelectPopView) (l : List KPDepartment)
    (r : KPDepartSelectPopView) : Prop :=
  (r = v ∧ ∀ d ∈ l, d.name ≠ name) ∨
    ∃ j d, LastNamed l name j d ∧ r = { v with selectIndex := j, department := some d }

theorem LastNamed.append {l : List KPDepartment} {name : String} {j : ℕ} {d one : KPDepartment}
    (h : LastNamed l name j d) (hn : one.name ≠ name) : LastNamed (l ++ [one]) name j d := by
  refine ⟨Tables.getElem?_concat_eq_some.2 (Or.inl h.get), h.name_eq, fun k d' hk hd' => ?_⟩
  rcases Tables.getElem?_concat_eq_some.1 hd' with hd' | ⟨-, rfl⟩
  · exact h.last k d' hk hd'
  · exact hn

theorem lookedUp_append {name : String} {l : List KPDepartment} {r : KPDepartSelectPopView}
    (one : KPDepartment) (h : LookedUp name v l r) :
    LookedUp name v (l ++ [one]) (if some name = some one.name then
      { r with selectIndex := l.length, department := some one } else r) := by
  by_cases hn : name = one.name
  · refine Or.inr ⟨l.length, one, ⟨by simp, hn.symm, fun k d' hk hd' => ?_⟩, ?_⟩
    · rcases Tables.getElem?_concat_eq_some.1 hd' with hd' | ⟨rfl, -⟩
      · exact absurd hk (Nat.lt_asymm (List.getElem?_eq_some_iff.1 hd').1)
      · exact absurd hk (Nat.lt_irrefl _)
    · rw [if_pos (congrArg some hn)]
      rcases h with ⟨hr, -⟩ | ⟨j, d, -, hr⟩ <;> rw [hr]
  · rw [if_neg fun he => hn (Option.some.inj he)]
    rcases h with ⟨hr, hno⟩ | ⟨j, d, hlast, hr⟩
    · refine Or.inl ⟨hr, List.forall_mem_append.2 ⟨hno, ?_⟩⟩
      rw [List.forall_mem_singleton]
      exact Ne.symm hn
    · exact Or.inr ⟨j, d, hlast.append (Ne.symm hn), hr⟩

/-- The loop of `downSelectView:Data:FromModel:`. -/
theorem lookup_loop {title : Option String} {name : String} (ht : title = some name)
    (v : KPDepartSelectPopView) (l : List KPDepartment) :
    LookedUp name v l (l.zipIdx.foldl (fun v p => if title = some p.1.name then
      { v with selectIndex := p.2, department := some p.1 } else v) v) := by
  subst ht
  refine Traverse.foldl_zipIdx_invariant (P := LookedUp name v) ?_
    (fun _ one _ h => lookedUp_append one h) l
  exact Or.inl ⟨rfl, fun d hd => absurd hd List.not_mem_nil⟩

/-- **The last row of the name is taken.** -/
theorem downSelectView_spec {model : SelectToModel} (v : KPDepartSelectPopView) {i : ℕ}
    {d : KPDepartment} (hi : v.sortDepartments[i]? = some d) (hname : model.name = some d.name) :
    ∃ j d', LastNamed v.sortDepartments d.name j d' ∧
      v.downSelectView model =
        { v with selectButton := some d.name, selectIndex := j, department := some d' } := by
  have hloop := lookup_loop hname { v with selectButton := model.name } v.sortDepartments
  rcases hloop with ⟨-, hno⟩ | ⟨j, d', hlast, hr⟩
  · exact absurd rfl (hno d (List.mem_of_getElem? hi))
  · refine ⟨j, d', hlast, ?_⟩
    rw [downSelectView]
    exact hr.trans (by rw [hname])

/-! ## The drop-down list as it is opened -/

theorem rowItem_isSelected (v : KPDepartSelectPopView) (i : ℕ) :
    (v.rowItem i).isSelected = decide (v.selectIndex = i) := by
  simp only [rowItem]
  split
  · rename_i h; simp [h]
  · rename_i h; simp [h, SelectToModel.initWithType]

theorem rowItem_typeSelect (v : KPDepartSelectPopView) (i : ℕ) :
    (v.rowItem i).typeSelect = .radio := by
  simp only [rowItem]
  split <;> rfl

theorem rowItem_isRepeated (v : KPDepartSelectPopView) (i : ℕ) :
    (v.rowItem i).isRepeated = decide (v.selectIndex = i) := by
  rw [SelectToModel.isRepeated, rowItem_isSelected, rowItem_typeSelect]
  simp

/-- The buttons of the list, with the highlighted row. -/
def rowButtons (v : KPDepartSelectPopView) : List UIButton :=
  DownSelectView.buildItems v.rowItem (List.range v.sortDepartments.length)

theorem dropDown_view (hne : v.sortDepartments ≠ []) :
    v.dropDown.view = { DownSelectView.initWithView with
      selectList := List.range v.sortDepartments.length
      bgView := some v.rowButtons } := by
  refine DownSelect.openSelectFrame_first ?_ v.rowItem (v := DownSelectView.initWithView) rfl
  rw [List.length_range]
  exact fun h => hne (List.length_eq_zero_iff.1 h)

/-- A list on the screen displays its buttons. -/
theorem displayed_dropDown (hne : v.sortDepartments ≠ [])
    (hon : v.dropDown.view.isOnScreen = true) : v.dropDown.view.displayed = v.rowButtons := by
  rw [DownSelectView.displayed, if_pos hon, dropDown_view hne, Option.getD_some]

theorem settled_rowButtons (v : KPDepartSelectPopView) :
    Settled DownSelect.HasButton
      ⟨v.rowItem, List.range v.sortDepartments.length, v.rowButtons, []⟩ := by
  refine DownSelect.settled_buildItems List.nodup_range (fun i _ ht => ?_)
    (fun i _ j _ hi hj => ?_) []
  · rw [rowItem_typeSelect] at ht
    cases ht
  · rw [rowItem_isSelected, decide_eq_true_eq] at hi hj
    exact hi.symm.trans hj

theorem rowButtons_selected {b : UIButton} (hb : b ∈ v.rowButtons) :
    b.selected = true ↔ b.tag = 100 + v.selectIndex := by
  obtain ⟨i, one, hi, rfl⟩ := DownSelect.buildItems_mem hb
  have hone : one = i := by
    have := (List.getElem?_eq_some_iff.1 hi).2
    rw [List.getElem_range] at this
    exact this.symm
  subst hone
  show (v.rowItem one).isSelected = true ↔ 100 + one = 100 + v.selectIndex
  rw [rowItem_isSelected, decide_eq_true_eq]
  exact ⟨fun h => by rw [h], fun h => (Nat.add_left_cancel h).symm⟩

end KPDepartSelectPopView

namespace DepartSelect

open KPDepartSelectPopView

variable {c : DepartChoice} {s : DepartSelect}

theorem agrees_start (c : DepartChoice) : Agrees c c.start := by
  obtain ⟨harr, hview, hdep, hidx⟩ := createData_spec c
    (v := ⟨c.initial, [], 0, none, none⟩) rfl
  refine ⟨?_, fun list hl => ?_, hdep⟩
  · exact (congrArg (·[_]?) harr).trans hidx
  · exact absurd (hview.symm.trans hl) (by simp)

theorem fresh_start (c : DepartChoice) : Fresh c c.start := by
  obtain ⟨harr, hview, -, -⟩ := createData_spec c (v := ⟨c.initial, [], 0, none, none⟩) rfl
  refine ⟨harr, fun list hl => ?_⟩
  have hview : c.start.popView.selectView = none := hview
  rw [openView, hview] at hl
  cases hl

/-- Opening the list. -/
theorem buttonAction_step (hf : Fresh c s) (ha : Agrees c s) :
    Fresh c { s with popView := s.popView.buttonAction } ∧
      Agrees c { s with popView := s.popView.buttonAction } := by
  unfold buttonAction
  by_cases hne : s.popView.sortDepartments.length = 0
  · rw [if_pos hne]
    exact ⟨hf, ha⟩
  · rw [if_neg hne]
    have hne' : s.popView.sortDepartments ≠ [] := fun h => hne (List.length_eq_zero_iff.2 h)
    refine ⟨⟨hf.departments, fun list hl => ?_⟩, ha.index, fun list hl b hb => ?_, ha.delivers⟩
    · refine ⟨?_, hf.departments ▸ hne'⟩
      exact (Option.some.inj (Option.filter_eq_some_iff.1 hl).1).symm
    · obtain rfl := Option.some.inj hl
      rw [dropDown_view hne', Option.getD_some] at hb
      exact rowButtons_selected hb

/-- A list that has left the screen is no longer asked for. -/
theorem fresh_of_off {v : KPDepartSelectPopView} (hd : v.sortDepartments = c.departments)
    {t : DownSelect} (hv : v.selectView = some t) (hoff : t.view.isOnScreen = false)
    (tapped : Option KPDepartment) : Fresh c ⟨v, tapped⟩ := by
  refine ⟨hd, fun list hl => ?_⟩
  obtain ⟨h1, h2⟩ := Option.filter_eq_some_iff.1 hl
  rw [hv] at h1
  obtain rfl := Option.some.inj h1
  rw [hoff] at h2
  cases h2

/-- A list that leaves the screen without telling of a department. -/
theorem close_step (hf : Fresh c s) (ha : Agrees c s) {list : DownSelect}
    (hl : s.popView.openView = some list) {t : DownSelect} (hoff : t.view.isOnScreen = false)
    (hb : t.view.bgView = list.view.bgView) :
    Fresh c { s with popView := { s.popView with selectView := some t } } ∧
      Agrees c { s with popView := { s.popView with selectView := some t } } := by
  obtain ⟨hlist, -⟩ := Option.filter_eq_some_iff.1 hl
  refine ⟨fresh_of_off (v := { s.popView with selectView := some t }) hf.departments rfl hoff _,
    ha.index, fun list' hl' b hb' => ?_, ha.delivers⟩
  obtain rfl := Option.some.inj hl'
  rw [hb] at hb'
  exact ha.row list hlist b hb'

/-- Departments are told apart by their ids. -/
theorem index_unique {i j : ℕ} {d : KPDepartment} (hi : c.departments[i]? = some d)
    (hj : c.departments[j]? = some d) : i = j := by
  have hlt := (List.getElem?_eq_some_iff.1 hi).1
  exact (List.getElem?_inj hlt c.distinct.of_map).1 (hi.trans hj.symm)

/-- **A tap on a row that is not highlighted.** -/
theorem agrees_lookup_iff (hf : Fresh c s) {row : ℕ} {d : KPDepartment}
    (hd : s.popView.sortDepartments[row]? = some d) {j : ℕ} {d' : KPDepartment}
    (hlast : LastNamed s.popView.sortDepartments d.name j d') {t : DownSelect}
    (hb : ∀ b ∈ t.view.bgView.getD [], (b.selected = true ↔ b.tag = 100 + row)) :
    Agrees c ⟨⟨some d', s.popView.sortDepartments, j, some d.name, some t⟩, some d⟩ ↔
      ∀ k d'', row < k → s.popView.sortDepartments[k]? = some d'' → d''.name ≠ d.name := by
  constructor
  · intro ha
    have he : some d' = some d := ha.delivers
    obtain rfl := Option.some.inj he
    have hj : j = row := index_unique (hf.departments ▸ hlast.get) (hf.departments ▸ hd)
    subst hj
    exact hlast.last
  · intro hno
    have hj : j = row := by
      rcases Nat.lt_trichotomy j row with h | h | h
      · exact absurd rfl (hlast.last row d h hd)
      · exact h
      · exact absurd hlast.name_eq (hno j d' h hlast.get)
    subst hj
    obtain rfl := Option.some.inj (hlast.get.symm.trans hd)
    refine ⟨hd, fun list hl b hb' => ?_, rfl⟩
    obtain rfl := Option.some.inj hl
    exact hb b hb'

/-- The button under the tag of a row is that of a department. -/
theorem rowButton_place {v : KPDepartSelectPopView} {row : ℕ} {b : UIButton}
    (hv : viewWithTag (100 + row) v.rowButtons = some b) :
    (List.range v.sortDepartments.length)[100 + row - 100]? = some row ∧
      ∃ d, v.sortDepartments[row]? = some d := by
  obtain ⟨hb, htag⟩ := viewWithTag_eq_some hv
  obtain ⟨-, hplace⟩ := (settled_rowButtons v).place b hb
  rw [htag] at hplace
  have hrow : row < v.sortDepartments.length := by
    have := (List.getElem?_eq_some_iff.1 hplace).1
    simpa using this
  rw [Nat.add_sub_cancel_left, List.getElem?_range hrow]
  exact ⟨rfl, _, List.getElem?_eq_getElem hrow⟩

/-- What a tap on a row on the screen gives: the list is gone, its buttons show the tapped row, and
the view was told of the row unless it was highlighted already. -/
theorem tapRow_on_screen (hf : Fresh c s) {row : ℕ} {b : UIButton}
    (ho : s.popView.openView = some s.popView.dropDown) (hne : c.departments ≠ [])
    (hv : viewWithTag (100 + row) s.popView.rowButtons = some b) :
    ∃ t d, s.popView.sortDepartments[row]? = some d ∧ s.rowTapped row = some d ∧
      t.view.isOnScreen = false ∧
      (∀ b ∈ t.view.bgView.getD [], (b.selected = true ↔ b.tag = 100 + row)) ∧
      s.step (.tapRow row) = some
        ⟨if s.popView.selectIndex = row then { s.popView with selectView := some t }
          else { s.popView with selectView := some t }.downSelectView (t.models row), some d⟩ ∧
      (t.models row).name = some d.name := by
  have hview := dropDown_view (hf.departments ▸ hne)
  have hbg : s.popView.dropDown.view.bgView = some s.popView.rowButtons := by rw [hview]
  have hlist : s.popView.dropDown.view.selectList =
      List.range s.popView.sortDepartments.length := by rw [hview]
  have hpop : s.popView.dropDown.view.isAutoPop = true := by rw [hview]; rfl
  have hdisp : s.popView.dropDown.view.displayed = s.popView.rowButtons :=
    displayed_dropDown (hf.departments ▸ hne) (Option.filter_eq_some_iff.1 ho).2
  have hset := settled_rowButtons s.popView
  obtain ⟨hplace, d, hd⟩ := rowButton_place hv
  have hrt : s.rowTapped row = some d := by simp only [rowTapped, ho, hdisp, hv, hd]
  obtain ⟨models, buttons, told, hsel, -, htap, -⟩ :=
    DownSelect.selectToDo_tapped hbg (hlist ▸ hset) (Nat.le_add_right 100 row) (hlist ▸ hplace)
  let t : DownSelect :=
    ⟨models, DownSelect.viewAfter s.popView.dropDown.view (s.popView.rowItem row) buttons,
      DownSelect.callsOf s.popView.dropDown.view (s.popView.rowItem row) row⟩
  have hst : { s.popView.dropDown with calls := [] }.step (.tap (100 + row)) = some t := by
    simp only [DownSelect.step, hdisp, hv]
    exact congrArg (Option.map _) hsel
  have hname : (models row).name = some d.name := by
    refine (htap.name row).trans ?_
    simp only [rowItem, hd, Option.map_some]
  refine ⟨t, d, hd, hrt, ?_, htap.button, ?_, hname⟩
  · simp [t, DownSelect.viewAfter, hpop]
  · have hcalls : t.calls = if s.popView.selectIndex = row then [.colseView]
        else [.downSelectView row] := by
      simp [t, DownSelect.callsOf, rowItem_isRepeated, hpop]
    simp only [step, inSelectView, ho, hst, Option.map_some, hrt, Option.some_or, takeCalls, hcalls]
    by_cases hr : s.popView.selectIndex = row
    · simp only [hr, if_true, List.foldl_cons, List.foldl_nil]
    · simp only [hr, if_false, List.foldl_cons, List.foldl_nil]

/-- There is no such row on the screen: nothing is done. -/
theorem tapRow_missing (hf : Fresh c s) {row : ℕ}
    (ho : s.popView.openView = some s.popView.dropDown) (hne : c.departments ≠ [])
    (hv : viewWithTag (100 + row) s.popView.rowButtons = none) :
    s.step (.tapRow row) = some s ∧ s.rowTapped row = none := by
  obtain ⟨hsel, hon⟩ := Option.filter_eq_some_iff.1 ho
  have hdisp : s.popView.dropDown.view.displayed = s.popView.rowButtons :=
    displayed_dropDown (hf.departments ▸ hne) hon
  have hlist : { s.popView with selectView := some s.popView.dropDown } = s.popView := by
    rw [← hsel]
  have hst : { s.popView.dropDown with calls := [] }.step (.tap (100 + row)) =
      some s.popView.dropDown := by
    simp only [DownSelect.step, hdisp, hv]
    rfl
  constructor
  · simp only [step, inSelectView, ho, hst, rowTapped, hdisp, hv, Option.map_some, hlist]
    rfl
  · simp [rowTapped, ho, hdisp, hv]

theorem tapRow_step (hf : Fresh c s) (ha : Agrees c s) (row : ℕ) :
    ∃ t, s.step (.tapRow row) = some t ∧ Fresh c t ∧ (Agrees c t ↔ LastOfName s (.tapRow row)) := by
  cases ho : s.popView.openView with
  | none =>
    refine ⟨s, by simp [step, inSelectView, rowTapped, ho], hf, iff_of_true ha fun d hd => ?_⟩
    simp [rowTapped, ho] at hd
  | some list =>
    obtain ⟨rfl, hne⟩ := hf.list list ho
    cases hv : viewWithTag (100 + row) s.popView.rowButtons with
    | none =>
      obtain ⟨hst, hnone⟩ := tapRow_missing hf ho hne hv
      refine ⟨s, hst, hf, iff_of_true ha fun d hd => ?_⟩
      rw [hnone] at hd
      cases hd
    | some b =>
      obtain ⟨t, d, hd, hrt, hoff, hmark, hst, hname⟩ := tapRow_on_screen hf ho hne hv
      refine ⟨_, hst, ?_, ?_⟩
      · split
        · exact fresh_of_off (v := { s.popView with selectView := some t }) hf.departments rfl hoff _
        · obtain ⟨j, d', -, hlook⟩ := downSelectView_spec
            { s.popView with selectView := some t } hd hname
          rw [hlook]
          exact fresh_of_off (v := ⟨some d', s.popView.sortDepartments, j, some d.name, some t⟩)
            hf.departments rfl hoff _
      · have hcond : LastOfName s (.tapRow row) ↔ (row = s.popView.selectIndex ∨
            ∀ k d', row < k → s.popView.sortDepartments[k]? = some d' → d'.name ≠ d.name) := by
          simp [LastOfName, hrt]
        rw [hcond]
        split
        · rename_i hr
          subst hr
          refine iff_of_true ⟨ha.index, fun list' hl' b' hb' => ?_, ha.index.symm.trans hd⟩
            (Or.inl rfl)
          obtain rfl := Option.some.inj hl'
          exact hmark b' hb'
        · rename_i hr
          obtain ⟨j, d', hlast, hlook⟩ := downSelectView_spec
            { s.popView with selectView := some t } hd hname
          rw [hlook, or_iff_right (Ne.symm hr)]
          exact agrees_lookup_iff hf hd hlast hmark

/-- The list is hidden, by a tap outside of it or by the view. -/
theorem hide_step (hf : Fresh c s) (ha : Agrees c s) {ev : DownSelect.Event}
    (hev : ev = .tapOutside ∨ ev = .hideSelect) :
    ∃ popView, s.popView.inSelectView ev = some popView ∧ Fresh c { s with popView } ∧
      Agrees c { s with popView } := by
  cases ho : s.popView.openView with
  | none => exact ⟨s.popView, by rw [inSelectView, ho], hf, ha⟩
  | some list =>
    obtain ⟨rfl, hne⟩ := hf.list list ho
    obtain ⟨hsel, hon⟩ := Option.filter_eq_some_iff.1 ho
    have hview := dropDown_view (hf.departments ▸ hne)
    rcases hev with rfl | rfl
    · refine ⟨_, ?_, close_step hf ha ho
        (t := ⟨s.popView.dropDown.models, s.popView.dropDown.view.closeDo.1, [.colseView]⟩) ?_ ?_⟩
      · have hopen : s.popView.dropDown.view.hasTapGesture = true ∧
            s.popView.dropDown.view.isOnScreen = true := ⟨by rw [hview]; rfl, hon⟩
        simp only [inSelectView, ho, DownSelect.step, hopen]
        rfl
      · rw [hview]; rfl
      · rw [hview]; rfl
    · refine ⟨_, ?_, close_step hf ha ho
        (t := ⟨s.popView.dropDown.models, s.popView.dropDown.view.hideSelect, []⟩) ?_ ?_⟩
      · simp only [inSelectView, ho, DownSelect.step]
        rfl
      · rw [hview]; rfl
      · rw [hview]; rfl

theorem step_agrees (hf : Fresh c s) (ha : Agrees c s) (ev : Event) :
    ∃ t, s.step ev = some t ∧ Fresh c t ∧ (Agrees c t ↔ LastOfName s ev) := by
  cases ev with
  | buttonAction =>
    cases ho : s.popView.openView with
    | some list => exact ⟨s, by rw [step, ho], hf, iff_of_true ha trivial⟩
    | none =>
      obtain ⟨hf', ha'⟩ := buttonAction_step hf ha
      exact ⟨_, by rw [step, ho], hf', iff_of_true ha' trivial⟩
  | tapRow row => exact tapRow_step hf ha row
  | tapOutside =>
    obtain ⟨popView, hst, hf', ha'⟩ := hide_step hf ha (Or.inl rfl)
    exact ⟨_, by rw [step, hst, Option.map_some], hf', iff_of_true ha' trivial⟩
  | tapAction =>
    obtain ⟨popView, hst, hf', ha'⟩ := hide_step hf ha (Or.inr rfl)
    exact ⟨_, by rw [step, hst, Option.map_some], hf', iff_of_true ha' trivial⟩

/-- **Index, highlighted row and delivered department agree throughout a run, which never raises,
exactly when every row that is tapped is highlighted already or the last of its name.** -/
theorem depart_agrees_iff (c : DepartChoice) (evs : List Event) :
    (∃ t, exec step c.start evs = some t ∧ (∀ q ∈ visited step c.start evs, Agrees c q.1) ∧
      Agrees c t) ↔ ∀ q ∈ visited step c.start evs, LastOfName q.1 q.2 := by
  rw [exec_always_iff (I := Fresh c) (A := fun _ _ => True)
    (fun s ev hf _ ha => step_agrees hf ha ev) evs (fresh_start c) fun _ _ => trivial]
  exact and_iff_right (agrees_start c)

/-- Two departments of one name. -/
def twins : DepartChoice where
  departments := [⟨"main", 1⟩, ⟨"north", 2⟩, ⟨"north", 3⟩]
  distinct := by decide
  initial := none
  mem d hd := by cases hd

/-- The first of two departments of one name is tapped, and the second is delivered. -/
theorem last_of_name_delivered :
    ((exec step twins.start [.buttonAction, .tapRow 1]).map fun t =>
      (t.tapped, t.popView.clickSureBtn, t.popView.selectIndex)) =
      some (some ⟨"north", 2⟩, some ⟨"north", 3⟩, 2) ∧
    ¬ ∃ t, exec step twins.start [.buttonAction, .tapRow 1] = some t ∧ Agrees twins t := by
  have h : ((exec step twins.start [.buttonAction, .tapRow 1]).map fun t =>
      (t.tapped, t.popView.clickSureBtn, t.popView.selectIndex)) =
      some (some ⟨"north", 2⟩, some ⟨"north", 3⟩, 2) := by decide +kernel
  refine ⟨h, ?_⟩
  rintro ⟨t, ht, ha⟩
  rw [ht, Option.map_some, Option.some.injEq, Prod.mk.injEq, Prod.mk.injEq] at h
  have hd := ha.delivers
  rw [h.1, h.2.1] at hd
  exact absurd hd (by decide)

end DepartSelect

end RCSdk
