import RCSdk.Lib.Run
import RCSdk.Lib.Traverse
import RCSdk.Proof.DateSelect

/-!
# The date picker without its day column

A picker has as many columns as its data source gave when it was loaded (`Columns`). A column that
it does not have raises, and `selectYear:selectMonth:selectDay:` and `reloadData` go to the day's
whatever the layout; only `setSelectLastOne` counts the columns.

* `columns_in_range_iff`: in every run of either layout no operation goes to a column that is not
  there exactly when the day is shown, or no date is selected, no wheel turned and no date
  delivered.
* `day_column_raises`: the three of them.
-/

namespace RCSdk

open Gregorian Trans

namespace STPickerDate

variable {today : Date} {d : STPickerDate}

/-! ## The columns of a picker -/

/-- The picker has `n` columns, or has not been loaded. -/
structure Columns (n : ℕ) (d : STPickerDate) : Prop where
  componentNum : d.componentNum = n
  loaded : d.pickerView.components ≠ [] → d.pickerView.components.length = n

/-- The same of a picker that has been loaded. -/
structure HasColumns (n : ℕ) (d : STPickerDate) : Prop where
  componentNum : d.componentNum = n
  length : d.pickerView.components.length = n

variable {n : ℕ}

theorem HasColumns.columns (h : HasColumns n d) : Columns n d := ⟨h.componentNum, fun _ => h.length⟩

theorem Columns.hasColumns (h : Columns n d) (hl : DateColumns.Loaded d) : HasColumns n d :=
  ⟨h.componentNum, h.loaded hl⟩

/-- **A reload gives the picker its columns**, in whatever rows. -/
theorem Columns.reload (h : Columns n d) (today : Date) :
    ∃ d', d.reloadAllComponents today = some d' ∧ HasColumns n d' := by
  have hload : ((List.range d.componentNum).mapM fun c => (d.dataSource today).load c
      ((d.pickerView.selectedRowInComponent c).getD 0)).isSome := by
    rw [Traverse.mapM_isSome_iff]
    intro c hc
    rw [load_eq]
    rfl
  obtain ⟨cs, hcs⟩ := Option.isSome_iff_exists.1 hload
  refine ⟨{ d with pickerView := ⟨cs⟩ }, ?_, h.componentNum, ?_⟩
  · unfold reloadAllComponents UIPickerView.reloadAllComponents
    change Option.bind (Option.bind ((List.range d.componentNum).mapM _) _) _ = _
    rw [hcs]
    rfl
  · have hlen := Traverse.length_of_mapM hcs
    rw [List.length_range, h.componentNum] at hlen
    exact hlen

/-- A column that the picker has. -/
theorem HasColumns.selectRow (h : HasColumns n d) (row component : ℕ) (hc : component < n) :
    ∃ d', d.selectRow row component = some d' ∧ HasColumns n d' := by
  refine ⟨_, selectRow_eq rfl (by rw [h.length]; exact hc), h.componentNum, ?_⟩
  rw [List.length_modify]
  exact h.length

/-- A column that it does not have. -/
theorem HasColumns.selectRow_none (h : HasColumns n d) (row : ℕ) {component : ℕ}
    (hc : n ≤ component) : d.selectRow row component = none := by
  unfold STPickerDate.selectRow UIPickerView.selectRow
  rw [if_neg (by rw [h.length]; omega)]
  rfl

theorem HasColumns.selectedRow (h : HasColumns n d) (component : ℕ) (hc : component < n) :
    ∃ row, d.pickerView.selectedRowInComponent component = some row := by
  unfold UIPickerView.selectedRowInComponent
  rw [List.getElem?_eq_getElem (by rw [h.length]; exact hc)]
  exact ⟨_, rfl⟩

/-- **`reloadData` reads three columns.** -/
theorem HasColumns.reloadData (h : HasColumns 3 d) :
    ∃ d', d.reloadData = some d' ∧ HasColumns 3 d' := by
  obtain ⟨fir, hfir⟩ := h.selectedRow 0 (by omega)
  obtain ⟨sec, hsec⟩ := h.selectedRow 1 (by omega)
  obtain ⟨thd, hthd⟩ := h.selectedRow 2 (by omega)
  unfold STPickerDate.reloadData
  simp only [hfir, hsec, hthd, Option.bind_eq_bind, Option.bind_some]
  exact ⟨_, rfl, h.componentNum, h.length⟩

theorem HasColumns.reloadData_none (h : HasColumns 2 d) : d.reloadData = none := by
  have hthd : d.pickerView.selectedRowInComponent 2 = none := by
    unfold UIPickerView.selectedRowInComponent
    rw [List.getElem?_eq_none (by rw [h.length])]
    rfl
  unfold STPickerDate.reloadData
  rw [hthd]
  simp

/-! ## The operations -/

/-- The begin time is of no concern to the columns. -/
theorem Columns.setBeginTime (h : Columns n d) (today : Date) (time : List Char) :
    Columns n (d.setBeginTime today time) := by
  unfold STPickerDate.setBeginTime
  dsimp only
  split_ifs
  · exact ⟨h.componentNum, h.loaded⟩
  · exact ⟨h.componentNum, h.loaded⟩
  · exact h

/-- The loop of `setSelectLastOne` goes to the columns that there are. -/
theorem HasColumns.selectColumns (h : HasColumns n d) :
    ∀ is : List ℕ, (∀ i ∈ is, i < n) → ∃ d', is.foldlM selectColumn d = some d' ∧
      HasColumns n d' := by
  intro is
  induction is generalizing d with
  | nil => exact fun _ => ⟨d, rfl, h⟩
  | cons i is ih =>
    intro his
    have hi := his i List.mem_cons_self
    have hselect : ∃ d', selectColumn d i = some d' ∧ HasColumns n d' := by
      unfold selectColumn
      split_ifs with h0 h1 h2
      · exact h.selectRow _ _ (h0 ▸ hi)
      · exact h.selectRow _ _ (h1 ▸ hi)
      · exact h.selectRow _ _ (h2 ▸ hi)
      · exact ⟨d, rfl, h⟩
    obtain ⟨d₁, hd₁, h₁⟩ := hselect
    obtain ⟨d₂, hd₂, h₂⟩ := ih h₁ fun i hi => his i (List.mem_cons_of_mem _ hi)
    refine ⟨d₂, ?_, h₂⟩
    rw [List.foldlM_cons, Option.bind_eq_bind, hd₁, Option.bind_some, hd₂]

/-- **`setSelectLastOne` goes to no other column** in either layout. -/
theorem Columns.setSelectLastOne (h : Columns n d) (today : Date) :
    ∃ d', d.setSelectLastOne today = some d' ∧ HasColumns n d' := by
  have hlast : Columns n { d with
      firIndex := d.year - d.yearLeast, secIndex := d.month - 1, thdIndex := d.day - 1 } :=
    ⟨h.componentNum, h.loaded⟩
  obtain ⟨d₁, hd₁, h₁⟩ := hlast.reload today
  obtain ⟨d₂, hd₂, h₂⟩ := h₁.selectColumns (List.range d₁.componentNum) fun i hi => by
    rw [← h₁.componentNum]
    exact List.mem_range.1 hi
  refine ⟨d₂, ?_, h₂⟩
  unfold STPickerDate.setSelectLastOne
  simp only [Option.bind_eq_bind, hd₁, Option.bind_some, hd₂]

/-- Selecting a row changes no columns. -/
theorem HasColumns.of_selectRow (h : HasColumns n d) {row component : ℕ} {d' : STPickerDate}
    (hd : d.selectRow row component = some d') : HasColumns n d' := by
  by_cases hc : component < n
  · obtain ⟨d'', hd'', h''⟩ := h.selectRow row component hc
    obtain rfl := Option.some.inj (hd.symm.trans hd'')
    exact h''
  · rw [h.selectRow_none row (by omega)] at hd
    cases hd

/-- **`selectYear:selectMonth:selectDay:` goes to the third column**, once the others are done. -/
theorem Columns.selectYear (h : Columns n d) (today : Date) (hn : 2 ≤ n) (x : Date) :
    ∃ d', HasColumns n d' ∧
      d.selectYear today x.year x.month x.day = d'.selectRow d'.thdIndex.toNat 2 := by
  have hdate : Columns n (d.withDate x) := ⟨h.componentNum, h.loaded⟩
  obtain ⟨d₁, hd₁, h₁⟩ := hdate.reload today
  obtain ⟨d₂, hd₂, h₂⟩ := h₁.selectRow d₁.firIndex.toNat 0 (by omega)
  obtain ⟨d₃, hd₃, h₃⟩ := h₂.selectRow d₂.secIndex.toNat 1 (by omega)
  refine ⟨d₃, h₃, ?_⟩
  unfold STPickerDate.selectYear
  change ((d.withDate x).reloadAllComponents today).bind _ = _
  rw [hd₁, Option.bind_some]
  change Option.bind (d₁.selectRow d₁.firIndex.toNat 0) _ = _
  rw [hd₂, Option.bind_some]
  change Option.bind (d₂.selectRow d₂.secIndex.toNat 1) _ = _
  rw [hd₃, Option.bind_some]

/-- What the `switch` of a new row does to the columns: nothing. -/
theorem HasColumns.of_takeRow (h : HasColumns n d) {row component : ℕ} {d' : STPickerDate}
    (hd : d.takeRow row component = some d') : HasColumns n d' := by
  have hindex : ∀ fir sec thd, HasColumns n
      { d with firIndex := fir, secIndex := sec, thdIndex := thd } :=
    fun _ _ _ => ⟨h.componentNum, h.length⟩
  unfold takeRow at hd
  split at hd
  · split_ifs at hd
    · simp only [Option.bind_eq_bind, Option.bind_eq_some_iff] at hd
      obtain ⟨rows, -, hd⟩ := hd
      split_ifs at hd
      · obtain ⟨d₁, hd₁, hd₂⟩ := Option.bind_eq_some_iff.1 hd
        exact ((hindex _ _ _).of_selectRow hd₁).of_selectRow hd₂
      · obtain rfl := Option.some.inj hd
        exact hindex _ _ _
    · obtain rfl := Option.some.inj hd
      exact h
  · obtain rfl := Option.some.inj hd
    exact hindex _ _ _
  · obtain rfl := Option.some.inj hd
    exact hindex _ _ _
  · obtain rfl := Option.some.inj hd
    exact h

/-- With three columns it goes through. -/
theorem HasColumns.takeRow_isSome (h : HasColumns 3 d) (row component : ℕ) :
    (d.takeRow row component).isSome := by
  have hindex : ∀ fir sec thd, HasColumns 3
      { d with firIndex := fir, secIndex := sec, thdIndex := thd } :=
    fun _ _ _ => ⟨h.componentNum, h.length⟩
  unfold takeRow
  split
  · split_ifs
    · obtain ⟨rows, hrows⟩ : ∃ rows, d.pickerView.numberOfRowsInComponent 0 = some rows := by
        unfold UIPickerView.numberOfRowsInComponent
        rw [List.getElem?_eq_getElem (by rw [h.length]; omega)]
        exact ⟨_, rfl⟩
      simp only [hrows, Option.bind_eq_bind, Option.bind_some]
      split_ifs
      · obtain ⟨d₁, hd₁, h₁⟩ := (hindex row 0 0).selectRow 0 1 (by omega)
        obtain ⟨d₂, hd₂, -⟩ := h₁.selectRow 0 2 (by omega)
        rw [hd₁, Option.bind_some, hd₂]
        rfl
      · rfl
    · rfl
  all_goals rfl

/-- **A scroll reads all three columns.** -/
theorem HasColumns.scroll (h : HasColumns 3 d) (today : Date) (row : ℕ) {component : ℕ}
    (hc : component < 3) :
    ∃ d', DatePicker.scroll today row component d = some d' ∧ HasColumns 3 d' := by
  obtain ⟨d₁, hd₁, h₁⟩ := h.selectRow row component hc
  obtain ⟨d₂, hd₂⟩ := Option.isSome_iff_exists.1 (h₁.takeRow_isSome row component)
  obtain ⟨d₃, hd₃, h₃⟩ := (h₁.of_takeRow hd₂).columns.reload today
  obtain ⟨d₄, hd₄, h₄⟩ := h₃.reloadData
  refine ⟨d₄, ?_, h₄⟩
  unfold DatePicker.scroll didSelectRow
  simp only [Option.bind_eq_bind, hd₁, hd₂, hd₃, hd₄, Option.bind_some]

theorem HasColumns.scroll_none (h : HasColumns 2 d) (row component : ℕ) :
    DatePicker.scroll today row component d = none := by
  rw [Option.eq_none_iff_forall_ne_some]
  intro d' hd
  unfold DatePicker.scroll didSelectRow at hd
  simp only [Option.bind_eq_bind, Option.bind_eq_some_iff] at hd
  obtain ⟨d₁, hd₁, d₂, hd₂, d₃, hd₃, hd₄⟩ := hd
  obtain ⟨d₃', hd₃', h₃⟩ := ((h.of_selectRow hd₁).of_takeRow hd₂).columns.reload today
  obtain rfl := Option.some.inj (hd₃.symm.trans hd₃')
  rw [h₃.reloadData_none] at hd₄
  cases hd₄

end STPickerDate

/-! ## Runs -/

namespace DateColumns

open STPickerDate

/-- A fresh picker in one of the two layouts. -/
def start (today : Date) (hiddenDay : Bool) : STPickerDate :=
  (setupUI today).setHiddenDay hiddenDay

/-- The event has the picker go to the day's column. -/
def GoesToDay (d : STPickerDate) : Event → Prop
  | .selectYear _ _ _ => True
  | .scroll row component => Displays d row component
  | .selectedOk => True
  | .setBeginTime _ | .setSelectLastOne | .show => False

/-- The year and the month that `selectedOk` delivers are the highlighted ones. -/
def DeliversHighlighted (today : Date) (d : STPickerDate) : Prop :=
  ∀ d' x, (loadIfNeeded today d).bind STPickerDate.selectedOk = some (d', x) →
    d'.pickerView.highlighted 0 = some (some (toString x.year)) ∧
      d'.pickerView.highlighted 1 = some (some (toString x.month))

variable {today : Date} {d : STPickerDate}

/-- The picker has its columns when it is asked for them. -/
theorem loadIfNeeded_columns {n : ℕ} (h : Columns n d) (today : Date) :
    ∃ d', loadIfNeeded today d = some d' ∧ HasColumns n d' := by
  unfold loadIfNeeded
  split_ifs with hl
  · exact ⟨d, rfl, h.hasColumns hl⟩
  · exact h.reload today

/-- **Without a day column `selectedOk` raises**, and nothing is delivered. -/
theorem selectedOk_two (h : Columns 2 d) (today : Date) :
    (loadIfNeeded today d).bind STPickerDate.selectedOk = none := by
  obtain ⟨d', hd, h'⟩ := loadIfNeeded_columns h today
  rw [hd, Option.bind_some, STPickerDate.selectedOk, h'.reloadData_none]
  rfl

theorem displayed_lt {n row component : ℕ} (h : Columns n d) (hd : Displays d row component) :
    HasColumns n d ∧ component < n := by
  obtain ⟨rows, hrows, -⟩ := hd
  unfold UIPickerView.numberOfRowsInComponent at hrows
  obtain ⟨c, hc, -⟩ := Option.map_eq_some_iff.1 hrows
  obtain ⟨hlt, -⟩ := List.getElem?_eq_some_iff.1 hc
  have hcols := h.hasColumns (List.ne_nil_of_length_pos (by omega))
  rw [hcols.length] at hlt
  exact ⟨hcols, hlt⟩

/-- A scroll to a row that is displayed, and to one that is not. -/
theorem step_scroll (today : Date) (d : STPickerDate) (row component : ℕ) :
    (Displays d row component →
      step today d (.scroll row component) = DatePicker.scroll today row component d) ∧
    (¬ Displays d row component → step today d (.scroll row component) = some d) := by
  constructor
  · rintro ⟨rows, hrows, hlt⟩
    simp only [step, hrows, if_pos hlt]
  · intro hnot
    simp only [step]
    split
    · rfl
    · rename_i rows hrows
      rw [if_neg fun hlt => hnot ⟨rows, hrows, hlt⟩]

/-- **With three columns every event goes through.** -/
theorem step_three (h : Columns 3 d) (a : Event) :
    ∃ t, step today d a = some t ∧ Columns 3 t := by
  cases a with
  | setBeginTime time => exact ⟨_, rfl, h.setBeginTime today time⟩
  | selectYear year month day =>
    obtain ⟨d₁, h₁, hd⟩ := h.selectYear today (by omega) ⟨year, month, day⟩
    obtain ⟨d₂, hd₂, h₂⟩ := h₁.selectRow d₁.thdIndex.toNat 2 (by omega)
    exact ⟨d₂, hd.trans hd₂, h₂.columns⟩
  | setSelectLastOne =>
    obtain ⟨d', hd, h'⟩ := h.setSelectLastOne today
    exact ⟨d', hd, h'.columns⟩
  | «show» =>
    obtain ⟨d', hd, h'⟩ := h.reload today
    exact ⟨d', hd, h'.columns⟩
  | scroll row component =>
    by_cases hdisp : Displays d row component
    · obtain ⟨hcols, hlt⟩ := displayed_lt h hdisp
      obtain ⟨d', hd, h'⟩ := hcols.scroll today row hlt
      exact ⟨d', ((step_scroll today d row component).1 hdisp).trans hd, h'.columns⟩
    · exact ⟨d, (step_scroll today d row component).2 hdisp, h⟩
  | selectedOk =>
    obtain ⟨d₁, hd₁, h₁⟩ := loadIfNeeded_columns h today
    obtain ⟨d', hd, h'⟩ := h₁.reloadData
    refine ⟨d', ?_, h'.columns⟩
    simp only [step, hd₁, STPickerDate.selectedOk, hd, Option.bind_eq_bind, Option.bind_some,
      Option.map_some]

/-- **With two, exactly those that do not go to the day's.** -/
theorem step_two (h : Columns 2 d) (a : Event) :
    (¬ GoesToDay d a → ∃ t, step today d a = some t ∧ Columns 2 t) ∧
      (GoesToDay d a → step today d a = none) := by
  cases a with
  | setBeginTime time => exact ⟨fun _ => ⟨_, rfl, h.setBeginTime today time⟩, False.elim⟩
  | selectYear year month day =>
    obtain ⟨d₁, h₁, hd⟩ := h.selectYear today (by omega) ⟨year, month, day⟩
    exact ⟨fun hnot => absurd trivial hnot,
      fun _ => hd.trans (h₁.selectRow_none _ (by omega))⟩
  | setSelectLastOne =>
    obtain ⟨d', hd, h'⟩ := h.setSelectLastOne today
    exact ⟨fun _ => ⟨d', hd, h'.columns⟩, False.elim⟩
  | «show» =>
    obtain ⟨d', hd, h'⟩ := h.reload today
    exact ⟨fun _ => ⟨d', hd, h'.columns⟩, False.elim⟩
  | scroll row component =>
    obtain ⟨hdisp, hnot⟩ := step_scroll today d row component
    exact ⟨fun hn => ⟨d, hnot hn, h⟩,
      fun hg => (hdisp hg).trans ((displayed_lt h hg).1.scroll_none row component)⟩
  | selectedOk =>
    refine ⟨fun hnot => absurd trivial hnot, fun _ => ?_⟩
    have hnone := congrArg (Option.map Prod.fst) (selectedOk_two h today)
    rw [Option.map_bind] at hnone
    exact hnone

/-- **No operation of a run goes to a column that the picker does not have, exactly when the day is
shown, or no event goes to the day's column**: no date is selected, no wheel turned and no date
delivered. -/
theorem columns_in_range_iff (today : Date) (hiddenDay : Bool) (events : List Event) :
    (∀ q ∈ visited (step today) (start today hiddenDay) events,
      ∃ t, step today q.1 q.2 = some t ∧
        (hiddenDay = true → q.2 = .selectedOk → DeliversHighlighted today q.1)) ↔
      hiddenDay = false ∨
        ∀ q ∈ visited (step today) (start today hiddenDay) events, ¬ GoesToDay q.1 q.2 := by
  cases hiddenDay with
  | false =>
    have hstart : Columns 3 (start today false) := ⟨rfl, fun hl => absurd rfl hl⟩
    refine iff_of_true ?_ (Or.inl rfl)
    refine forall_visited_of_step (I := Columns 3) (P := fun s a _ =>
      false = true → a = .selectedOk → DeliversHighlighted today s)
      (fun s a hs => ?_) events _ hstart
    obtain ⟨t, ht, h'⟩ := step_three hs a
    exact ⟨t, ht, h', fun hf => by cases hf⟩
  | true =>
    have hstart : Columns 2 (start today true) := ⟨rfl, fun hl => absurd rfl hl⟩
    rw [or_iff_right (by decide)]
    refine forall_visited_iff_of (I := Columns 2) (P := fun s a _ =>
      true = true → a = .selectedOk → DeliversHighlighted today s)
      (C := fun s a => ¬ GoesToDay s a) (fun s a hs hnot => ?_) (fun s a t hs ht _ hgoes => ?_)
      events _ hstart
    · obtain ⟨t, ht, h'⟩ := (step_two hs a).1 hnot
      exact ⟨t, ht, h', fun _ _ d' x hd => by rw [selectedOk_two hs] at hd; cases hd⟩
    · rw [(step_two hs a).2 hgoes] at ht
      cases ht

/-- The three of them, of a picker without its day column, and `selectedOk` before it is shown. -/
theorem day_column_raises :
    (exec (step ⟨2020, 3, 5⟩) (start ⟨2020, 3, 5⟩ true)
        [.setBeginTime "20180909".toList, .show, .scroll 1 0]).isNone = true ∧
      (exec (step ⟨2020, 3, 5⟩) (start ⟨2020, 3, 5⟩ true)
        [.setBeginTime "20180909".toList, .show, .selectedOk]).isNone = true ∧
      (exec (step ⟨2020, 3, 5⟩) (start ⟨2020, 3, 5⟩ true)
        [.setBeginTime "20180909".toList, .selectYear 2019 7 1]).isNone = true ∧
      (exec (step ⟨2020, 3, 5⟩) (start ⟨2020, 3, 5⟩ true) [.selectedOk]).isNone = true := by
  decide +kernel

end DateColumns

end RCSdk
