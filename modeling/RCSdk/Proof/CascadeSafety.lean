import RCSdk.Lib.Run
import RCSdk.Proof.Cascade

/-!
# When the cascading picker raises

Some of the callbacks guard against a missing or empty list and some do not, and the indices
outlive a change of the data source. `Safe` says, event by event, which indices have to be in
bounds, and that there is a second column to ask for.

* `safe_iff`: a sequence of events raises nothing exactly when every event is safe in the state
  it comes in.
* `one_level_raises`: with one level, turning its only column raises.
-/

namespace RCSdk

open Trans Traverse

namespace STRCCommonPickerView

/-- The row is displayed in the column. -/
def Displayed (d : STRCCommonPickerView) (row component : ℕ) : Prop :=
  ∃ rows, d.pickerView.numberOfRowsInComponent component = some rows ∧ row < rows

/-- **The condition on an event.** -/
def Safe (d : STRCCommonPickerView) : Event → Prop
  | .setupData data =>
    -- the indices are those of the data source before
    (data.second.isSome → data.first ≠ [] → InBounds (some data.first) d.firIndex) ∧
      (data.third.isSome → InBounds (some data.first) d.firIndex ∧
        InBounds (objectForKey data.second (objectAtIndex (some data.first) d.firIndex).join)
          d.secIndex)
  | .scroll row 0 => d.Displayed row 0 → 1 < d.componentNum ∧
      if d.firIndex = row then
        ∀ sec, d.pickerView.selectedRowInComponent 1 = some sec → InBounds (d.secondArr row) sec
      else InBounds (d.secondArr row) 0
  | .scroll row 1 => d.Displayed row 1 → InBounds d.firstArr d.firIndex ∧
      InBounds (d.secondArr d.firIndex) row
  | .scroll row 2 => d.Displayed row 2 → InBounds d.firstArr d.firIndex ∧
      ∀ sec, d.pickerView.selectedRowInComponent 1 = some sec →
        InBounds (d.secondArr d.firIndex) sec
  | .scroll _ _ => True
  | .selectFirIndex year month _ => count d.firstArr ≠ 0 →
      InBounds d.firstArr year ∧ InBounds (d.secondArr year) month
  | .selectedOk => count d.firstArr ≠ 0 → InBounds d.firstArr d.firIndex ∧
      (1 < d.componentNum → HasIndex (d.secondArr d.firIndex) d.secIndex) ∧
      (2 < d.componentNum → HasIndex (d.thirdArr d.firIndex d.secIndex) d.thdIndex)

/-- What holds in every run: the picker has loaded its columns from this data source. -/
structure Loaded (d : STRCCommonPickerView) : Prop where
  length : d.pickerView.components = [] ∧ d.firstArr = none ∨ d.firstArr.isSome ∧
    d.pickerView.components.length = d.componentNum ∧ 0 < d.componentNum ∧ d.componentNum ≤ 3
  first : ∀ c : PickerComponent, d.pickerView.components[0]? = some c →
    c.titles.length = count d.firstArr
  empty : ∀ (i : ℕ) (c : PickerComponent), d.pickerView.components[i]? = some c →
    c.titles ≠ [] → count d.firstArr ≠ 0

variable {d d' : STRCCommonPickerView}

/-! ## Setting the data source -/

theorem reloadPickerView_isSome_iff : d.reloadPickerView.isSome ↔
    ∀ i < d.componentNum, (d.numberOfRowsInComponent i).isSome := by
  have hall : ((List.range d.componentNum).mapM fun c =>
      d.dataSource.load c ((d.pickerView.selectedRowInComponent c).getD 0)).isSome ↔
      ∀ i < d.componentNum, (d.numberOfRowsInComponent i).isSome := by
    rw [mapM_isSome_iff]
    simp only [List.mem_range, load_isSome_iff]
  rw [← hall]
  unfold reloadPickerView UIPickerView.reloadAllComponents
  change (Option.bind (Option.bind ((List.range d.componentNum).mapM fun c =>
    d.dataSource.load c ((d.pickerView.selectedRowInComponent c).getD 0)) _) _).isSome ↔ _
  cases (List.range d.componentNum).mapM fun c =>
    d.dataSource.load c ((d.pickerView.selectedRowInComponent c).getD 0) <;> simp

/-- What a reload of all columns leaves. -/
theorem reloadPickerView_spec (h : d.reloadPickerView = some d') :
    ∃ cs : List PickerComponent, d' = d.withComponents cs ∧ cs.length = d.componentNum ∧
      ∀ (i : ℕ) (c : PickerComponent), cs[i]? = some c →
        d.numberOfRowsInComponent i = some c.titles.length ∧
        c.selectedRow =
          min ((d.pickerView.selectedRowInComponent i).getD 0) (c.titles.length - 1) := by
  simp only [reloadPickerView, UIPickerView.reloadAllComponents, Option.bind_eq_bind,
    Option.bind_eq_some_iff, Option.some.injEq] at h
  obtain ⟨p, ⟨cs, hcs, rfl⟩, rfl⟩ := h
  have hlen := length_of_mapM hcs
  rw [List.length_range] at hlen
  refine ⟨cs, rfl, hlen, fun i c hi => ?_⟩
  obtain ⟨j, hj, hload⟩ := getElem?_of_mapM hcs hi
  obtain ⟨hlt, rfl⟩ := List.getElem?_eq_some_iff.1 hj
  rw [List.getElem_range] at hload
  exact load_spec hload

/-- **The new data source is loaded with the indices of the old.** -/
theorem setupData_isSome_iff (data : PickerData) (d : STRCCommonPickerView) :
    (d.setupData data).reloadPickerView.isSome ↔ Safe d (.setupData data) := by
  have hcount : count (d.setupData data).firstArr ≠ 0 ↔ data.first ≠ [] := by
    simp [setupData, count]
  have h0 : ((d.setupData data).numberOfRowsInComponent 0).isSome := rfl
  have h1 := rows_one_isSome_iff (d := d.setupData data)
  have h2 := rows_two_isSome_iff (d := d.setupData data)
  rw [hcount] at h1
  rw [reloadPickerView_isSome_iff]
  unfold Safe
  have hn : (d.setupData data).componentNum =
      if data.third.isSome then 3 else if data.second.isSome then 2 else 1 := rfl
  by_cases h3 : data.third.isSome
  · rw [hn, if_pos h3]
    constructor
    · intro h
      exact ⟨fun _ => h1.1 (h 1 (by omega)), fun _ => h2.1 (h 2 (by omega))⟩
    · rintro ⟨-, hs⟩ i hi
      obtain rfl | rfl | rfl : i = 0 ∨ i = 1 ∨ i = 2 := by omega
      · exact h0
      · exact h1.2 fun _ => (hs h3).1
      · exact h2.2 (hs h3)
  · rw [hn, if_neg h3]
    by_cases h2' : data.second.isSome
    · rw [if_pos h2']
      constructor
      · intro h
        exact ⟨fun _ => h1.1 (h 1 (by omega)), fun hf => absurd hf h3⟩
      · rintro ⟨hs, -⟩ i hi
        obtain rfl | rfl : i = 0 ∨ i = 1 := by omega
        · exact h0
        · exact h1.2 (hs h2')
    · rw [if_neg h2']
      refine iff_of_true (fun i hi => ?_) ⟨fun hf => absurd hf h2', fun hf => absurd hf h3⟩
      obtain rfl : i = 0 := by omega
      exact h0

/-! ## Turning a column -/

/-- The columns with this one turned to a row. -/
def turned (d : STRCCommonPickerView) (row component : ℕ) : STRCCommonPickerView :=
  d.withComponents
    (d.pickerView.components.modify component fun c => { c with selectedRow := row })

theorem selectRow_eq {row component : ℕ} (hc : component < d.pickerView.components.length) :
    d.selectRow row component = some (d.turned row component) := by
  have h0 : (d.selectRow row component).isSome := selectRow_isSome_iff.2 hc
  obtain ⟨d₁, h1⟩ := Option.isSome_iff_exists.1 h0
  rw [h1, selectRow_spec h1]
  rfl

theorem scroll_eq {row component : ℕ} (hc : component < d.pickerView.components.length) :
    d.scroll row component = (d.turned row component).didSelectRow row component := by
  unfold scroll
  rw [selectRow_eq hc]
  rfl

@[simp] theorem turned_length (row component : ℕ) :
    (d.turned row component).pickerView.components.length = d.pickerView.components.length := by
  simp [turned]

/-- The row that was turned to is selected. -/
theorem turned_selectedRow_self (row : ℕ) {component : ℕ}
    (hc : component < d.pickerView.components.length) :
    (d.turned row component).pickerView.selectedRowInComponent component = some row := by
  unfold turned UIPickerView.selectedRowInComponent
  rw [components_withComponents, List.getElem?_modify, List.getElem?_eq_getElem hc]
  simp

/-- The other columns are where they were. -/
theorem turned_selectedRow_of_ne (row : ℕ) {component i : ℕ} (hi : i ≠ component) :
    (d.turned row component).pickerView.selectedRowInComponent i =
      d.pickerView.selectedRowInComponent i := by
  unfold turned UIPickerView.selectedRowInComponent
  rw [components_withComponents, List.getElem?_modify]
  simp [Ne.symm hi]

theorem Loaded.displayed (h : Loaded d) {row component : ℕ} (hrow : d.Displayed row component) :
    component < d.componentNum ∧ d.pickerView.components.length = d.componentNum ∧
      d.componentNum ≤ 3 ∧ count d.firstArr ≠ 0 := by
  obtain ⟨rows, hn, hlt⟩ := hrow
  unfold UIPickerView.numberOfRowsInComponent at hn
  obtain ⟨c, hc, rfl⟩ := Option.map_eq_some_iff.1 hn
  have hlen := (List.getElem?_eq_some_iff.1 hc).1
  have hne : c.titles ≠ [] := List.ne_nil_of_length_pos (by omega)
  rcases h.length with ⟨hnil, -⟩ | ⟨-, hl, -, h3⟩
  · rw [hnil] at hlen
    exact absurd hlen (Nat.not_lt_zero _)
  · exact ⟨by omega, hl, h3, h.empty component c hc hne⟩

/-- The columns from one on. -/
theorem mem_columns {k n i : ℕ} : i ∈ List.range' k (n - k) ↔ k ≤ i ∧ i < n := by
  rw [List.mem_range'_1]
  omega

/-- Turning a wheel leaves all the columns there are. -/
theorem mem_turned_columns (row component : ℕ) {k i : ℕ}
    (hlen : d.pickerView.components.length = d.componentNum)
    (hi : i ∈ List.range' k (d.componentNum - k)) :
    i < (d.turned row component).pickerView.components.length := by
  rw [turned_length, hlen]
  exact (mem_columns.1 hi).2

/-- **Columns started again and then read back.** -/
theorem reload_read_isSome_iff (d : STRCCommonPickerView) {is : List ℕ}
    (hc : ∀ i ∈ is, i < d.pickerView.components.length) (hne : count d.firstArr ≠ 0) :
    ((d.reloadColumns is).bind reloadData).isSome ↔
      (∀ i ∈ is, (d.numberOfRowsInComponent i).isSome) ∧ InBounds d.firstArr d.firIndex ∧
        ∃ sec : ℕ, (if 1 ∈ is then some 0 else d.pickerView.selectedRowInComponent 1) = some sec ∧
          InBounds (d.secondArr d.firIndex) sec := by
  rw [bind_isSome_iff, ← reloadColumns_isSome_iff hc]
  -- what is read back of the second column
  have hread : ∀ e, d.reloadColumns is = some e → (e.reloadData.isSome ↔
      InBounds d.firstArr d.firIndex ∧
        ∃ sec : ℕ, (if 1 ∈ is then some 0 else d.pickerView.selectedRowInComponent 1) = some sec ∧
          InBounds (d.secondArr d.firIndex) sec) := by
    intro e he
    obtain ⟨cs, rfl, -, hother, hthose⟩ := reloadColumns_spec hc he
    have hsel : (d.withComponents cs).pickerView.selectedRowInComponent 1 =
        if 1 ∈ is then some 0 else d.pickerView.selectedRowInComponent 1 := by
      unfold UIPickerView.selectedRowInComponent
      rw [components_withComponents]
      split_ifs with h1
      · obtain ⟨c, hc1, hsel, -⟩ := hthose 1 h1
        rw [hc1, Option.map_some, hsel]
      · rw [hother 1 h1]
    rw [reloadData_isSome_iff, hsel]
    exact ⟨fun h => h hne, fun h _ => h⟩
  constructor
  · rintro ⟨e, he, hr⟩
    exact ⟨Option.isSome_iff_exists.2 ⟨e, he⟩, (hread e he).1 hr⟩
  · rintro ⟨he, hr⟩
    obtain ⟨e, he⟩ := Option.isSome_iff_exists.1 he
    exact ⟨e, he, (hread e he).2 hr⟩

/-- The first column turned to the row it had: the columns are only read back. -/
theorem didSelect_first_same_isSome_iff {row : ℕ} (hne : count d.firstArr ≠ 0)
    (hfirst : InBounds d.firstArr row) (hfir : d.firIndex = row) :
    ((d.turned row 0).didSelectRow row 0).isSome ↔ 1 < d.pickerView.components.length ∧
      ∀ sec, d.pickerView.selectedRowInComponent 1 = some sec → InBounds (d.secondArr row) sec := by
  have hsel : (d.turned row 0).pickerView.selectedRowInComponent 1 =
      d.pickerView.selectedRowInComponent 1 := turned_selectedRow_of_ne row Nat.one_ne_zero
  have hfst : (d.turned row 0).firIndex = row := hfir
  rw [didSelectRow_first_same hfst, reload_read_isSome_iff (d.turned row 0) (by simp) hne, hsel,
    hfst]
  simp only [List.not_mem_nil, false_imp_iff, implies_true, true_and, if_false]
  constructor
  · rintro ⟨-, sec, hsec, hin⟩
    have hlt := selectedRow_isSome_iff.1 (Option.isSome_iff_exists.2 ⟨sec, hsec⟩)
    refine ⟨hlt, fun sec' hsec' => ?_⟩
    obtain rfl := Option.some.inj (hsec.symm.trans hsec')
    exact hin
  · rintro ⟨hlt, hin⟩
    obtain ⟨sec, hsec⟩ := Option.isSome_iff_exists.1 (selectedRow_isSome_iff.2 hlt)
    exact ⟨hfirst, sec, hsec, hin sec hsec⟩

/-- The first column turned to another row: the columns behind it start again. -/
theorem didSelect_first_isSome_iff {row : ℕ}
    (hlen : d.pickerView.components.length = d.componentNum) (h3 : d.componentNum ≤ 3)
    (hne : count d.firstArr ≠ 0) (hfirst : InBounds d.firstArr row)
    (hfir : d.firIndex ≠ row) :
    ((d.turned row 0).didSelectRow row 0).isSome ↔
      1 < d.componentNum ∧ InBounds (d.secondArr row) 0 := by
  set e : STRCCommonPickerView := { d.turned row 0 with firIndex := row, secIndex := 0 } with he
  have htake : (d.turned row 0).didSelectRow row 0 =
      (e.reloadColumns (List.range' 1 (d.componentNum - 1))).bind reloadData :=
    didSelectRow_first hfir
  have hcols : ∀ i ∈ List.range' 1 (d.componentNum - 1), i < e.pickerView.components.length :=
    fun i hi => mem_turned_columns row 0 hlen hi
  have h1 : (1 ∈ List.range' 1 (d.componentNum - 1)) ↔ 1 < d.componentNum :=
    mem_columns.trans (and_iff_right (Nat.le_refl 1))
  have hsel : e.pickerView.selectedRowInComponent 1 = d.pickerView.selectedRowInComponent 1 :=
    turned_selectedRow_of_ne row Nat.one_ne_zero
  rw [htake, reload_read_isSome_iff e hcols hne, hsel]
  constructor
  · rintro ⟨-, -, sec, hsec, hin⟩
    have hlt : 1 < d.componentNum := by
      by_contra hle
      rw [if_neg (by rwa [h1])] at hsec
      have := selectedRow_isSome_iff.1 (Option.isSome_iff_exists.2 ⟨sec, hsec⟩)
      omega
    rw [if_pos (h1.2 hlt)] at hsec
    obtain rfl := Option.some.inj hsec
    exact ⟨hlt, hin⟩
  · rintro ⟨hlt, hin⟩
    refine ⟨fun i hi => ?_, hfirst, 0, if_pos (h1.2 hlt), hin⟩
    rw [mem_columns] at hi
    obtain rfl | rfl : i = 1 ∨ i = 2 := by omega
    · exact rows_one_isSome_iff.2 fun _ => hfirst
    · exact rows_two_isSome_iff.2 ⟨hfirst, hin⟩

/-- **A new row of the first column.** -/
theorem scroll_first_isSome_iff (h : Loaded d) {row : ℕ} (hrow : d.Displayed row 0) :
    (d.scroll row 0).isSome ↔ Safe d (.scroll row 0) := by
  obtain ⟨hc, hlen, h3, hne⟩ := h.displayed hrow
  have hfirst : InBounds d.firstArr row := by
    obtain ⟨rows, hn, hlt⟩ := hrow
    obtain ⟨c, hc, rfl⟩ := Option.map_eq_some_iff.1 hn
    rw [h.first c hc] at hlt
    exact (inBounds_of_lt_count hlt).inBounds
  have hsafe : Safe d (.scroll row 0) ↔ _ := ⟨fun h => h hrow, fun h _ => h⟩
  rw [scroll_eq (by omega), hsafe]
  by_cases hfir : d.firIndex = row
  · rw [if_pos hfir, ← hlen]
    exact didSelect_first_same_isSome_iff hne hfirst hfir
  · rw [if_neg hfir]
    exact didSelect_first_isSome_iff hlen h3 hne hfirst hfir

/-- **A new row of the second column.** -/
theorem scroll_second_isSome_iff (h : Loaded d) {row : ℕ} (hrow : d.Displayed row 1) :
    (d.scroll row 1).isSome ↔ Safe d (.scroll row 1) := by
  obtain ⟨hc, hlen, h3, hne⟩ := h.displayed hrow
  have hsafe : Safe d (.scroll row 1) ↔ _ := ⟨fun h => h hrow, fun h _ => h⟩
  rw [scroll_eq (by omega), hsafe]
  have hsel : (d.turned row 1).pickerView.selectedRowInComponent 1 = some row :=
    turned_selectedRow_self row (by omega)
  by_cases hmoved : d.secIndex = row
  · have hsame : (d.turned row 1).secIndex = row := hmoved
    rw [didSelectRow_second_same hsame, reload_read_isSome_iff (d.turned row 1) (by simp) hne, hsel]
    simp only [List.not_mem_nil, false_imp_iff, implies_true, true_and, if_false,
      Option.some.injEq, exists_eq_left']
    rfl
  · set e : STRCCommonPickerView := { d.turned row 1 with secIndex := row } with he
    have htake : (d.turned row 1).didSelectRow row 1 =
        (e.reloadColumns (List.range' 2 (d.componentNum - 2))).bind reloadData :=
      didSelectRow_second hmoved
    have hcols : ∀ i ∈ List.range' 2 (d.componentNum - 2), i < e.pickerView.components.length :=
      fun i hi => mem_turned_columns row 1 hlen hi
    have h1 : ¬ (1 ∈ List.range' 2 (d.componentNum - 2)) := by
      rw [mem_columns]
      omega
    have hsel' : e.pickerView.selectedRowInComponent 1 = some row := hsel
    rw [htake, reload_read_isSome_iff e hcols hne, hsel', if_neg h1]
    simp only [Option.some.injEq, exists_eq_left']
    constructor
    · rintro ⟨-, hin⟩
      exact hin
    · rintro ⟨hfir, hin⟩
      refine ⟨fun i hi => ?_, hfir, hin⟩
      rw [mem_columns] at hi
      obtain rfl : i = 2 := by omega
      exact rows_two_isSome_iff.2 ⟨hfir, hin⟩

/-- **A new row of the third column.** -/
theorem scroll_third_isSome_iff (h : Loaded d) {row : ℕ} (hrow : d.Displayed row 2) :
    (d.scroll row 2).isSome ↔ Safe d (.scroll row 2) := by
  obtain ⟨hc, hlen, h3, hne⟩ := h.displayed hrow
  have hsafe : Safe d (.scroll row 2) ↔ _ := ⟨fun h => h hrow, fun h _ => h⟩
  rw [scroll_eq (by omega), hsafe]
  set e : STRCCommonPickerView := { d.turned row 2 with thdIndex := row } with he
  have hsel : e.pickerView.selectedRowInComponent 1 = d.pickerView.selectedRowInComponent 1 :=
    turned_selectedRow_of_ne (d := d) row (by omega)
  obtain ⟨sec, hsec⟩ := Option.isSome_iff_exists.1
    (selectedRow_isSome_iff.2 (show 1 < d.pickerView.components.length by omega))
  have htake : (d.turned row 2).didSelectRow row 2 = (e.reloadColumns []).bind reloadData :=
    didSelectRow_third row
  rw [htake, reload_read_isSome_iff e (by simp) hne, hsel, hsec]
  simp only [List.not_mem_nil, false_imp_iff, implies_true, true_and, if_false,
    Option.some.injEq, exists_eq_left', forall_eq']
  rfl

/-! ## Selecting and confirming -/

/-- What the picker of a data source has. -/
theorem Loaded.of_count (h : Loaded d) (h0 : count d.firstArr ≠ 0) :
    d.firstArr.isSome ∧ d.pickerView.components.length = d.componentNum ∧ 0 < d.componentNum ∧
      d.componentNum ≤ 3 := by
  rcases h.length with ⟨-, hnone⟩ | hs
  · rw [hnone] at h0
    exact absurd rfl h0
  · exact hs

/-- Rows can be selected in all columns there are. -/
theorem selectRows_isSome (rows : ℕ → ℕ) {n : ℕ} (hn : n ≤ d.pickerView.components.length) :
    ∃ d', (List.range n).foldlM (fun d i => selectRow (rows i) i d) d = some d' ∧
      d'.pickerView.components.length = d.pickerView.components.length := by
  induction n with
  | zero => exact ⟨d, rfl, rfl⟩
  | succ n ih =>
    obtain ⟨d₁, h1, hlen⟩ := ih (by omega)
    have hsel : (d₁.selectRow (rows n) n).isSome := selectRow_isSome_iff.2 (by omega)
    obtain ⟨d₂, h2⟩ := Option.isSome_iff_exists.1 hsel
    refine ⟨d₂, ?_, ?_⟩
    · rw [List.range_succ, List.foldlM_append, h1]
      simp [h2]
    · rw [selectRow_spec h2, components_withComponents, List.length_modify, hlen]

/-- **A selection by the program.** -/
theorem selectFirIndex_isSome_iff (h : Loaded d) (year month day : ℕ) :
    (d.selectFirIndex year month day).isSome ↔ Safe d (.selectFirIndex year month day) := by
  change _ ↔ (count d.firstArr ≠ 0 →
    InBounds d.firstArr year ∧ InBounds (d.secondArr year) month)
  unfold selectFirIndex
  rw [← objectAtIndex_isSome_iff, ← objectAtIndex_isSome_iff, secondArr]
  split_ifs with h0
  · simp [h0]
  · obtain ⟨-, hlen, -, -⟩ := h.of_count h0
    dsimp only
    cases hkey : objectAtIndex d.firstArr year with
    | none => simp [h0]
    | some key =>
      simp only [Option.bind_eq_bind, Option.bind_some, Option.join_some]
      cases hkey' : objectAtIndex (objectForKey d.secondDict key) month with
      | none => simp [h0]
      | some key' =>
        set e : STRCCommonPickerView :=
          { d with firIndex := year, secIndex := month, firKey := key, secKey := key' }
        obtain ⟨d', hd', -⟩ := selectRows_isSome (d := e) (fun i => [year, month, day].getD i 0)
          (Nat.le_of_eq hlen.symm)
        simp only [Option.bind_some, Option.isSome_some, and_self, implies_true, iff_true]
        exact Option.isSome_iff_exists.2 ⟨d', hd'⟩

/-- **The confirmation.** -/
theorem selectedOk_isSome_iff (h : Loaded d) : d.selectedOk.isSome ↔ Safe d .selectedOk := by
  change _ ↔ (count d.firstArr ≠ 0 → InBounds d.firstArr d.firIndex ∧
    (1 < d.componentNum → HasIndex (d.secondArr d.firIndex) d.secIndex) ∧
    (2 < d.componentNum → HasIndex (d.thirdArr d.firIndex d.secIndex) d.thdIndex))
  unfold selectedOk
  by_cases h0 : count d.firstArr = 0
  · simp [h0]
  obtain ⟨hs, -, hpos, -⟩ := h.of_count h0
  obtain ⟨texts, ht⟩ := Option.isSome_iff_exists.1 hs
  have hfir : InBounds d.firstArr d.firIndex ↔ HasIndex d.firstArr d.firIndex := by
    refine ⟨fun hin => ⟨texts, ht, hin texts ht⟩, HasIndex.inBounds⟩
  rw [if_neg h0, hfir, ← objectAtIndex_join_isSome_iff, ← objectAtIndex_join_isSome_iff,
    ← objectAtIndex_join_isSome_iff, thirdArr, secondArr, if_pos hpos]
  cases (objectAtIndex d.firstArr d.firIndex).join with
  | none => simp [h0]
  | some key =>
    by_cases h1 : 1 < d.componentNum
    · simp only [Option.bind_eq_bind, Option.bind_some, gt_iff_lt, h1, if_true]
      cases (objectAtIndex (objectForKey d.secondDict key) d.secIndex).join with
      | none => simp [h0]
      | some key' =>
        by_cases h2 : 2 < d.componentNum
        · simp only [Option.bind_some, h2, if_true]
          cases (objectAtIndex (objectForKey d.thirdDict (pairKey key key')) d.thdIndex).join <;>
            simp [h0]
        · simp [h2]
    · have h2 : ¬ 2 < d.componentNum := by omega
      simp [h1, h2]

/-! ## Runs -/

/-- Rows can only be counted where there is a first level. -/
theorem count_ne_zero_of_rows {i rows : ℕ} (hs : d.firstArr.isSome)
    (h : d.numberOfRowsInComponent i = some rows) (hpos : 0 < rows) : count d.firstArr ≠ 0 := by
  intro h0
  match i with
  | 0 =>
    obtain rfl := Option.some.inj h
    omega
  | 1 =>
    unfold numberOfRowsInComponent at h
    dsimp only at h
    rw [if_pos h0] at h
    obtain rfl := Option.some.inj h
    omega
  | 2 =>
    obtain ⟨hin, -⟩ := rows_two_isSome_iff.1 (Option.isSome_iff_exists.2 ⟨rows, h⟩)
    obtain ⟨texts, ht⟩ := Option.isSome_iff_exists.1 hs
    have := hin texts ht
    rw [ht] at h0
    have hlen : texts.length = 0 := h0
    omega
  | n + 3 =>
    obtain rfl := Option.some.inj h
    omega

theorem Loaded.congr (h : Loaded d) (hf : d'.firstArr = d.firstArr)
    (hn : d'.componentNum = d.componentNum) (hp : d'.pickerView = d.pickerView) : Loaded d' := by
  obtain ⟨h1, h2, h3⟩ := h
  refine ⟨?_, ?_, ?_⟩
  · rw [hp, hf, hn]; exact h1
  · rw [hp, hf]; exact h2
  · rw [hp, hf]; exact h3

theorem Loaded.turned (h : Loaded d) (row component : ℕ) : Loaded (d.turned row component) := by
  have htitles : ∀ (i : ℕ) (c : PickerComponent),
      (d.turned row component).pickerView.components[i]? = some c →
      ∃ c₀ : PickerComponent, d.pickerView.components[i]? = some c₀ ∧ c₀.titles = c.titles := by
    intro i c hc
    unfold STRCCommonPickerView.turned at hc
    rw [components_withComponents, List.getElem?_modify] at hc
    obtain ⟨c₀, hc₀, rfl⟩ := Option.map_eq_some_iff.1 hc
    refine ⟨c₀, hc₀, ?_⟩
    split_ifs <;> rfl
  refine ⟨?_, fun c hc => ?_, fun i c hc hne => ?_⟩
  · rcases h.length with ⟨hnil, hnone⟩ | ⟨hs, hl, h0, h3⟩
    · refine Or.inl ⟨List.eq_nil_of_length_eq_zero ?_, hnone⟩
      rw [turned_length, hnil]
      rfl
    · exact Or.inr ⟨hs, by rw [turned_length]; exact hl, h0, h3⟩
  · obtain ⟨c₀, hc₀, ht⟩ := htitles 0 c hc
    rw [← ht]
    exact h.first c₀ hc₀
  · obtain ⟨c₀, hc₀, ht⟩ := htitles i c hc
    exact h.empty i c₀ hc₀ (ht ▸ hne)

theorem Loaded.selectRow (h : Loaded d) {row component : ℕ}
    (hs : d.selectRow row component = some d') : Loaded d' := by
  rw [selectRow_spec hs]
  exact h.turned row component

theorem Loaded.reloadColumn (h : Loaded d) {component : ℕ}
    (hs : d.reloadColumn component = some d') : Loaded d' := by
  obtain ⟨c, hrows, -, rfl⟩ := reloadColumn_spec hs
  refine ⟨?_, fun c' hc' => ?_, fun i c' hc' hne => ?_⟩
  · rcases h.length with ⟨hnil, hnone⟩ | ⟨hs, hl, h0, h3⟩
    · refine Or.inl ⟨?_, hnone⟩
      rw [components_withComponents, hnil]
      rfl
    · refine Or.inr ⟨hs, ?_, h0, h3⟩
      rw [components_withComponents, List.length_set]
      exact hl
  · rw [components_withComponents, List.getElem?_set] at hc'
    split_ifs at hc' with hi
    · -- the first column itself
      obtain rfl := Option.some.inj hc'
      subst hi
      exact (Option.some.inj hrows).symm
    · exact h.first c' hc'
  · rw [components_withComponents, List.getElem?_set] at hc'
    split_ifs at hc' with hi hlt
    · obtain rfl := Option.some.inj hc'
      rcases h.length with ⟨hnil, -⟩ | ⟨hs, -⟩
      · rw [hnil] at hlt
        exact absurd hlt (Nat.not_lt_zero _)
      · exact count_ne_zero_of_rows hs hrows (List.length_pos_iff.2 hne)
    · exact h.empty i c' hc' hne

theorem Loaded.reloadColumns (h : Loaded d) {is : List ℕ} (hs : d.reloadColumns is = some d') :
    Loaded d' :=
  foldlM_invariant (fun _ _ _ h hs => h.reloadColumn hs) h hs

theorem Loaded.reloadData (h : Loaded d) (hs : d.reloadData = some d') : Loaded d' := by
  by_cases h0 : count d.firstArr = 0
  · unfold STRCCommonPickerView.reloadData at hs
    rw [if_pos h0] at hs
    obtain rfl := Option.some.inj hs
    exact h
  · obtain ⟨fir, sec, firKey, secKey, -, -, rfl⟩ := reloadData_spec hs h0
    exact h.congr rfl rfl rfl

theorem Loaded.takeRow (h : Loaded d) {row component : ℕ}
    (hs : d.takeRow row component = some d') : Loaded d' := by
  match component with
  | 0 =>
    by_cases hfir : d.firIndex = row
    · rw [takeRow_first_same hfir] at hs
      obtain rfl := Option.some.inj hs
      exact h
    · rw [takeRow_first hfir] at hs
      have h' : Loaded { d with firIndex := row, secIndex := 0 } := h.congr rfl rfl rfl
      exact h'.reloadColumns hs
  | 1 =>
    by_cases hsec : d.secIndex = row
    · rw [takeRow_second_same hsec] at hs
      obtain rfl := Option.some.inj hs
      exact h
    · rw [takeRow_second hsec] at hs
      have h' : Loaded { d with secIndex := row } := h.congr rfl rfl rfl
      exact h'.reloadColumns hs
  | 2 =>
    obtain rfl := Option.some.inj hs
    exact h.congr rfl rfl rfl
  | n + 3 =>
    obtain rfl := Option.some.inj hs
    exact h

/-- A data source that has been loaded. -/
theorem loaded_setupData {data : PickerData}
    (hs : (d.setupData data).reloadPickerView = some d') : Loaded d' := by
  obtain ⟨cs, rfl, hlen, hcs⟩ := reloadPickerView_spec hs
  refine ⟨Or.inr ⟨rfl, hlen, ?_⟩, fun c hc => ?_, fun i c hc hne => ?_⟩
  · change 0 < (d.setupData data).componentNum ∧ (d.setupData data).componentNum ≤ 3
    unfold setupData
    dsimp only
    split_ifs <;> omega
  · exact (Option.some.inj (hcs 0 c hc).1).symm
  · exact count_ne_zero_of_rows (d := d.setupData data) rfl (hcs i c hc).1
      (List.length_pos_iff.2 hne)

theorem Loaded.selectFirIndex (h : Loaded d) {year month day : ℕ}
    (hs : d.selectFirIndex year month day = some d') : Loaded d' := by
  unfold STRCCommonPickerView.selectFirIndex at hs
  split_ifs at hs
  · obtain rfl := Option.some.inj hs
    exact h
  · simp only [Option.bind_eq_bind, Option.bind_eq_some_iff] at hs
    obtain ⟨key, -, key', -, hs⟩ := hs
    refine foldlM_invariant (fun _ _ _ h hs => Loaded.selectRow h hs) ?_ hs
    exact h.congr rfl rfl rfl

theorem loaded_step {ev : Event} (h : Loaded d) (hs : d.step ev = some d') : Loaded d' := by
  cases ev with
  | setupData data => exact loaded_setupData hs
  | selectFirIndex year month day => exact h.selectFirIndex hs
  | selectedOk =>
    simp only [step, Option.map_eq_some_iff] at hs
    obtain ⟨-, -, rfl⟩ := hs
    exact h
  | scroll row component =>
    simp only [step] at hs
    split at hs
    · obtain rfl := Option.some.inj hs
      exact h
    · split_ifs at hs
      · simp only [STRCCommonPickerView.scroll, didSelectRow, Option.bind_eq_bind,
          Option.bind_eq_some_iff] at hs
        obtain ⟨d₁, h1, d₂, h2, h3⟩ := hs
        exact ((h.selectRow h1).takeRow h2).reloadData h3
      · obtain rfl := Option.some.inj hs
        exact h

theorem loaded_init : Loaded init := by
  refine ⟨Or.inl ⟨rfl, rfl⟩, ?_, ?_⟩ <;> simp [init, UIPickerView.empty]

/-- A row that is displayed is turned to, and one that is not changes nothing. -/
theorem step_scroll_displayed {row component : ℕ} (hrow : d.Displayed row component) :
    d.step (.scroll row component) = d.scroll row component := by
  obtain ⟨rows, hn, hlt⟩ := hrow
  simp only [step, hn, if_pos hlt]

theorem step_scroll_undisplayed {row component : ℕ} (hrow : ¬ d.Displayed row component) :
    d.step (.scroll row component) = some d := by
  simp only [step]
  split
  · rfl
  · rename_i rows hn
    exact if_neg fun hlt => hrow ⟨rows, hn, hlt⟩

/-- **An event raises nothing exactly when it is safe.** -/
theorem step_isSome_iff (h : Loaded d) (ev : Event) : (d.step ev).isSome ↔ Safe d ev := by
  cases ev with
  | setupData data => exact setupData_isSome_iff data d
  | selectFirIndex year month day => exact selectFirIndex_isSome_iff h year month day
  | selectedOk =>
    rw [← selectedOk_isSome_iff h]
    simp [step]
  | scroll row component =>
    by_cases hrow : d.Displayed row component
    · obtain ⟨hc, -, h3, -⟩ := h.displayed hrow
      rw [step_scroll_displayed hrow]
      match component with
      | 0 => exact scroll_first_isSome_iff h hrow
      | 1 => exact scroll_second_isSome_iff h hrow
      | 2 => exact scroll_third_isSome_iff h hrow
      | n + 3 => omega
    · rw [step_scroll_undisplayed hrow]
      refine iff_of_true rfl ?_
      match component with
      | 0 | 1 | 2 => exact fun hd => absurd hd hrow
      | n + 3 => trivial

/-- **A sequence of events raises nothing exactly when every event is safe where it comes.** -/
theorem safe_iff (evs : List Event) :
    (exec step init evs).isSome ↔ ∀ q ∈ visited step init evs, Safe q.1 q.2 :=
  exec_isSome_iff_of loaded_init (fun _ _ _ => loaded_step) (fun _ ev h => step_isSome_iff h ev) evs

/-- **One level raises.** Turning the only column reads the second, which is not there. -/
theorem one_level_raises :
    exec step init [.setupData ⟨["a", "b"], none, none, fun h => h⟩, .scroll 1 0] = none := by
  decide +kernel

end STRCCommonPickerView

end RCSdk
