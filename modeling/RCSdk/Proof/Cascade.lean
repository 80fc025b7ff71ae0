import RCSdk.Lib.Traverse
import RCSdk.Spec.CommonPickerView

/-!
# The columns of the cascading picker

What each operation of the picker needs not to raise, and what it leaves. The rows of a column are
read off the data source and the indices, never off the picker, so a reload of one column leaves
the rows of the others what they were (`reloadColumns_isSome_iff`, `reloadColumns_spec`).
-/

namespace RCSdk

open Traverse

/-- The array, unless it is `nil`, has this index. -/
def InBounds (array : Option (List String)) (index : ℤ) : Prop :=
  ∀ texts, array = some texts → 0 ≤ index ∧ index < texts.length

/-- The array is there and has this index. -/
def HasIndex (array : Option (List String)) (index : ℤ) : Prop :=
  ∃ texts, array = some texts ∧ 0 ≤ index ∧ index < texts.length

instance (array : Option (List String)) (index : ℤ) : Decidable (HasIndex array index) :=
  decidable_of_iff (array.any fun texts => decide (0 ≤ index ∧ index < texts.length))
    (by cases array <;> simp [HasIndex])

theorem objectAtIndex_isSome_iff {array : Option (List String)} {index : ℤ} :
    (objectAtIndex array index).isSome ↔ InBounds array index := by
  cases array with
  | none => simp [objectAtIndex, InBounds]
  | some texts =>
    unfold objectAtIndex InBounds
    dsimp only
    split_ifs with h
    · simpa using h
    · simpa using h

theorem objectAtIndex_join_isSome_iff {array : Option (List String)} {index : ℤ} :
    (objectAtIndex array index).join.isSome ↔ HasIndex array index := by
  cases array with
  | none => simp [objectAtIndex, HasIndex]
  | some texts =>
    unfold objectAtIndex HasIndex
    dsimp only
    split_ifs with h
    · have hlt : index.toNat < texts.length := by omega
      simpa [List.getElem?_eq_getElem hlt] using h
    · simpa using h

/-- A row counted is in bounds. -/
theorem inBounds_of_lt_count {array : Option (List String)} {row : ℕ} (h : row < count array) :
    HasIndex array row := by
  cases array with
  | none => exact absurd h (by simp [count])
  | some texts =>
    refine ⟨texts, rfl, Int.natCast_nonneg _, ?_⟩
    have : row < texts.length := h
    omega

theorem HasIndex.inBounds {array : Option (List String)} {index : ℤ} (h : HasIndex array index) :
    InBounds array index := by
  obtain ⟨texts, rfl, hi⟩ := h
  rintro _ ht
  obtain rfl := Option.some.inj ht
  exact hi

theorem HasIndex.count_ne_zero {array : Option (List String)} {index : ℤ}
    (h : HasIndex array index) : count array ≠ 0 := by
  obtain ⟨texts, rfl, hpos, hlt⟩ := h
  have hlen : texts.length ≠ 0 := by omega
  exact hlen

/-- The text at an index there is. -/
theorem HasIndex.text {array : Option (List String)} {index : ℤ} (h : HasIndex array index) :
    ∃ texts text, array = some texts ∧ objectAtIndex array index = some (some text) ∧
      text ∈ texts := by
  obtain ⟨texts, rfl, hpos, hlt⟩ := h
  have hi : index.toNat < texts.length := by omega
  refine ⟨texts, texts[index.toNat], rfl, ?_, List.getElem_mem hi⟩
  unfold objectAtIndex
  dsimp only
  rw [if_pos ⟨hpos, hlt⟩, List.getElem?_eq_getElem hi]

theorem hasIndex_zero {array : Option (List String)} {texts : List String}
    (h : array = some texts) (hne : texts ≠ []) : HasIndex array 0 := by
  have hpos := List.length_pos_iff.2 hne
  exact ⟨texts, h, by omega, by omega⟩

namespace STRCCommonPickerView

/-- The second column's array at a row of the first. -/
def secondArr (d : STRCCommonPickerView) (fir : ℤ) : Option (List String) :=
  objectForKey d.secondDict (objectAtIndex d.firstArr fir).join

/-- The third column's array at rows of the first two. -/
def thirdArr (d : STRCCommonPickerView) (fir sec : ℤ) : Option (List String) :=
  objectForKey d.thirdDict
    (pairKey (objectAtIndex d.firstArr fir).join (objectAtIndex (d.secondArr fir) sec).join)

variable {d d' : STRCCommonPickerView}

/-! ## Rows -/

theorem rows_one_isSome_iff : (d.numberOfRowsInComponent 1).isSome ↔
    (count d.firstArr ≠ 0 → InBounds d.firstArr d.firIndex) := by
  rw [← objectAtIndex_isSome_iff]
  unfold numberOfRowsInComponent
  split_ifs with h
  · simp [h]
  · cases objectAtIndex d.firstArr d.firIndex <;> simp [h]

theorem rows_two_isSome_iff : (d.numberOfRowsInComponent 2).isSome ↔
    InBounds d.firstArr d.firIndex ∧ InBounds (d.secondArr d.firIndex) d.secIndex := by
  rw [← objectAtIndex_isSome_iff, ← objectAtIndex_isSome_iff, secondArr]
  unfold numberOfRowsInComponent
  cases h : objectAtIndex d.firstArr d.firIndex with
  | none => simp
  | some key =>
    simp only [Option.bind_eq_bind, Option.bind_some, Option.isSome_some, true_and, Option.join_some]
    cases objectAtIndex (objectForKey d.secondDict key) d.secIndex <;> simp

/-- Every row counted has a view or none, and raises nothing. -/
theorem view_isSome {row component rows : ℕ} (h : d.numberOfRowsInComponent component = some rows)
    (hr : row < rows) : (d.viewForRow row component).isSome := by
  match component with
  | 0 =>
    obtain rfl := Option.some.inj h
    exact objectAtIndex_isSome_iff.2 (inBounds_of_lt_count hr).inBounds
  | 1 =>
    unfold numberOfRowsInComponent at h
    dsimp only at h
    split_ifs at h with h0
    · obtain rfl := Option.some.inj h
      omega
    · simp only [Option.bind_eq_bind, Option.bind_eq_some_iff, Option.some.injEq] at h
      obtain ⟨key, hkey, rfl⟩ := h
      unfold viewForRow
      simp only [hkey, Option.bind_eq_bind, Option.bind_some]
      split_ifs
      · rfl
      · exact objectAtIndex_isSome_iff.2 (inBounds_of_lt_count hr).inBounds
  | 2 =>
    unfold numberOfRowsInComponent at h
    simp only [Option.bind_eq_bind, Option.bind_eq_some_iff, Option.some.injEq] at h
    obtain ⟨key, hkey, key', hkey', rfl⟩ := h
    unfold viewForRow
    simp only [hkey, hkey', Option.bind_eq_bind, Option.bind_some]
    exact objectAtIndex_isSome_iff.2 (inBounds_of_lt_count hr).inBounds
  | n + 3 =>
    obtain rfl := Option.some.inj h
    omega

/-! ## Loading -/

theorem load_isSome_iff {component row : ℕ} :
    (d.dataSource.load component row).isSome ↔ (d.numberOfRowsInComponent component).isSome := by
  unfold UIPickerViewDataSource.load
  cases h : d.numberOfRowsInComponent component with
  | none => simp [dataSource, h]
  | some rows =>
    have htitles : ((List.range rows).mapM fun r => d.viewForRow r component).isSome :=
      mapM_isSome_iff.2 fun r hr => view_isSome h (List.mem_range.1 hr)
    obtain ⟨titles, ht⟩ := Option.isSome_iff_exists.1 htitles
    simp [dataSource, h, ht]

/-- What a column loads: all its rows, and its selected row clamped. -/
theorem load_spec {component row : ℕ} {c : PickerComponent}
    (h : d.dataSource.load component row = some c) :
    d.numberOfRowsInComponent component = some c.titles.length ∧
      c.selectedRow = min row (c.titles.length - 1) := by
  simp only [UIPickerViewDataSource.load, dataSource, Option.bind_eq_bind, Option.bind_eq_some_iff,
    Option.some.injEq] at h
  obtain ⟨rows, hrows, titles, ht, rfl⟩ := h
  have hlen := length_of_mapM ht
  rw [List.length_range] at hlen
  rw [hlen]
  exact ⟨hrows, rfl⟩

/-- The picker with other components. -/
def withComponents (d : STRCCommonPickerView) (cs : List PickerComponent) : STRCCommonPickerView :=
  { d with pickerView := ⟨cs⟩ }

@[simp] theorem rows_withComponents (cs : List PickerComponent) (component : ℕ) :
    (d.withComponents cs).numberOfRowsInComponent component = d.numberOfRowsInComponent component :=
  rfl

@[simp] theorem components_withComponents (cs : List PickerComponent) :
    (d.withComponents cs).pickerView.components = cs := rfl

theorem selectRow_isSome_iff {row component : ℕ} :
    (d.selectRow row component).isSome ↔ component < d.pickerView.components.length := by
  unfold selectRow UIPickerView.selectRow
  split_ifs with h <;> simp [h]

theorem selectRow_spec {row component : ℕ} (h : d.selectRow row component = some d') :
    d' = d.withComponents
      (d.pickerView.components.modify component fun c => { c with selectedRow := row }) := by
  unfold selectRow UIPickerView.selectRow at h
  split_ifs at h
  · exact (Option.some.inj h).symm
  · cases h

/-- A column started again at its first row. -/
def reloadColumn (d : STRCCommonPickerView) (component : ℕ) : Option STRCCommonPickerView := do
  let d ← d.selectRow 0 component
  d.reloadComponent component

theorem reloadColumn_isSome_iff {component : ℕ} (hc : component < d.pickerView.components.length) :
    (d.reloadColumn component).isSome ↔ (d.numberOfRowsInComponent component).isSome := by
  have h0 : (d.selectRow 0 component).isSome := selectRow_isSome_iff.2 hc
  obtain ⟨d₁, h1⟩ := Option.isSome_iff_exists.1 h0
  have hd := selectRow_spec h1
  unfold reloadColumn reloadComponent UIPickerView.reloadComponent
  have hrow : (d₁.pickerView.selectedRowInComponent component) = some 0 := by
    rw [hd]
    unfold UIPickerView.selectedRowInComponent
    simp [withComponents, hc]
  have hload : (d₁.dataSource.load component 0).isSome ↔
      (d.numberOfRowsInComponent component).isSome := by
    rw [load_isSome_iff, hd]
    rfl
  rw [← hload]
  simp only [h1, hrow, Option.bind_eq_bind, Option.bind_some]
  cases d₁.dataSource.load component 0 <;> simp

theorem reloadColumn_spec {component : ℕ} (h : d.reloadColumn component = some d') :
    ∃ c : PickerComponent, d.numberOfRowsInComponent component = some c.titles.length ∧
      c.selectedRow = 0 ∧ d' = d.withComponents (d.pickerView.components.set component c) := by
  simp only [reloadColumn, Option.bind_eq_bind, Option.bind_eq_some_iff] at h
  obtain ⟨d₁, h1, h2⟩ := h
  have hd := selectRow_spec h1
  have hc := selectRow_isSome_iff.1 (Option.isSome_iff_exists.2 ⟨d₁, h1⟩)
  simp only [reloadComponent, UIPickerView.reloadComponent, Option.bind_eq_bind,
    Option.bind_eq_some_iff, Option.some.injEq] at h2
  obtain ⟨p, ⟨row, hrow, c, hload, rfl⟩, rfl⟩ := h2
  obtain ⟨hrows, hsel⟩ := load_spec hload
  subst hd
  have hrow0 : row = 0 := by
    unfold UIPickerView.selectedRowInComponent at hrow
    simpa [withComponents, List.getElem?_modify, hc, eq_comm] using hrow
  refine ⟨c, hrows, by rw [hsel, hrow0, Nat.zero_min], ?_⟩
  unfold withComponents
  dsimp only
  congr 2
  refine List.ext_getElem? fun i => ?_
  by_cases hi : component = i
  · subst hi
    simp [List.getElem?_set]
  · simp [hi]

/-- Columns started again, one after the other. -/
def reloadColumns (d : STRCCommonPickerView) (components : List ℕ) :
    Option STRCCommonPickerView :=
  components.foldlM reloadColumn d

/-- **Columns can be started again exactly when the rows of each can be counted.** -/
theorem reloadColumns_isSome_iff {components : List ℕ}
    (hc : ∀ i ∈ components, i < d.pickerView.components.length) :
    (d.reloadColumns components).isSome ↔
      ∀ i ∈ components, (d.numberOfRowsInComponent i).isSome := by
  induction components generalizing d with
  | nil => simp [reloadColumns]
  | cons i is ih =>
    obtain ⟨hi, his⟩ := List.forall_mem_cons.1 hc
    rw [List.forall_mem_cons, ← reloadColumn_isSome_iff hi]
    unfold reloadColumns
    rw [List.foldlM_cons]
    cases h : d.reloadColumn i with
    | none => simp
    | some d₁ =>
      obtain ⟨c, -, -, rfl⟩ := reloadColumn_spec h
      -- the rows of the others are what they were
      have ih' := ih (d := d.withComponents (d.pickerView.components.set i c)) fun j hj => by
        rw [withComponents, List.length_set]
        exact his j hj
      simpa [reloadColumns] using ih'

/-- What it leaves: those columns at their first row, with the rows they have now. -/
theorem reloadColumns_spec {components : List ℕ}
    (hc : ∀ i ∈ components, i < d.pickerView.components.length)
    (h : d.reloadColumns components = some d') :
    ∃ cs : List PickerComponent, d' = d.withComponents cs ∧
      cs.length = d.pickerView.components.length ∧
      (∀ i, i ∉ components → cs[i]? = d.pickerView.components[i]?) ∧
      ∀ i ∈ components, ∃ c : PickerComponent, cs[i]? = some c ∧ c.selectedRow = 0 ∧
        d.numberOfRowsInComponent i = some c.titles.length := by
  induction components generalizing d with
  | nil =>
    obtain rfl := Option.some.inj h
    exact ⟨_, rfl, rfl, fun _ _ => rfl, fun i hi => absurd hi List.not_mem_nil⟩
  | cons i is ih =>
    obtain ⟨hi, his⟩ := List.forall_mem_cons.1 hc
    unfold reloadColumns at h
    simp only [List.foldlM_cons, Option.bind_eq_bind, Option.bind_eq_some_iff] at h
    obtain ⟨d₁, h1, h2⟩ := h
    obtain ⟨c, hrows, hsel, rfl⟩ := reloadColumn_spec h1
    have hlen : (d.pickerView.components.set i c).length = d.pickerView.components.length :=
      List.length_set
    obtain ⟨cs, rfl, hcs, hother, hthose⟩ := ih (fun j hj => hlen.symm ▸ his j hj) h2
    refine ⟨cs, rfl, hcs.trans hlen, fun j hj => ?_, fun j hj => ?_⟩
    · rw [List.mem_cons, not_or] at hj
      rw [hother j hj.2]
      exact List.getElem?_set_ne (Ne.symm hj.1)
    · by_cases hjs : j ∈ is
      · exact hthose j hjs
      · obtain rfl : j = i := (List.mem_cons.1 hj).resolve_right hjs
        refine ⟨c, ?_, hsel, hrows⟩
        rw [hother j hjs]
        exact List.getElem?_set_self hi

theorem takeRow_first {row : ℕ} (h : d.firIndex ≠ row) :
    d.takeRow row 0 = { d with firIndex := row, secIndex := 0 }.reloadColumns
      (List.range' 1 (d.componentNum - 1)) := if_pos h

theorem takeRow_first_same {row : ℕ} (h : d.firIndex = row) : d.takeRow row 0 = some d :=
  if_neg fun hn => hn h

theorem takeRow_second {row : ℕ} (h : d.secIndex ≠ row) :
    d.takeRow row 1 = { d with secIndex := row }.reloadColumns
      (List.range' 2 (d.componentNum - 2)) := if_pos h

theorem takeRow_second_same {row : ℕ} (h : d.secIndex = row) : d.takeRow row 1 = some d :=
  if_neg fun hn => hn h

/-- What a selection of a row does, column by column: some columns start again, and then the
picker is read back. -/
theorem didSelectRow_first {row : ℕ} (h : d.firIndex ≠ row) : d.didSelectRow row 0 =
    ({ d with firIndex := row, secIndex := 0 }.reloadColumns
      (List.range' 1 (d.componentNum - 1))).bind reloadData := by
  unfold didSelectRow
  rw [takeRow_first h]
  rfl

theorem didSelectRow_first_same {row : ℕ} (h : d.firIndex = row) :
    d.didSelectRow row 0 = (d.reloadColumns []).bind reloadData := by
  unfold didSelectRow
  rw [takeRow_first_same h]
  rfl

theorem didSelectRow_second {row : ℕ} (h : d.secIndex ≠ row) : d.didSelectRow row 1 =
    ({ d with secIndex := row }.reloadColumns
      (List.range' 2 (d.componentNum - 2))).bind reloadData := by
  unfold didSelectRow
  rw [takeRow_second h]
  rfl

theorem didSelectRow_second_same {row : ℕ} (h : d.secIndex = row) :
    d.didSelectRow row 1 = (d.reloadColumns []).bind reloadData := by
  unfold didSelectRow
  rw [takeRow_second_same h]
  rfl

theorem didSelectRow_third (row : ℕ) : d.didSelectRow row 2 =
    ({ d with thdIndex := row }.reloadColumns []).bind reloadData := rfl

/-! ## Reading back -/

theorem selectedRow_isSome_iff {p : UIPickerView} {component : ℕ} :
    (p.selectedRowInComponent component).isSome ↔ component < p.components.length := by
  unfold UIPickerView.selectedRowInComponent
  simp

theorem reloadData_isSome_iff : d.reloadData.isSome ↔
    (count d.firstArr ≠ 0 → InBounds d.firstArr d.firIndex ∧
      ∃ row, d.pickerView.selectedRowInComponent 1 = some row ∧
        InBounds (d.secondArr d.firIndex) row) := by
  rw [← objectAtIndex_isSome_iff, secondArr]
  unfold reloadData
  split_ifs with h0
  · simp [h0]
  · cases hkey : objectAtIndex d.firstArr d.firIndex with
    | none => simp [h0]
    | some key =>
      cases h1 : d.pickerView.selectedRowInComponent 1 with
      | none => simp [h0]
      | some row =>
        -- where there is a second column there is a first
        have hlt : 1 < d.pickerView.components.length :=
          selectedRow_isSome_iff.1 (by rw [h1]; rfl)
        obtain ⟨row₀, hrow₀⟩ := Option.isSome_iff_exists.1
          (selectedRow_isSome_iff.2 (show 0 < d.pickerView.components.length by omega))
        have hsec : (objectAtIndex (objectForKey d.secondDict key) row).isSome ↔
            InBounds (objectForKey d.secondDict key) row := objectAtIndex_isSome_iff
        simp only [Option.bind_eq_bind, Option.bind_some, hrow₀, Option.join_some, Option.some.injEq,
          exists_eq_left', Option.isSome_some, true_and, ← hsec]
        cases objectAtIndex (objectForKey d.secondDict key) row <;> simp [h0]

/-- What `reloadData` leaves: the first two indices are the selected rows. -/
theorem reloadData_spec (h : d.reloadData = some d') (h0 : count d.firstArr ≠ 0) :
    ∃ fir sec firKey secKey, d.pickerView.selectedRowInComponent 0 = some fir ∧
      d.pickerView.selectedRowInComponent 1 = some sec ∧
      d' = { d with firKey, secKey, firIndex := fir, secIndex := sec } := by
  unfold reloadData at h
  rw [if_neg h0] at h
  simp only [Option.bind_eq_bind, Option.bind_eq_some_iff, Option.some.injEq] at h
  obtain ⟨key, -, row, -, key', -, fir, hfir, sec, hsec, rfl⟩ := h
  exact ⟨fir, sec, key, key', hfir, hsec, rfl⟩

end STRCCommonPickerView

end RCSdk
