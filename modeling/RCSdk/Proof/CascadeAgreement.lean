import RCSdk.Proof.CascadeSafety

/-!
# What the cascading picker reports

The columns show the rows selected in the picker; `selectedOk` reads the three indices kept beside
them. The first two are read back from the picker after every selection, the third is not: only
the third column sets it.

* `agreement_iff`: with three levels and a list at every key, the picker reports what its columns
  show in every state of a run exactly when no selection that moves the third column leaves the
  third index at another text.
* `third_stale`: a row of the third column, then another of the second.
-/

namespace RCSdk

open Trans Traverse

/-- Three levels, and a list that is not empty at every key that can be reached. -/
structure PickerData.Complete (data : PickerData) : Prop where
  third : data.third.isSome
  lists : ∀ fir ∈ data.first, ∃ texts, objectForKey data.second (some fir) = some texts ∧
    texts ≠ [] ∧ ∀ sec ∈ texts, ∃ texts',
      objectForKey data.third (some (pairKey (some fir) (some sec))) = some texts' ∧ texts' ≠ []

namespace STRCCommonPickerView

/-- The text of the selected row of a column. -/
def rowText (d : STRCCommonPickerView) (component : ℕ) : Option String := do
  let row ← d.pickerView.selectedRowInComponent component
  (d.viewForRow row component).join

/-- **What is reported is what is highlighted**, the second text is of the first's list and the
third of the list of the two. -/
def Agrees (d : STRCCommonPickerView) : Prop :=
  ∃ fir sec thd, d.rowText 0 = some fir ∧ d.rowText 1 = some sec ∧ d.rowText 2 = some thd ∧
    d.selectedOk = some (some [("1", fir), ("2", sec), ("3", thd)]) ∧
    (∃ texts, objectForKey d.secondDict (some fir) = some texts ∧ sec ∈ texts) ∧
    ∃ texts, objectForKey d.thirdDict (some (pairKey (some fir) (some sec))) = some texts ∧
      thd ∈ texts

/-- One event of a picker that is a selected row for each column, which can be turned to any row
the column has. -/
def turn (d : STRCCommonPickerView) : Event → Option STRCCommonPickerView
  | .setupData data => (d.setupData data).reloadPickerView
  | .scroll row component => d.scroll row component
  | .selectFirIndex year month day => d.selectFirIndex year month day
  | .selectedOk => d.selectedOk.map fun _ => d

/-- The rows of an event are in range, and the data source is set once. -/
def RowsInRange (d : STRCCommonPickerView) : Event → Prop
  | .setupData _ => d.firstArr = none
  | .scroll row component => ∃ rows, d.numberOfRowsInComponent component = some rows ∧ row < rows
  | .selectFirIndex year month day => HasIndex d.firstArr year ∧ HasIndex (d.secondArr year) month ∧
      HasIndex (d.thirdArr year month) day
  | .selectedOk => True

instance (d : STRCCommonPickerView) : DecidablePred d.RowsInRange
  | .setupData _ => inferInstanceAs (Decidable (d.firstArr = none))
  | .scroll row component =>
    decidable_of_iff ((d.numberOfRowsInComponent component).any fun rows => decide (row < rows))
      (by cases h : d.numberOfRowsInComponent component <;> simp [RowsInRange, h])
  | .selectFirIndex _ _ _ => inferInstanceAs (Decidable (_ ∧ _ ∧ _))
  | .selectedOk => instDecidableTrue

/-- The third index leads to the same text as this row, in the third column's list at these
rows of the first two. -/
def SameThird (d : STRCCommonPickerView) (fir sec : ℤ) (row : ℕ) : Prop :=
  objectAtIndex (d.thirdArr fir sec) d.thdIndex = objectAtIndex (d.thirdArr fir sec) row

instance (d : STRCCommonPickerView) (fir sec : ℤ) (row : ℕ) : Decidable (d.SameThird fir sec row) :=
  inferInstanceAs (Decidable (_ = _))

/-- **The condition on an event.** A new row of the first or the second column puts the third
back to its first row, and a selection by the program puts it anywhere. -/
def KeepsThird (d : STRCCommonPickerView) : Event → Prop
  | .scroll row 0 => d.firIndex ≠ row → d.SameThird row 0 0
  | .scroll row 1 => d.secIndex ≠ row → d.SameThird d.firIndex row 0
  | .selectFirIndex year month day => d.SameThird year month day
  | _ => True

instance (d : STRCCommonPickerView) : DecidablePred d.KeepsThird
  | .scroll _ 0 | .scroll _ 1 => inferInstanceAs (Decidable (_ → _))
  | .scroll _ (_ + 2) | .setupData _ | .selectedOk => instDecidableTrue
  | .selectFirIndex _ _ _ => inferInstanceAs (Decidable (SameThird ..))

/-- The picker has loaded this data source in three columns. -/
structure Has (data : PickerData) (d : STRCCommonPickerView) : Prop where
  firstArr : d.firstArr = some data.first
  secondDict : d.secondDict = data.second
  thirdDict : d.thirdDict = data.third
  componentNum : d.componentNum = 3

/-- The selected rows. -/
def rows (d : STRCCommonPickerView) : List ℕ :=
  d.pickerView.components.map PickerComponent.selectedRow

/-- These rows are selected and in range, and the first two are the indices. -/
structure At (data : PickerData) (fir sec thd : ℕ) (d : STRCCommonPickerView) : Prop where
  has : Has data d
  rows : d.rows = [fir, sec, thd]
  firIndex : d.firIndex = fir
  secIndex : d.secIndex = sec
  first : HasIndex d.firstArr fir
  second : HasIndex (d.secondArr fir) sec
  third : HasIndex (d.thirdArr fir sec) thd

variable {data : PickerData} {d d' : STRCCommonPickerView} {fir sec thd : ℕ}

/-! ## Lists -/

theorem Has.second_zero (h : Has data d) (hdata : data.Complete) {fir : ℤ}
    (hfir : HasIndex d.firstArr fir) : HasIndex (d.secondArr fir) 0 := by
  obtain ⟨texts, text, ht, htext, hmem⟩ := hfir.text
  rw [h.firstArr] at ht
  obtain rfl := Option.some.inj ht
  obtain ⟨list, hlist, hne, -⟩ := hdata.lists text hmem
  refine hasIndex_zero ?_ hne
  rw [secondArr, htext, h.secondDict]
  exact hlist

theorem Has.third_zero (h : Has data d) (hdata : data.Complete) {fir sec : ℤ}
    (hfir : HasIndex d.firstArr fir) (hsec : HasIndex (d.secondArr fir) sec) :
    HasIndex (d.thirdArr fir sec) 0 := by
  obtain ⟨texts, text, ht, htext, hmem⟩ := hfir.text
  rw [h.firstArr] at ht
  obtain rfl := Option.some.inj ht
  obtain ⟨list, hlist, -, hthird⟩ := hdata.lists text hmem
  obtain ⟨texts', text', ht', htext', hmem'⟩ := hsec.text
  rw [secondArr, htext, h.secondDict, Option.join_some, hlist] at ht'
  obtain rfl := Option.some.inj ht'
  obtain ⟨list', hlist', hne'⟩ := hthird text' hmem'
  refine hasIndex_zero ?_ hne'
  rw [thirdArr, htext, htext', h.thirdDict]
  exact hlist'

/-! ## What a state reports -/

theorem selectedRow_eq_rows (d : STRCCommonPickerView) (i : ℕ) :
    d.pickerView.selectedRowInComponent i = d.rows[i]? := by
  unfold STRCCommonPickerView.rows
  rw [List.getElem?_map]
  rfl

theorem At.selected (h : At data fir sec thd d) (i : ℕ) :
    d.pickerView.selectedRowInComponent i = [fir, sec, thd][i]? := by
  rw [selectedRow_eq_rows, h.rows]

theorem At.length (h : At data fir sec thd d) : d.pickerView.components.length = 3 := by
  have hlen := congrArg List.length h.rows
  simpa [STRCCommonPickerView.rows] using hlen

/-- The texts at three rows, the second of the first's list and the third of that of the two. -/
structure Texts (d : STRCCommonPickerView) (fir sec thd : ℕ) (t₁ t₂ t₃ : String) : Prop where
  first : objectAtIndex d.firstArr fir = some (some t₁)
  second : d.secondArr fir = objectForKey d.secondDict (some t₁)
  second_text : objectAtIndex (d.secondArr fir) sec = some (some t₂)
  third : d.thirdArr fir sec = objectForKey d.thirdDict (some (pairKey (some t₁) (some t₂)))
  third_text : objectAtIndex (d.thirdArr fir sec) thd = some (some t₃)

theorem At.texts (h : At data fir sec thd d) : ∃ t₁ t₂ t₃, Texts d fir sec thd t₁ t₂ t₃ := by
  obtain ⟨-, t₁, -, ht₁, -⟩ := h.first.text
  obtain ⟨-, t₂, -, ht₂, -⟩ := h.second.text
  obtain ⟨-, t₃, -, ht₃, -⟩ := h.third.text
  refine ⟨t₁, t₂, t₃, ht₁, ?_, ht₂, ?_, ht₃⟩
  · rw [secondArr, ht₁, Option.join_some]
  · rw [thirdArr, ht₁, ht₂, Option.join_some, Option.join_some]

variable {t₁ t₂ t₃ : String}

/-- The texts that the data source looks up by the first two indices. -/
theorem At.keys (h : At data fir sec thd d) (ht : Texts d fir sec thd t₁ t₂ t₃) :
    objectAtIndex d.firstArr d.firIndex = some (some t₁) ∧
      objectAtIndex (objectForKey d.secondDict (some t₁)) d.secIndex = some (some t₂) := by
  constructor
  · rw [h.firIndex]
    exact ht.first
  · rw [h.secIndex, ← ht.second]
    exact ht.second_text

/-- **The columns show the texts at the selected rows.** -/
theorem At.rowTexts (h : At data fir sec thd d) (ht : Texts d fir sec thd t₁ t₂ t₃) :
    d.rowText 0 = some t₁ ∧ d.rowText 1 = some t₂ ∧ d.rowText 2 = some t₃ := by
  obtain ⟨hfir, hsec⟩ := h.keys ht
  -- the second column hides the rows above the last, and this is none of them
  have hin : ¬ (count (d.secondArr fir) ≠ 0 ∧ sec > count (d.secondArr fir) - 1) := by
    obtain ⟨texts, htexts, -, hlt⟩ := h.second
    have hcount : count (d.secondArr fir) = texts.length := by
      rw [htexts]
      rfl
    omega
  refine ⟨?_, ?_, ?_⟩
  · have hview : d.viewForRow fir 0 = some (some t₁) := ht.first
    unfold rowText
    rw [h.selected 0]
    exact congrArg Option.join hview
  · have hview : d.viewForRow sec 1 = some (some t₂) := by
      unfold viewForRow
      simp only [hfir, Option.bind_eq_bind, Option.bind_some, ← ht.second]
      rw [if_neg hin]
      exact ht.second_text
    unfold rowText
    rw [h.selected 1]
    exact congrArg Option.join hview
  · have hview : d.viewForRow thd 2 = some (some t₃) := by
      unfold viewForRow
      simp only [hfir, hsec, Option.bind_eq_bind, Option.bind_some, ← ht.third]
      exact ht.third_text
    unfold rowText
    rw [h.selected 2]
    exact congrArg Option.join hview

/-- What is reported: the first two texts, and the text at the third index, if there is one. -/
theorem At.selectedOk_eq (h : At data fir sec thd d) (ht : Texts d fir sec thd t₁ t₂ t₃) :
    d.selectedOk = (objectAtIndex (d.thirdArr fir sec) d.thdIndex).join.map
      fun t => some [("1", t₁), ("2", t₂), ("3", t)] := by
  unfold selectedOk
  rw [if_neg h.first.count_ne_zero, h.has.componentNum, h.firIndex, h.secIndex, ht.first, ht.third]
  have hsec := ht.second_text
  rw [ht.second] at hsec
  have h0 : 3 > 0 := by omega
  have h1 : 3 > 1 := by omega
  have h2 : 3 > 2 := by omega
  simp only [h0, h1, h2, if_true, Option.join_some, Option.bind_eq_bind, Option.bind_some, hsec]
  cases (objectAtIndex (objectForKey d.thirdDict (some (pairKey (some t₁) (some t₂))))
    d.thdIndex).join <;> rfl

/-- **A state agrees unless the third index is off.** -/
theorem At.agrees_iff (h : At data fir sec thd d) : Agrees d ↔ d.SameThird fir sec thd := by
  obtain ⟨t₁, t₂, t₃, ht⟩ := h.texts
  obtain ⟨h₁, h₂, h₃⟩ := h.rowTexts ht
  have hreport := h.selectedOk_eq ht
  unfold SameThird
  rw [ht.third_text]
  constructor
  · rintro ⟨u₁, u₂, u₃, -, -, hu₃, hok, -, -⟩
    obtain rfl := Option.some.inj (h₃.symm.trans hu₃)
    rw [hreport] at hok
    obtain ⟨t, htext, ht'⟩ := Option.map_eq_some_iff.1 hok
    have hreported : t₁ = u₁ ∧ t₂ = u₂ ∧ t = t₃ := by simpa using ht'
    obtain rfl := hreported.2.2
    exact Option.join_eq_some_iff.1 htext
  · intro hsame
    rw [hsame] at hreport
    obtain ⟨texts, text, hs, htext, hmem⟩ := h.second.text
    obtain ⟨texts', text', hs', htext', hmem'⟩ := h.third.text
    obtain rfl : text = t₂ := by simpa [htext] using ht.second_text
    obtain rfl : text' = t₃ := by simpa [htext'] using ht.third_text
    exact ⟨t₁, text, text', h₁, h₂, h₃, hreport, ⟨texts, ht.second.symm.trans hs, hmem⟩,
      texts', ht.third.symm.trans hs', hmem'⟩

/-! ## Selected rows -/

theorem rows_turned (row component : ℕ) :
    (d.turned row component).rows = d.rows.set component row := by
  refine List.ext_getElem? fun i => ?_
  unfold turned STRCCommonPickerView.rows
  rw [components_withComponents, List.getElem?_map, List.getElem?_modify, List.getElem?_set,
    List.length_map, List.getElem?_map]
  by_cases hi : component = i
  · subst hi
    by_cases hlt : component < d.pickerView.components.length <;> simp [hlt]
  · simp [hi]

theorem rows_reloadColumns {is : List ℕ} (hc : ∀ i ∈ is, i < d.pickerView.components.length)
    (h : d.reloadColumns is = some d') :
    d'.rows = d.rows.mapIdx fun i row => if i ∈ is then 0 else row := by
  obtain ⟨cs, rfl, hlen, hother, hthose⟩ := reloadColumns_spec hc h
  refine List.ext_getElem? fun i => ?_
  unfold STRCCommonPickerView.rows
  rw [components_withComponents, List.getElem?_map, List.getElem?_mapIdx, List.getElem?_map]
  by_cases hi : i ∈ is
  · obtain ⟨c, hci, hsel, -⟩ := hthose i hi
    rw [hci, List.getElem?_eq_getElem (hc i hi)]
    simp [hi, hsel]
  · rw [hother i hi]
    cases d.pickerView.components[i]? <;> simp [hi]

/-- **Columns started again and then read back**, where the indices are the rows there will be. -/
theorem reload_read_at (hd : Has data d) {is : List ℕ} (his : ∀ i ∈ is, i = 1 ∨ i = 2)
    (hlen : d.rows.length = 3)
    (hrows : (d.rows.mapIdx fun i row => if i ∈ is then 0 else row) = [fir, sec, thd])
    (hfir : d.firIndex = fir) (hsec : d.secIndex = sec) (h₁ : HasIndex d.firstArr fir)
    (h₂ : HasIndex (d.secondArr fir) sec) (h₃ : HasIndex (d.thirdArr fir sec) thd) :
    ∃ d', (d.reloadColumns is).bind reloadData = some d' ∧ d'.thdIndex = d.thdIndex ∧
      At data fir sec thd d' := by
  have hcols : ∀ i ∈ is, i < d.pickerView.components.length := by
    intro i hi
    have hl : d.pickerView.components.length = 3 := by
      simpa [STRCCommonPickerView.rows] using hlen
    rcases his i hi with rfl | rfl <;> omega
  -- the columns start again, for the lists at the indices are there
  have hload : ∀ i ∈ is, (d.numberOfRowsInComponent i).isSome := by
    intro i hi
    rcases his i hi with rfl | rfl
    · exact rows_one_isSome_iff.2 fun _ => hfir ▸ h₁.inBounds
    · refine rows_two_isSome_iff.2 ⟨hfir ▸ h₁.inBounds, ?_⟩
      rw [hfir, hsec]
      exact h₂.inBounds
  obtain ⟨e, he⟩ := Option.isSome_iff_exists.1 ((reloadColumns_isSome_iff hcols).2 hload)
  have herows := rows_reloadColumns hcols he
  rw [hrows] at herows
  obtain ⟨cs, rfl, -⟩ := reloadColumns_spec hcols he
  have hsel : ∀ i, (d.withComponents cs).pickerView.selectedRowInComponent i =
      [fir, sec, thd][i]? := by
    intro i
    rw [selectedRow_eq_rows, herows]
  -- and are read back
  have hread : (d.withComponents cs).reloadData.isSome := by
    refine reloadData_isSome_iff.2 fun _ => ⟨?_, sec, hsel 1, ?_⟩
    · change InBounds d.firstArr d.firIndex
      rw [hfir]
      exact h₁.inBounds
    · change InBounds (d.secondArr d.firIndex) sec
      rw [hfir]
      exact h₂.inBounds
  obtain ⟨d', hd'⟩ := Option.isSome_iff_exists.1 hread
  have hrun : (d.reloadColumns is).bind reloadData = some d' := by
    rw [he]
    exact hd'
  obtain ⟨fir', sec', firKey, secKey, hfir', hsec', rfl⟩ := reloadData_spec hd' h₁.count_ne_zero
  obtain rfl : fir = fir' := Option.some.inj ((hsel 0).symm.trans hfir')
  obtain rfl : sec = sec' := Option.some.inj ((hsel 1).symm.trans hsec')
  exact ⟨_, hrun, rfl, ⟨hd.firstArr, hd.secondDict, hd.thirdDict, hd.componentNum⟩, herows, rfl,
    rfl, h₁, h₂, h₃⟩

/-! ## What each event leaves -/

/-- The rows each column counts are those of its list. -/
theorem At.numberOfRows (h : At data fir sec thd d) :
    d.numberOfRowsInComponent 0 = some (count d.firstArr) ∧
      d.numberOfRowsInComponent 1 = some (count (d.secondArr fir)) ∧
      d.numberOfRowsInComponent 2 = some (count (d.thirdArr fir sec)) := by
  obtain ⟨t₁, t₂, t₃, ht⟩ := h.texts
  obtain ⟨hfir, hsec⟩ := h.keys ht
  refine ⟨rfl, ?_, ?_⟩
  · unfold numberOfRowsInComponent
    simp only [h.first.count_ne_zero, if_false, hfir, Option.bind_eq_bind, Option.bind_some,
      ← ht.second]
  · unfold numberOfRowsInComponent
    simp only [hfir, hsec, Option.bind_eq_bind, Option.bind_some, ← ht.third]

/-- A row in range of a column is one of its list. -/
theorem At.inRange (h : At data fir sec thd d) {row component : ℕ}
    (hrow : RowsInRange d (.scroll row component)) :
    component = 0 ∧ HasIndex d.firstArr row ∨ component = 1 ∧ HasIndex (d.secondArr fir) row ∨
      component = 2 ∧ HasIndex (d.thirdArr fir sec) row := by
  obtain ⟨h₀, h₁, h₂⟩ := h.numberOfRows
  obtain ⟨rows, hrows, hlt⟩ := hrow
  match component with
  | 0 =>
    obtain rfl := Option.some.inj (h₀.symm.trans hrows)
    exact Or.inl ⟨rfl, inBounds_of_lt_count hlt⟩
  | 1 =>
    obtain rfl := Option.some.inj (h₁.symm.trans hrows)
    exact Or.inr (Or.inl ⟨rfl, inBounds_of_lt_count hlt⟩)
  | 2 =>
    obtain rfl := Option.some.inj (h₂.symm.trans hrows)
    exact Or.inr (Or.inr ⟨rfl, inBounds_of_lt_count hlt⟩)
  | n + 3 =>
    obtain rfl := Option.some.inj hrows
    omega

theorem At.scroll_eq (h : At data fir sec thd d) {row component : ℕ} (hc : component < 3) :
    d.scroll row component = (d.turned row component).didSelectRow row component :=
  STRCCommonPickerView.scroll_eq (by rw [h.length]; exact hc)

theorem At.rows_turned (h : At data fir sec thd d) (row component : ℕ) :
    (d.turned row component).rows = [fir, sec, thd].set component row := by
  rw [STRCCommonPickerView.rows_turned, h.rows]

/-- A column turned to the row it had, and read back. -/
theorem At.read_back (h : At data fir sec thd d) {row component : ℕ}
    (hrow : [fir, sec, thd].set component row = [fir, sec, thd]) :
    ∃ d', ((d.turned row component).reloadColumns []).bind reloadData = some d' ∧
      d'.thdIndex = d.thdIndex ∧ At data fir sec thd d' := by
  have hrows := h.rows_turned row component
  rw [hrow] at hrows
  refine reload_read_at (d := d.turned row component)
    ⟨h.has.firstArr, h.has.secondDict, h.has.thirdDict, h.has.componentNum⟩ (by simp) ?_ ?_
    h.firIndex h.secIndex h.first h.second h.third
  · rw [hrows]
    rfl
  · rw [hrows]
    rfl

/-- **A new row of the first column** puts the others back to their first rows. The third index
stays. -/
theorem At.scroll_first (h : At data fir sec thd d) (hdata : data.Complete) {row : ℕ}
    (hrow : HasIndex d.firstArr row) : ∃ d', d.scroll row 0 = some d' ∧
      d'.thdIndex = d.thdIndex ∧
      if d.firIndex = row then At data fir sec thd d' else At data row 0 0 d' := by
  rw [h.scroll_eq (by omega)]
  have hrows := h.rows_turned row 0
  have hhas : Has data (d.turned row 0) :=
    ⟨h.has.firstArr, h.has.secondDict, h.has.thirdDict, h.has.componentNum⟩
  by_cases hfir : d.firIndex = row
  · have hsame : (d.turned row 0).firIndex = row := hfir
    have hrow' : fir = row := by
      have := h.firIndex
      omega
    simp only [didSelectRow_first_same hsame, if_pos hfir]
    refine h.read_back ?_
    rw [hrow', List.set_cons_zero]
  · have hmoved : (d.turned row 0).firIndex ≠ row := hfir
    simp only [didSelectRow_first hmoved, if_neg hfir]
    have h₂ : HasIndex (d.secondArr row) 0 := h.has.second_zero hdata hrow
    have h₃ : HasIndex (d.thirdArr row 0) 0 := h.has.third_zero hdata hrow h₂
    have hnum : (d.turned row 0).componentNum = 3 := h.has.componentNum
    set e : STRCCommonPickerView := { d.turned row 0 with firIndex := row, secIndex := 0 }
    have herows : e.rows = [row, sec, thd] := hrows
    refine reload_read_at (d := e) ⟨hhas.firstArr, hhas.secondDict, hhas.thirdDict, hnum⟩ ?_ ?_ ?_
      rfl rfl hrow h₂ h₃
    · intro i hi
      have := mem_columns.1 hi
      omega
    · rw [herows]
      rfl
    · rw [herows, hnum]
      rfl

/-- **A new row of the second column** puts the third back to its first row. The third index
stays. -/
theorem At.scroll_second (h : At data fir sec thd d) (hdata : data.Complete) {row : ℕ}
    (hrow : HasIndex (d.secondArr fir) row) : ∃ d', d.scroll row 1 = some d' ∧
      d'.thdIndex = d.thdIndex ∧
      if d.secIndex = row then At data fir sec thd d' else At data fir row 0 d' := by
  rw [h.scroll_eq (by omega)]
  have hrows := h.rows_turned row 1
  have hhas : Has data (d.turned row 1) :=
    ⟨h.has.firstArr, h.has.secondDict, h.has.thirdDict, h.has.componentNum⟩
  by_cases hsec : d.secIndex = row
  · have hsame : (d.turned row 1).secIndex = row := hsec
    have hrow' : sec = row := by
      have := h.secIndex
      omega
    simp only [didSelectRow_second_same hsame, if_pos hsec]
    refine h.read_back ?_
    rw [hrow', List.set_cons_succ, List.set_cons_zero]
  · have hmoved : (d.turned row 1).secIndex ≠ row := hsec
    simp only [didSelectRow_second hmoved, if_neg hsec]
    have h₃ : HasIndex (d.thirdArr fir row) 0 := h.has.third_zero hdata h.first hrow
    have hnum : (d.turned row 1).componentNum = 3 := h.has.componentNum
    set e : STRCCommonPickerView := { d.turned row 1 with secIndex := row }
    have herows : e.rows = [fir, row, thd] := hrows
    refine reload_read_at (d := e) ⟨hhas.firstArr, hhas.secondDict, hhas.thirdDict, hnum⟩ ?_ ?_ ?_
      h.firIndex rfl h.first hrow h₃
    · intro i hi
      have := mem_columns.1 hi
      omega
    · rw [herows]
      rfl
    · rw [herows, hnum]
      rfl

/-- **A row of the third column** sets the third index. -/
theorem At.scroll_third (h : At data fir sec thd d) {row : ℕ}
    (hrow : HasIndex (d.thirdArr fir sec) row) : ∃ d', d.scroll row 2 = some d' ∧
      d'.thdIndex = row ∧ At data fir sec row d' := by
  rw [h.scroll_eq (by omega), didSelectRow_third]
  have hrows := h.rows_turned row 2
  set e : STRCCommonPickerView := { d.turned row 2 with thdIndex := row }
  have herows : e.rows = [fir, sec, row] := hrows
  refine reload_read_at (d := e)
    ⟨h.has.firstArr, h.has.secondDict, h.has.thirdDict, h.has.componentNum⟩ (by simp) ?_ ?_
    h.firIndex h.secIndex h.first h.second hrow
  · rw [herows]
    rfl
  · rw [herows]
    rfl

/-- **A selection by the program** leaves the third index. -/
theorem At.selectFirIndex (h : At data fir sec thd d) {year month day : ℕ}
    (h₁ : HasIndex d.firstArr year) (h₂ : HasIndex (d.secondArr year) month)
    (h₃ : HasIndex (d.thirdArr year month) day) :
    ∃ d', d.selectFirIndex year month day = some d' ∧ d'.thdIndex = d.thdIndex ∧
      At data year month day d' := by
  obtain ⟨-, key, -, hkey, -⟩ := h₁.text
  obtain ⟨-, key', -, hkey', -⟩ := h₂.text
  rw [secondArr, hkey, Option.join_some] at hkey'
  set e : STRCCommonPickerView :=
    { d with firIndex := year, secIndex := month, firKey := some key, secKey := some key' } with he
  have hlen : e.pickerView.components.length = 3 := h.length
  have hsel : (List.range d.componentNum).foldlM
      (fun d i => d.selectRow ([year, month, day].getD i 0) i) e =
      some (((e.turned year 0).turned month 1).turned day 2) := by
    have h0 : e.selectRow year 0 = some (e.turned year 0) := selectRow_eq (by omega)
    have h1 : (e.turned year 0).selectRow month 1 = some ((e.turned year 0).turned month 1) :=
      selectRow_eq (by rw [turned_length]; omega)
    have h2 : ((e.turned year 0).turned month 1).selectRow day 2 =
        some (((e.turned year 0).turned month 1).turned day 2) :=
      selectRow_eq (by rw [turned_length, turned_length]; omega)
    have hrange : List.range d.componentNum = [0, 1, 2] := by
      rw [h.has.componentNum]
      rfl
    rw [hrange]
    simp [h0, h1, h2]
  refine ⟨((e.turned year 0).turned month 1).turned day 2, ?_, rfl,
    ⟨h.has.firstArr, h.has.secondDict, h.has.thirdDict, h.has.componentNum⟩, ?_, rfl, rfl, h₁, h₂,
    h₃⟩
  · unfold STRCCommonPickerView.selectFirIndex
    rw [if_neg h₁.count_ne_zero]
    simp only [hkey, Option.bind_eq_bind, Option.bind_some, hkey']
    exact hsel
  · have hrows : e.rows = [fir, sec, thd] := h.rows
    rw [STRCCommonPickerView.rows_turned, STRCCommonPickerView.rows_turned,
      STRCCommonPickerView.rows_turned, hrows]
    rfl

/-- The data source of a picker that has not been shown. -/
theorem at_setupData (hdata : data.Complete) (hne : data.first ≠ []) :
    ∃ d, (init.setupData data).reloadPickerView = some d ∧ d.thdIndex = 0 ∧ At data 0 0 0 d := by
  have hnum : (init.setupData data).componentNum = 3 := if_pos hdata.third
  have hhas : Has data (init.setupData data) := ⟨rfl, rfl, rfl, hnum⟩
  have h₁ : HasIndex (init.setupData data).firstArr 0 := hasIndex_zero rfl hne
  have h₂ := hhas.second_zero hdata h₁
  have h₃ := hhas.third_zero hdata h₁ h₂
  have hload : (init.setupData data).reloadPickerView.isSome :=
    (setupData_isSome_iff data init).2 ⟨fun _ _ => h₁.inBounds, fun _ => ⟨h₁.inBounds, h₂.inBounds⟩⟩
  obtain ⟨d, hd⟩ := Option.isSome_iff_exists.1 hload
  obtain ⟨cs, rfl, hlen, hcs⟩ := reloadPickerView_spec hd
  have hrows : ((init.setupData data).withComponents cs).rows = [0, 0, 0] := by
    change _ = List.replicate 3 0
    refine List.eq_replicate_iff.2 ⟨?_, fun row hrow => ?_⟩
    · unfold STRCCommonPickerView.rows
      rw [components_withComponents, List.length_map, hlen, hnum]
    · obtain ⟨c, hc, rfl⟩ := List.mem_map.1 hrow
      obtain ⟨i, hi⟩ := List.getElem?_of_mem hc
      -- a picker that has not been shown has no rows to keep
      have hsel : (init.setupData data).pickerView.selectedRowInComponent i = none := rfl
      rw [(hcs i c hi).2, hsel]
      exact Nat.zero_min _
  exact ⟨_, hd, rfl, ⟨rfl, rfl, rfl, hnum⟩, hrows, rfl, rfl, h₁, h₂, h₃⟩

/-! ## Runs -/

/-- An event of the picker that displays rows is one of these or changes nothing. -/
theorem step_eq_turn (d : STRCCommonPickerView) (ev : Event) :
    d.step ev = d.turn ev ∨ d.step ev = some d := by
  cases ev with
  | setupData _ => exact Or.inl rfl
  | selectFirIndex _ _ _ => exact Or.inl rfl
  | selectedOk => exact Or.inl rfl
  | scroll row component =>
    by_cases hrow : d.Displayed row component
    · exact Or.inl (step_scroll_displayed hrow)
    · exact Or.inr (step_scroll_undisplayed hrow)

/-- A step that leaves the third index leaves its text, in the third column's list at any rows. -/
theorem Has.sameThird_iff (h : Has data d) (h' : Has data d') (ht : d'.thdIndex = d.thdIndex)
    (fir sec : ℤ) (row : ℕ) : d'.SameThird fir sec row ↔ d.SameThird fir sec row := by
  have harr : d'.thirdArr fir sec = d.thirdArr fir sec := by
    unfold thirdArr secondArr
    rw [h.firstArr, h'.firstArr, h.secondDict, h'.secondDict, h.thirdDict, h'.thirdDict]
  unfold SameThird
  rw [harr, ht]

/-- With the third index kept, a state at other rows agrees by the rows it is at. -/
theorem At.agrees_iff_of_kept (h : At data fir sec thd d) {fir' sec' thd' : ℕ}
    (hat : At data fir' sec' thd' d') (hthd : d'.thdIndex = d.thdIndex) :
    Agrees d' ↔ d.SameThird fir' sec' thd' := by
  rw [hat.agrees_iff]
  exact h.has.sameThird_iff hat.has hthd fir' sec' thd'

/-- **One event**: in a state that agrees none raises, and the next agrees exactly under the
condition. -/
theorem At.turn (h : At data fir sec thd d) (hdata : data.Complete) {ev : Event}
    (hin : RowsInRange d ev) (hagree : Agrees d) : ∃ d', d.turn ev = some d' ∧
      (∃ fir' sec' thd', At data fir' sec' thd' d') ∧ (Agrees d' ↔ KeepsThird d ev) := by
  have hthird : d.SameThird fir sec thd := h.agrees_iff.1 hagree
  cases ev with
  | setupData data' =>
    -- only a view without a data source is given one
    have hnone : d.firstArr = none := hin
    obtain ⟨texts, htexts, -⟩ := h.first
    rw [hnone] at htexts
    cases htexts
  | selectedOk =>
    obtain ⟨t₁, t₂, t₃, -, -, -, hok, -⟩ := hagree
    refine ⟨d, ?_, ⟨fir, sec, thd, h⟩, iff_of_true (h.agrees_iff.2 hthird) trivial⟩
    unfold STRCCommonPickerView.turn
    dsimp only
    rw [hok, Option.map_some]
  | selectFirIndex year month day =>
    obtain ⟨d', hd', hthd, hat⟩ := h.selectFirIndex hin.1 hin.2.1 hin.2.2
    refine ⟨d', hd', ⟨year, month, day, hat⟩, ?_⟩
    rw [h.agrees_iff_of_kept hat hthd]
    rfl
  | scroll row component =>
    rcases h.inRange hin with ⟨rfl, hrow⟩ | ⟨rfl, hrow⟩ | ⟨rfl, hrow⟩
    · obtain ⟨d', hd', hthd, hat⟩ := h.scroll_first hdata hrow
      by_cases hfir : d.firIndex = row
      · rw [if_pos hfir] at hat
        refine ⟨d', hd', ⟨fir, sec, thd, hat⟩, ?_⟩
        rw [h.agrees_iff_of_kept hat hthd]
        exact iff_of_true hthird fun hne => absurd hfir hne
      · rw [if_neg hfir] at hat
        refine ⟨d', hd', ⟨row, 0, 0, hat⟩, ?_⟩
        rw [h.agrees_iff_of_kept hat hthd]
        exact ⟨fun hsame _ => hsame, fun hsame => hsame hfir⟩
    · obtain ⟨d', hd', hthd, hat⟩ := h.scroll_second hdata hrow
      by_cases hsec : d.secIndex = row
      · rw [if_pos hsec] at hat
        refine ⟨d', hd', ⟨fir, sec, thd, hat⟩, ?_⟩
        rw [h.agrees_iff_of_kept hat hthd]
        exact iff_of_true hthird fun hne => absurd hsec hne
      · rw [if_neg hsec] at hat
        refine ⟨d', hd', ⟨fir, row, 0, hat⟩, ?_⟩
        rw [h.agrees_iff_of_kept hat hthd, ← h.firIndex]
        exact ⟨fun hsame _ => hsame, fun hsame => hsame hsec⟩
    · obtain ⟨d', hd', hthd, hat⟩ := h.scroll_third hrow
      refine ⟨d', hd', ⟨fir, sec, row, hat⟩, ?_⟩
      rw [hat.agrees_iff]
      refine iff_of_true ?_ trivial
      unfold SameThird
      rw [hthd]

/-- **The picker reports what its columns show, in every state of a run, exactly when there is
something to show and every event keeps the third text.** -/
theorem agreement_iff (hdata : data.Complete) (evs : List Event)
    (hrows : ∀ q ∈ visited turn init (.setupData data :: evs), RowsInRange q.1 q.2) :
    (∃ d s, turn init (.setupData data) = some d ∧ exec turn d evs = some s ∧
      (∀ q ∈ visited turn d evs, Agrees q.1) ∧ Agrees s) ↔
      data.first ≠ [] ∧
        ∀ q ∈ visited turn init (.setupData data :: evs), KeepsThird q.1 q.2 := by
  by_cases hne : data.first = []
  · refine iff_of_false ?_ fun h => h.1 hne
    -- the third column counts its rows without a look at the first level
    rintro ⟨d, -, hd, -⟩
    have hsafe := (setupData_isSome_iff data init).1 (Option.isSome_iff_exists.2 ⟨d, hd⟩)
    have hin := (hsafe.2 hdata.third).1 data.first rfl
    rw [hne] at hin
    exact absurd hin.2 (Int.lt_irrefl 0)
  · obtain ⟨d, hd, hthd, hat⟩ := at_setupData hdata hne
    have hd' : turn init (.setupData data) = some d := hd
    rw [forall_visited_cons_iff hd'] at hrows
    have hrun := exec_always_iff (I := fun d => ∃ fir sec thd, At data fir sec thd d)
      (P := Agrees) (C := KeepsThird)
      (fun s ev ⟨_, _, _, hs⟩ hin hagree => hs.turn hdata hin hagree) evs ⟨0, 0, 0, hat⟩ hrows.2
    have hfirst : Agrees d := by
      rw [hat.agrees_iff]
      unfold SameThird
      rw [hthd]
      rfl
    rw [forall_visited_cons_iff hd', hd']
    simp only [Option.some.injEq, exists_and_left, exists_eq_left', hrun, hfirst, hne, ne_eq,
      not_false_eq_true, true_and]
    exact ⟨fun h => ⟨trivial, h⟩, fun h => h.2⟩

/-- One text, two for it, and two for each of the pairs. -/
def twoByTwo : PickerData where
  first := ["x"]
  second := some fun key => if key = "x" then some ["p", "q"] else none
  third := some fun key =>
    if key = "x-p" then some ["1", "2"] else if key = "x-q" then some ["3", "4"] else none
  levels := fun _ => rfl

theorem complete_twoByTwo : twoByTwo.Complete := by
  refine ⟨rfl, fun fir hfir => ?_⟩
  obtain rfl := List.mem_singleton.1 hfir
  refine ⟨["p", "q"], rfl, by simp, fun sec hsec => ?_⟩
  have hsec' : sec = "p" ∨ sec = "q" := by simpa using hsec
  rcases hsec' with rfl | rfl
  · exact ⟨["1", "2"], by decide +kernel, by simp⟩
  · exact ⟨["3", "4"], by decide +kernel, by simp⟩

/-- A row of the second column, then one of the third. -/
theorem agreement_one_run : ∃ d s, turn init (.setupData twoByTwo) = some d ∧
    exec turn d [.scroll 1 1, .scroll 1 2] = some s ∧
    (∀ q ∈ visited turn d [.scroll 1 1, .scroll 1 2], Agrees q.1) ∧ Agrees s :=
  (agreement_iff complete_twoByTwo [.scroll 1 1, .scroll 1 2] (by decide +kernel)).2
    ⟨by decide, by decide +kernel⟩

/-- **The third index is stale.** A row of the third column, then another of the second: the third
column is back at its first row, and the second is reported. -/
theorem third_stale : twoByTwo.Complete ∧
    (∀ q ∈ visited turn init [.setupData twoByTwo, .scroll 1 2, .scroll 1 1],
      RowsInRange q.1 q.2) ∧
    ∃ s, exec turn init [.setupData twoByTwo, .scroll 1 2, .scroll 1 1] = some s ∧
      s.rowText 2 = some "3" ∧
      s.selectedOk = some (some [("1", "x"), ("2", "q"), ("3", "4")]) ∧ ¬ Agrees s := by
  refine ⟨complete_twoByTwo, by decide +kernel, ?_⟩
  have hrun : (exec turn init [.setupData twoByTwo, .scroll 1 2, .scroll 1 1]).map
      (fun s => (s.rowText 2, s.selectedOk)) =
      some (some "3", some (some [("1", "x"), ("2", "q"), ("3", "4")])) := by
    decide +kernel
  obtain ⟨s, hs, hread⟩ := Option.map_eq_some_iff.1 hrun
  obtain ⟨htext, hok⟩ := Prod.mk.inj hread
  refine ⟨s, hs, htext, hok, ?_⟩
  rintro ⟨fir, sec, thd, -, -, hthd, hok', -⟩
  rw [hok] at hok'
  rw [htext] at hthd
  obtain rfl := Option.some.inj hthd
  simp at hok'

end STRCCommonPickerView

end RCSdk
