import RCSdk.Lib.Run
import RCSdk.Lib.Traverse
import RCSdk.Proof.Cascade
import RCSdk.Spec.STPickerSingle

/-!
# What the picker of one list reports

The picker shows the row selected in its middle column; `selectedOk` reads a number kept beside it.
Every column writes that number, and a new list clamps the selected row only.

* `single_agrees_iff`: the picker reports what its middle column shows, in every state of a run,
  exactly when a side column is turned only at the first row of the list, and every new list has
  the row that is selected.
* `side_column_and_shorter_list`: what goes wrong after a side column, and with a shorter list.
-/

namespace RCSdk

open Trans Traverse

namespace STPickerSingle

/-- **What is reported is what is highlighted** in the middle column. -/
def Agrees (d : STPickerSingle) : Prop :=
  ∃ row title, d.pickerView.selectedRowInComponent 1 = some row ∧
    d.pickerView.highlighted 1 = some (some title) ∧ d.selectedOk = some (some title, row)

/-- The rows of an event are in range, and a list has entries. -/
def InRange (d : STPickerSingle) : Event → Prop
  | .setArrayData arrayData => arrayData ≠ []
  | .setSelectedRow selectedRow => selectedRow < count d.arrayData
  | .setTitleUnit _ => True
  | .scroll row component => ∃ rows, d.pickerView.numberOfRowsInComponent component = some rows ∧
      row < rows

instance (d : STPickerSingle) : DecidablePred d.InRange
  | .setArrayData arrayData => inferInstanceAs (Decidable (arrayData ≠ []))
  | .setSelectedRow selectedRow => inferInstanceAs (Decidable (selectedRow < count d.arrayData))
  | .setTitleUnit _ => instDecidableTrue
  | .scroll row component =>
    decidable_of_iff
      ((d.pickerView.numberOfRowsInComponent component).any fun rows => decide (row < rows))
      (by cases h : d.pickerView.numberOfRowsInComponent component <;> simp [InRange, h])

/-- **The condition on an event.** A side column has one row, and turning it writes that row; a new
list leaves the number. -/
def KeepsRow (d : STPickerSingle) : Event → Prop
  | .setArrayData arrayData =>
    ∀ row, d.pickerView.selectedRowInComponent 1 = some row → row < arrayData.length
  | .scroll _ component => component ≠ 1 → d.pickerView.selectedRowInComponent 1 = some 0
  | _ => True

instance (d : STPickerSingle) : DecidablePred d.KeepsRow
  | .setArrayData arrayData =>
    decidable_of_iff
      ((d.pickerView.selectedRowInComponent 1).all fun row => decide (row < arrayData.length))
      (by cases h : d.pickerView.selectedRowInComponent 1 <;> simp [KeepsRow, h])
  | .setSelectedRow _ | .setTitleUnit _ => instDecidableTrue
  | .scroll _ _ => inferInstanceAs (Decidable (_ → _))

/-- The columns as they are when the list `list` is shown with this row selected. -/
def columns (list : List String) (titleUnit : Option String) (row : ℕ) : List PickerComponent :=
  [⟨[none], 0⟩, ⟨list.map some, row⟩, ⟨[titleUnit], 0⟩]

/-- What holds in every run: the picker shows the list, and the selected row is in it. -/
structure Shows (list : List String) (row : ℕ) (d : STPickerSingle) : Prop where
  arrayData : d.arrayData = some list
  components : d.pickerView.components = columns list d.titleUnit row
  row_lt : row < list.length

variable {d d' : STPickerSingle} {list : List String} {row : ℕ}

theorem objectAtIndex_natCast (list : List String) (row : ℕ) :
    objectAtIndex (some list) row = if row < list.length then some list[row]? else none := by
  unfold objectAtIndex
  simp

theorem Shows.selectedRow (h : Shows list row d) :
    d.pickerView.selectedRowInComponent 1 = some row := by
  unfold UIPickerView.selectedRowInComponent
  rw [h.components]
  rfl

/-- **A state agrees exactly when the number is the selected row.** -/
theorem Shows.agrees_iff (h : Shows list row d) : Agrees d ↔ d._selectRow = row := by
  have hlt := h.row_lt
  have hhigh : d.pickerView.highlighted 1 = some (some list[row]) := by
    unfold UIPickerView.highlighted
    rw [h.components]
    simp [columns, hlt]
  constructor
  · rintro ⟨row', title, hrow', -, hok⟩
    obtain rfl : row = row' := Option.some.inj (h.selectedRow.symm.trans hrow')
    simp only [selectedOk, Option.bind_eq_bind, Option.bind_eq_some_iff, Option.some.injEq,
      Prod.mk.injEq] at hok
    obtain ⟨-, -, -, hok⟩ := hok
    exact hok
  · intro hsel
    refine ⟨row, list[row], h.selectedRow, hhigh, ?_⟩
    unfold selectedOk
    rw [h.arrayData, hsel, objectAtIndex_natCast, if_pos hlt, List.getElem?_eq_getElem hlt]
    rfl

/-! ## Loading -/

/-- The middle column has all rows of the list. -/
theorem load_middle (h : d.arrayData = some list) (row : ℕ) :
    d.dataSource.load 1 row = some ⟨list.map some, min row (list.length - 1)⟩ := by
  have htitles : ((List.range list.length).mapM fun r : ℕ => objectAtIndex (some list) r) =
      some (list.map some) := by
    refine mapM_eq_some_iff.2 (List.forall₂_iff_get.2 ⟨by simp, fun i hi _ => ?_⟩)
    have hlt : i < list.length := by simpa using hi
    simp [objectAtIndex_natCast, hlt]
  have hrows : d.numberOfRowsInComponent 1 = some list.length := by
    unfold numberOfRowsInComponent
    rw [h]
    rfl
  have hviews : (fun r : ℕ => d.viewForRow r 1) = fun r : ℕ => objectAtIndex (some list) r := by
    unfold viewForRow
    rw [h]
    rfl
  unfold UIPickerViewDataSource.load dataSource
  dsimp only
  rw [hrows, hviews]
  simp [htitles]

/-- A side column has its one row, at which it stays. -/
theorem load_side (d : STPickerSingle) (row : ℕ) :
    d.dataSource.load 0 row = some ⟨[none], 0⟩ ∧
      d.dataSource.load 2 row = some ⟨[d.titleUnit], 0⟩ := by
  constructor
  · simp [UIPickerViewDataSource.load, dataSource, numberOfRowsInComponent, viewForRow]
  · simp [UIPickerViewDataSource.load, dataSource, numberOfRowsInComponent, viewForRow]

/-- **A reload** clamps the selected row to the list. -/
theorem reloadAllComponents_eq (h : d.arrayData = some list) :
    d.reloadAllComponents = some { d with pickerView := ⟨columns list d.titleUnit
      (min ((d.pickerView.selectedRowInComponent 1).getD 0) (list.length - 1))⟩ } := by
  have hrange : List.range d.dataSource.numberOfComponents = [0, 1, 2] := rfl
  unfold reloadAllComponents UIPickerView.reloadAllComponents
  rw [hrange]
  simp [load_middle h, (load_side d _).1, (load_side d _).2, columns]

theorem shows_of_reload (h : d.arrayData = some list) (hne : list ≠ []) :
    ∃ d', d.reloadAllComponents = some d' ∧ d'._selectRow = d._selectRow ∧
      Shows list (min ((d.pickerView.selectedRowInComponent 1).getD 0) (list.length - 1)) d' := by
  have hpos := List.length_pos_iff.2 hne
  exact ⟨_, reloadAllComponents_eq h, rfl, h, rfl, by omega⟩

/-! ## What each event leaves -/

theorem Shows.length (h : Shows list row d) : d.pickerView.components.length = 3 := by
  rw [h.components]
  rfl

/-- The rows each column shows. -/
theorem Shows.inRange (h : Shows list row d) {row' component : ℕ}
    (hin : InRange d (.scroll row' component)) :
    component = 1 ∧ row' < list.length ∨ (component = 0 ∨ component = 2) ∧ row' = 0 := by
  obtain ⟨rows, hrows, hlt⟩ := hin
  unfold UIPickerView.numberOfRowsInComponent at hrows
  rw [h.components] at hrows
  match component with
  | 0 | 2 =>
    obtain rfl := Option.some.inj hrows
    exact Or.inr ⟨by simp, Nat.lt_one_iff.1 hlt⟩
  | 1 =>
    obtain rfl := Option.some.inj hrows
    exact Or.inl ⟨rfl, by simpa using hlt⟩
  | n + 3 => cases hrows

/-- **A list that is set** keeps the number and clamps the selected row. -/
theorem Shows.setArrayData (h : Shows list row d) {list' : List String} (hne : list' ≠ []) :
    ∃ d', d.setArrayData (some list') = some d' ∧ d'._selectRow = d._selectRow ∧
      Shows list' (min row (list'.length - 1)) d' := by
  have hdata : ({ d with
      arrayData := some list', selectedTitle := (some list').bind List.head? } :
      STPickerSingle).arrayData = some list' := rfl
  obtain ⟨d', hd', hrow, hshows⟩ := shows_of_reload hdata hne
  have hsel := h.selectedRow
  rw [hsel] at hshows
  exact ⟨d', hd', hrow, hshows⟩

/-- A unit that is set leaves both. -/
theorem Shows.setTitleUnit (h : Shows list row d) (titleUnit : Option String) :
    ∃ d', d.setTitleUnit titleUnit = some d' ∧ d'._selectRow = d._selectRow ∧
      Shows list row d' := by
  have hlt := h.row_lt
  have hne : list ≠ [] := List.length_pos_iff.1 (by omega)
  obtain ⟨d', hd', hrow, hshows⟩ := shows_of_reload (d := { d with titleUnit }) h.arrayData hne
  have hsel := h.selectedRow
  have hmin : min row (list.length - 1) = row := by omega
  rw [hsel, Option.getD_some, hmin] at hshows
  exact ⟨d', hd', hrow, hshows⟩

/-- A row selected in the middle column. -/
theorem Shows.selectMiddle (h : Shows list row d) {row' : ℕ} (hlt : row' < list.length) :
    ∃ p, d.pickerView.selectRow row' 1 = some p ∧
      ∀ n title,
        Shows list row' { d with _selectRow := n, selectedTitle := title, pickerView := p } := by
  refine ⟨_, if_pos (by rw [h.length]; omega), fun n title => ⟨h.arrayData, ?_, hlt⟩⟩
  dsimp only
  rw [h.components]
  rfl

/-- A side column turned to the row it has. -/
theorem Shows.selectSide (h : Shows list row d) {component : ℕ}
    (hc : component = 0 ∨ component = 2) :
    ∃ p, d.pickerView.selectRow 0 component = some p ∧
      ∀ n title,
        Shows list row { d with _selectRow := n, selectedTitle := title, pickerView := p } := by
  refine ⟨_, if_pos (by rw [h.length]; omega), fun n title => ⟨h.arrayData, ?_, h.row_lt⟩⟩
  dsimp only
  rw [h.components]
  rcases hc with rfl | rfl <;> rfl

/-- **A row selected by the program** is kept and shown. -/
theorem Shows.setSelectedRow (h : Shows list row d) {row' : ℕ} (hlt : row' < list.length) :
    ∃ d', d.setSelectedRow row' = some d' ∧ d'._selectRow = row' ∧ Shows list row' d' := by
  obtain ⟨p, hp, hshows⟩ := h.selectMiddle hlt
  refine ⟨{ d with _selectRow := row', pickerView := p }, ?_, rfl, hshows row' d.selectedTitle⟩
  unfold STPickerSingle.setSelectedRow
  dsimp only
  rw [hp]
  rfl

/-- The number and the title that a turn of a column leaves. -/
theorem didSelectRow_eq (h : d.arrayData = some list) {row' : ℕ} (hlt : row' < list.length)
    (component : ℕ) : d.didSelectRow row' component =
      some { d with _selectRow := row', selectedTitle := some list[row'] } := by
  unfold didSelectRow
  rw [h]
  simp [objectAtIndex_natCast, hlt]

theorem scroll_eq (h : d.arrayData = some list) {row' component : ℕ} {p : UIPickerView}
    (hp : d.pickerView.selectRow row' component = some p) (hlt : row' < list.length) :
    d.scroll row' component =
      some { d with _selectRow := row', selectedTitle := some list[row'], pickerView := p } := by
  unfold scroll
  rw [hp]
  exact didSelectRow_eq (d := { d with pickerView := p }) h hlt component

/-- **The middle column turned**: the row is kept and shown. -/
theorem Shows.scrollMiddle (h : Shows list row d) {row' : ℕ} (hlt : row' < list.length) :
    ∃ d', d.scroll row' 1 = some d' ∧ d'._selectRow = row' ∧ Shows list row' d' := by
  obtain ⟨p, hp, hshows⟩ := h.selectMiddle hlt
  exact ⟨_, scroll_eq h.arrayData hp hlt, rfl, hshows row' _⟩

/-- **A side column turned**: the first row is kept, and the one before shown. -/
theorem Shows.scrollSide (h : Shows list row d) {component : ℕ}
    (hc : component = 0 ∨ component = 2) :
    ∃ d', d.scroll 0 component = some d' ∧ d'._selectRow = 0 ∧ Shows list row d' := by
  have hlt := h.row_lt
  obtain ⟨p, hp, hshows⟩ := h.selectSide hc
  exact ⟨_, scroll_eq h.arrayData hp (by omega), rfl, hshows 0 _⟩

/-! ## Runs -/

/-- **One event**: in a state that agrees none raises, and the next agrees exactly under the
condition. -/
theorem Shows.step (h : Shows list row d) {ev : Event} (hin : InRange d ev) (hagree : Agrees d) :
    ∃ d', d.step ev = some d' ∧ (∃ list' row', Shows list' row' d') ∧
      (Agrees d' ↔ KeepsRow d ev) := by
  have hrow : d._selectRow = row := h.agrees_iff.1 hagree
  cases ev with
  | setArrayData list' =>
    have hpos := List.length_pos_iff.2 hin
    -- the selected row is clamped, the number stays
    obtain ⟨d', hd', hkept, hshows⟩ := h.setArrayData hin
    refine ⟨d', hd', ⟨_, _, hshows⟩, ?_⟩
    have hcond : KeepsRow d (.setArrayData list') ↔ row < list'.length := by
      unfold KeepsRow
      simp [h.selectedRow]
    rw [hshows.agrees_iff, hcond, hkept, hrow]
    omega
  | setSelectedRow row' =>
    have hlt : row' < list.length := by
      have hcount : row' < count d.arrayData := hin
      rw [h.arrayData] at hcount
      exact hcount
    obtain ⟨d', hd', hkept, hshows⟩ := h.setSelectedRow hlt
    exact ⟨d', hd', ⟨_, _, hshows⟩, iff_of_true (hshows.agrees_iff.2 hkept) trivial⟩
  | setTitleUnit titleUnit =>
    obtain ⟨d', hd', hkept, hshows⟩ := h.setTitleUnit titleUnit
    exact ⟨d', hd', ⟨_, _, hshows⟩,
      iff_of_true (hshows.agrees_iff.2 (hkept.trans hrow)) trivial⟩
  | scroll row' component =>
    rcases h.inRange hin with ⟨rfl, hlt⟩ | ⟨hc, rfl⟩
    · obtain ⟨d', hd', hkept, hshows⟩ := h.scrollMiddle hlt
      exact ⟨d', hd', ⟨_, _, hshows⟩,
        iff_of_true (hshows.agrees_iff.2 hkept) fun hne => absurd rfl hne⟩
    · -- the number becomes the first row, the middle column stays
      obtain ⟨d', hd', hkept, hshows⟩ := h.scrollSide hc
      refine ⟨d', hd', ⟨_, _, hshows⟩, ?_⟩
      have hne : component ≠ 1 := by omega
      have hcond : KeepsRow d (.scroll 0 component) ↔ row = 0 := by
        unfold KeepsRow
        simp [h.selectedRow, hne]
      rw [hshows.agrees_iff, hcond, hkept]
      exact eq_comm

/-- **The picker reports what its middle column shows, in every state of a run, exactly when every
event keeps the row.** -/
theorem single_agrees_iff {list : List String} (hne : list ≠ []) {d : STPickerSingle}
    (hd : (init.setupData (some list)).reloadAllComponents = some d) (evs : List Event)
    (hin : ∀ q ∈ visited step d evs, InRange q.1 q.2) :
    (∃ s, exec step d evs = some s ∧ (∀ q ∈ visited step d evs, Agrees q.1) ∧ Agrees s) ↔
      ∀ q ∈ visited step d evs, KeepsRow q.1 q.2 := by
  obtain ⟨d', hd', hrow, hshows⟩ := shows_of_reload (d := init.setupData (some list)) rfl hne
  obtain rfl := Option.some.inj (hd.symm.trans hd')
  have hagree : Agrees d := by
    rw [hshows.agrees_iff, hrow]
    exact (Nat.zero_min _).symm
  have hrun := exec_always_iff (I := fun d => ∃ list row, Shows list row d) (P := Agrees)
    (C := KeepsRow) (fun s ev ⟨_, _, hs⟩ hin hagree => hs.step hin hagree) evs ⟨_, _, hshows⟩ hin
  rw [hrun]
  exact and_iff_right hagree

/-- A list of two texts, shown. -/
def twoRows : STPickerSingle where
  arrayData := some ["a", "b"]
  selectedTitle := none
  titleUnit := some ""
  _selectRow := 0
  pickerView := ⟨columns ["a", "b"] (some "") 0⟩

theorem twoRows_shown : (init.setupData (some ["a", "b"])).reloadAllComponents = some twoRows := by
  decide

/-- A column at the side turned at the first row, the second row selected, and a longer list. -/
theorem single_agrees_one_run :
    ∃ s,
      exec step twoRows [.scroll 0 2, .setSelectedRow 1, .setArrayData ["c", "d", "e"]] = some s ∧
      (∀ q ∈ visited step twoRows [.scroll 0 2, .setSelectedRow 1, .setArrayData ["c", "d", "e"]],
        Agrees q.1) ∧ Agrees s :=
  (single_agrees_iff (List.cons_ne_nil "a" ["b"]) twoRows_shown
    [.scroll 0 2, .setSelectedRow 1, .setArrayData ["c", "d", "e"]] (by decide)).2 (by decide)

/-- **A side column reports the first row, and a shorter list raises**, where the second row was
selected. -/
theorem side_column_and_shorter_list :
    (init.setupData (some ["a", "b"])).reloadAllComponents = some twoRows ∧
    (∃ s, exec step twoRows [.scroll 1 1, .scroll 0 0] = some s ∧
      s.pickerView.highlighted 1 = some (some "b") ∧ s.selectedOk = some (some "a", 0) ∧
      ¬ Agrees s) ∧
    ∃ s, exec step twoRows [.scroll 1 1, .setArrayData ["c"]] = some s ∧
      s.pickerView.highlighted 1 = some (some "c") ∧ s.selectedOk = none ∧ ¬ Agrees s := by
  refine ⟨twoRows_shown, ?_, ?_⟩
  · have hrun : (exec step twoRows [.scroll 1 1, .scroll 0 0]).map
        (fun s => (s.pickerView.highlighted 1, s.selectedOk)) =
        some (some (some "b"), some (some "a", 0)) := by
      decide
    obtain ⟨s, hs, hread⟩ := Option.map_eq_some_iff.1 hrun
    obtain ⟨htext, hok⟩ := Prod.mk.inj hread
    refine ⟨s, hs, htext, hok, ?_⟩
    rintro ⟨row, title, -, htitle, hok'⟩
    rw [htext] at htitle
    rw [hok] at hok'
    obtain rfl : "b" = title := by simpa using htitle
    simp at hok'
  · have hrun : (exec step twoRows [.scroll 1 1, .setArrayData ["c"]]).map
        (fun s => (s.pickerView.highlighted 1, s.selectedOk)) = some (some (some "c"), none) := by
      decide
    obtain ⟨s, hs, hread⟩ := Option.map_eq_some_iff.1 hrun
    obtain ⟨htext, hok⟩ := Prod.mk.inj hread
    refine ⟨s, hs, htext, hok, ?_⟩
    rintro ⟨row, title, -, -, hok'⟩
    rw [hok] at hok'
    cases hok'

end STPickerSingle

end RCSdk
