import RCSdk.Proof.CascadeAgreement

/-!
# The last rows of the cascading picker

`setSelectLastOne` turns the counts of three lists into rows. It finds the third list under the
second text alone; the data source has it under both texts.

* `selectLast_iff`: the last rows are selected and reported exactly when the list under the second
  text alone is as long as the one under both.
-/

namespace RCSdk

namespace PickerData

variable (data : PickerData)

/-- The last text of the first level, and of its list. -/
def lastFirst : Option String := data.first.getLast?

def lastSeconds : Option (List String) := objectForKey data.second data.lastFirst

def lastSecond : Option String := lastObject data.lastSeconds

/-- The third list of the two, by the key of the data source. -/
def lastThirds : Option (List String) :=
  objectForKey data.third (pairKey data.lastFirst data.lastSecond)

/-- The list that `setSelectLastOne` finds. -/
def plainThirds : Option (List String) := objectForKey data.third data.lastSecond

end PickerData

namespace STRCCommonPickerView

/-- **The last entries are selected and reported**, each at a row in range. -/
structure SelectsLast (data : PickerData) (d : STRCCommonPickerView) : Prop where
  rows : d.rows = [data.first.length - 1, count data.lastSeconds - 1, count data.lastThirds - 1]
  inRange : ∀ i < 3, ∃ row n, d.pickerView.selectedRowInComponent i = some row ∧
    d.numberOfRowsInComponent i = some n ∧ row < n
  reported : ∃ fir sec thd, data.lastFirst = some fir ∧ data.lastSecond = some sec ∧
    lastObject data.lastThirds = some thd ∧
    d.selectedOk = some (some [("1", fir), ("2", sec), ("3", thd)])

variable {data : PickerData} {d d' : STRCCommonPickerView} {before : ℕ → Option ℕ}

/-! ## Selecting -/

theorem selectRowAt_natCast (row component : ℕ) :
    d.selectRowAt before row component = d.selectRow row component := by
  unfold selectRowAt
  cases hsel : d.pickerView.selectedRowInComponent component with
  | none =>
    have hnone : ¬ (d.selectRow row component).isSome := by
      rw [selectRow_isSome_iff, ← selectedRow_isSome_iff, hsel]
      exact Bool.false_ne_true
    rw [Option.not_isSome_iff_eq_none] at hnone
    rw [hnone]
    rfl
  | some selected => simp

/-- Where the third index is a row, it is selected. -/
theorem selectRowAt_spec {row : ℤ} {component : ℕ}
    (h : d.selectRowAt before row component = some d') :
    ∃ row' : ℕ, (0 ≤ row → (row' : ℤ) = row) ∧ d' = d.turned row' component := by
  simp only [selectRowAt, Option.bind_eq_bind, Option.bind_eq_some_iff] at h
  obtain ⟨selected, -, row', hrow, h⟩ := h
  refine ⟨row', fun hpos => ?_, selectRow_spec h⟩
  rw [if_pos hpos] at hrow
  obtain rfl := Option.some.inj hrow
  exact Int.toNat_of_nonneg hpos

/-- A state that has these rows selected, whatever its third index is. -/
structure Selects (data : PickerData) (fir sec thd : ℕ) (d : STRCCommonPickerView) : Prop where
  has : Has data d
  rows : d.rows = [fir, sec, thd]
  firIndex : d.firIndex = fir
  secIndex : d.secIndex = sec

/-- **A selection by the program**: whatever the third index is, the first two rows are selected. -/
theorem Has.selectFirIndexAt_eq (before : ℕ → Option ℕ) (h : Has data d)
    (hlen : d.pickerView.components.length = 3)
    {year month : ℕ} (day : ℤ) (h₁ : HasIndex d.firstArr year)
    (h₂ : HasIndex (d.secondArr year) month) :
    ∃ e, d.selectFirIndexAt before year month day = e.selectRowAt before day 2 ∧
      e.pickerView.components.length = 3 ∧ (∃ row, Selects data year month row e) ∧
      e.thdIndex = d.thdIndex := by
  obtain ⟨-, key, -, hkey, -⟩ := h₁.text
  obtain ⟨-, key', -, hkey', -⟩ := h₂.text
  rw [secondArr, hkey, Option.join_some] at hkey'
  have hrange : List.range d.componentNum = [0, 1, 2] := by
    rw [h.componentNum]
    rfl
  set e : STRCCommonPickerView :=
    { d with firIndex := year, secIndex := month, firKey := some key, secKey := some key' } with he
  have helen : e.pickerView.components.length = 3 := hlen
  have h0 : e.selectRowAt before (year : ℤ) 0 = some (e.turned year 0) := by
    rw [selectRowAt_natCast]
    exact selectRow_eq (by omega)
  have h1 : (e.turned year 0).selectRowAt before (month : ℤ) 1 =
      some ((e.turned year 0).turned month 1) := by
    rw [selectRowAt_natCast]
    exact selectRow_eq (by rw [turned_length]; omega)
  -- the row of the third column is whatever it was
  have herows : e.rows.length = 3 := by
    unfold STRCCommonPickerView.rows
    rw [List.length_map, helen]
  obtain ⟨r₀, r₁, r₂, hr⟩ := List.length_eq_three.1 herows
  refine ⟨(e.turned year 0).turned month 1, ?_, by rw [turned_length, turned_length, helen],
    ⟨r₂, ⟨h.firstArr, h.secondDict, h.thirdDict, h.componentNum⟩, ?_, rfl, rfl⟩, rfl⟩
  · unfold STRCCommonPickerView.selectFirIndexAt
    rw [if_neg h₁.count_ne_zero]
    simp only [hkey, Option.bind_eq_bind, Option.bind_some, hkey', hrange]
    rw [← he]
    simp [h0, h1]
  · rw [STRCCommonPickerView.rows_turned, STRCCommonPickerView.rows_turned, hr]
    rfl

/-- The third row selected after the first two. -/
theorem Selects.turned {fir sec thd : ℕ} (h : Selects data fir sec thd d) (row : ℕ) :
    Selects data fir sec row (d.turned row 2) := by
  refine ⟨⟨h.has.firstArr, h.has.secondDict, h.has.thirdDict, h.has.componentNum⟩, ?_, h.firIndex,
    h.secIndex⟩
  rw [STRCCommonPickerView.rows_turned, h.rows]
  rfl

/-- With no row for the third index nothing is reported. -/
theorem Has.selectedOk_eq_none (h : Has data d) (hne : data.first ≠ []) (hthd : d.thdIndex = -1) :
    d.selectedOk = none := by
  have hjoin : ∀ array, (objectAtIndex array (-1)).join = none := by
    intro array
    have hnot : ¬ HasIndex array (-1) := by
      rintro ⟨texts, -, hpos, -⟩
      omega
    rw [← objectAtIndex_join_isSome_iff, Option.not_isSome_iff_eq_none] at hnot
    exact hnot
  have hcount : count d.firstArr ≠ 0 := by
    rw [h.firstArr]
    exact fun h0 => hne (List.length_eq_zero_iff.1 h0)
  unfold selectedOk
  rw [if_neg hcount, h.componentNum, hthd]
  simp [hjoin]

/-! ## The last rows -/

/-- The last index of a list that is not empty, and the text there. -/
theorem hasIndex_last {array : Option (List String)} (h : count array ≠ 0) :
    HasIndex array ((count array - 1 : ℕ) : ℤ) ∧
      objectAtIndex array ((count array - 1 : ℕ) : ℤ) = some (lastObject array) := by
  have hin : HasIndex array ((count array - 1 : ℕ) : ℤ) := inBounds_of_lt_count (by omega)
  refine ⟨hin, ?_⟩
  obtain ⟨texts, rfl, hpos, hlt⟩ := hin
  have hcount : count (some texts) = texts.length := rfl
  unfold objectAtIndex lastObject
  rw [Option.bind_some, List.getLast?_eq_getElem?]
  dsimp only
  rw [if_pos ⟨hpos, hlt⟩, Int.toNat_natCast, hcount]

/-- The lists of the last entries, by their rows. -/
structure LastIndices (data : PickerData) (d : STRCCommonPickerView) : Prop where
  first : HasIndex d.firstArr ((data.first.length - 1 : ℕ) : ℤ)
  first_text : objectAtIndex d.firstArr ((data.first.length - 1 : ℕ) : ℤ) = some data.lastFirst
  seconds : d.secondArr ((data.first.length - 1 : ℕ) : ℤ) = data.lastSeconds
  second : HasIndex data.lastSeconds ((count data.lastSeconds - 1 : ℕ) : ℤ)
  second_text : objectAtIndex data.lastSeconds ((count data.lastSeconds - 1 : ℕ) : ℤ) =
    some data.lastSecond
  thirds : d.thirdArr ((data.first.length - 1 : ℕ) : ℤ) ((count data.lastSeconds - 1 : ℕ) : ℤ) =
    data.lastThirds
  third : HasIndex data.lastThirds ((count data.lastThirds - 1 : ℕ) : ℤ)
  third_text : objectAtIndex data.lastThirds ((count data.lastThirds - 1 : ℕ) : ℤ) =
    some (lastObject data.lastThirds)

/-- **No list on the way to the last entries is empty.** -/
theorem Has.lastIndices (h : Has data d) (hdata : data.Complete) (hne : data.first ≠ []) :
    LastIndices data d := by
  have hfirst : count d.firstArr = data.first.length := by
    rw [h.firstArr]
    rfl
  have hcount : count d.firstArr ≠ 0 := by
    rw [hfirst]
    exact fun h0 => hne (List.length_eq_zero_iff.1 h0)
  have hlast : lastObject d.firstArr = data.lastFirst := by
    rw [h.firstArr]
    rfl
  obtain ⟨h₁, ht₁⟩ := hasIndex_last hcount
  rw [hfirst] at h₁ ht₁
  rw [hlast] at ht₁
  have hseconds : d.secondArr ((data.first.length - 1 : ℕ) : ℤ) = data.lastSeconds := by
    rw [secondArr, ht₁, h.secondDict]
    rfl
  have hzero₂ := h.second_zero hdata h₁
  rw [hseconds] at hzero₂
  obtain ⟨h₂, ht₂⟩ := hasIndex_last hzero₂.count_ne_zero
  have hthirds : d.thirdArr ((data.first.length - 1 : ℕ) : ℤ)
      ((count data.lastSeconds - 1 : ℕ) : ℤ) = data.lastThirds := by
    rw [thirdArr, hseconds, ht₁, ht₂, h.thirdDict]
    rfl
  have hsec : HasIndex (d.secondArr ((data.first.length - 1 : ℕ) : ℤ))
      ((count data.lastSeconds - 1 : ℕ) : ℤ) := by
    rw [hseconds]
    exact h₂
  have hzero₃ := h.third_zero hdata h₁ hsec
  rw [hthirds] at hzero₃
  obtain ⟨h₃, ht₃⟩ := hasIndex_last hzero₃.count_ne_zero
  exact ⟨h₁, ht₁, hseconds, h₂, ht₂, hthirds, h₃, ht₃⟩

/-- The data source and the third index of the state that `setSelectLastOne` leaves, and its first
two rows. -/
theorem Has.setSelectLastOne_eq (before : ℕ → Option ℕ) (h : Has data d) (hdata : data.Complete)
    (hne : data.first ≠ []) (hlen : d.pickerView.components.length = 3) :
    ∃ e, d.setSelectLastOne before =
        e.selectRowAt before ((count data.plainThirds : ℤ) - 1) 2 ∧
      e.pickerView.components.length = 3 ∧
      (∃ row, Selects data (data.first.length - 1) (count data.lastSeconds - 1) row e) ∧
      e.thdIndex = (count data.plainThirds : ℤ) - 1 := by
  set e₀ : STRCCommonPickerView := { d with
    firIndex := (data.first.length : ℤ) - 1
    secIndex := (count data.lastSeconds : ℤ) - 1
    thdIndex := (count data.plainThirds : ℤ) - 1 } with he₀
  have hhas : Has data e₀ := ⟨h.firstArr, h.secondDict, h.thirdDict, h.componentNum⟩
  have hlast := hhas.lastIndices hdata hne
  -- neither list is empty, so a count less one is a row
  have hfir : ((data.first.length - 1 : ℕ) : ℤ) = (data.first.length : ℤ) - 1 := by
    have hpos := List.length_pos_iff.2 hne
    omega
  have hsec : ((count data.lastSeconds - 1 : ℕ) : ℤ) = (count data.lastSeconds : ℤ) - 1 := by
    have hpos := hlast.second.count_ne_zero
    omega
  have heq : d.setSelectLastOne before = e₀.selectFirIndexAt before
      ((data.first.length : ℤ) - 1) ((count data.lastSeconds : ℤ) - 1)
      ((count data.plainThirds : ℤ) - 1) := by
    have h₁ : (count d.firstArr : ℤ) = data.first.length := by
      rw [h.firstArr]
      rfl
    have h₂ : objectForKey d.secondDict (lastObject d.firstArr) = data.lastSeconds := by
      rw [h.firstArr, h.secondDict]
      rfl
    have h₃ : objectForKey d.thirdDict (lastObject data.lastSeconds) = data.plainThirds := by
      rw [h.thirdDict]
      rfl
    unfold setSelectLastOne
    dsimp only
    rw [h₁, h₂, h₃]
  have hsecond : HasIndex (e₀.secondArr ((data.first.length - 1 : ℕ) : ℤ))
      ((count data.lastSeconds - 1 : ℕ) : ℤ) := by
    rw [hlast.seconds]
    exact hlast.second
  obtain ⟨e, he, helen, hsel, hthd⟩ := Has.selectFirIndexAt_eq before hhas hlen
    ((count data.plainThirds : ℤ) - 1) hlast.first hsecond
  refine ⟨e, ?_, helen, hsel, hthd⟩
  rw [heq, ← hfir, ← hsec, he]

/-- The rows that are selected at the end are in range and reported, if the third index is there. -/
theorem Selects.selectsLast (hdata : data.Complete) (hne : data.first ≠ [])
    (h : Selects data (data.first.length - 1) (count data.lastSeconds - 1)
      (count data.lastThirds - 1) d)
    (hthd : d.thdIndex = ((count data.lastThirds - 1 : ℕ) : ℤ)) : SelectsLast data d := by
  have hlast := h.has.lastIndices hdata hne
  have hat : At data (data.first.length - 1) (count data.lastSeconds - 1)
      (count data.lastThirds - 1) d :=
    ⟨h.has, h.rows, h.firIndex, h.secIndex, hlast.first, hlast.seconds.symm ▸ hlast.second,
      hlast.thirds.symm ▸ hlast.third⟩
  obtain ⟨t₁, t₂, t₃, ht⟩ := hat.texts
  have h₁ : data.lastFirst = some t₁ := Option.some.inj (hlast.first_text.symm.trans ht.first)
  have h₂ : data.lastSecond = some t₂ := by
    have := ht.second_text
    rw [hlast.seconds, hlast.second_text] at this
    exact Option.some.inj this
  have h₃ : lastObject data.lastThirds = some t₃ := by
    have := ht.third_text
    rw [hlast.thirds, hlast.third_text] at this
    exact Option.some.inj this
  -- each row is one less than the count of its column
  obtain ⟨hn₀, hn₁, hn₂⟩ := hat.numberOfRows
  have hpos₀ := hlast.first.count_ne_zero
  have hpos₁ := hlast.second.count_ne_zero
  have hpos₂ := hlast.third.count_ne_zero
  rw [hlast.seconds] at hn₁
  rw [hlast.thirds] at hn₂
  refine ⟨h.rows, fun i hi => ?_, t₁, t₂, t₃, h₁, h₂, h₃, ?_⟩
  · match i with
    | 0 =>
      refine ⟨_, _, hat.selected 0, hn₀, ?_⟩
      have hcount : count d.firstArr = data.first.length := by
        rw [h.has.firstArr]
        rfl
      omega
    | 1 => exact ⟨_, _, hat.selected 1, hn₁, by omega⟩
    | 2 => exact ⟨_, _, hat.selected 2, hn₂, by omega⟩
    | n + 3 => omega
  · rw [hat.selectedOk_eq ht, hlast.thirds, hthd, hlast.third_text, h₃]
    rfl

/-- **The last rows are selected and reported exactly when the list under the second text alone
is as long as the one under both texts.** -/
theorem selectLast_iff (before : ℕ → Option ℕ) (hdata : data.Complete) (hne : data.first ≠ [])
    (h : Has data d) (hlen : d.pickerView.components.length = 3) :
    (∃ d', d.setSelectLastOne before = some d' ∧ SelectsLast data d') ↔
      count data.plainThirds = count data.lastThirds := by
  obtain ⟨e, he, helen, ⟨row, hsel⟩, hthd⟩ := h.setSelectLastOne_eq before hdata hne hlen
  have hpos := (h.lastIndices hdata hne).third.count_ne_zero
  rw [he]
  constructor
  · rintro ⟨d', hd', hlast⟩
    obtain ⟨row', hrow', rfl⟩ := selectRowAt_spec hd'
    have hrows := (hsel.turned row').rows
    rw [hlast.rows] at hrows
    obtain rfl : count data.lastThirds - 1 = row' := by simpa using hrows
    by_cases hzero : count data.plainThirds = 0
    · -- there is no row to report
      have hnone : (e.turned (count data.lastThirds - 1) 2).selectedOk = none := by
        refine (hsel.turned _).has.selectedOk_eq_none hne ?_
        have : (e.turned (count data.lastThirds - 1) 2).thdIndex = e.thdIndex := rfl
        rw [this, hthd, hzero]
        rfl
      obtain ⟨t₁, t₂, t₃, -, -, -, hok⟩ := hlast.reported
      rw [hnone] at hok
      cases hok
    · have := hrow' (by omega)
      omega
  · intro hcount
    have hday : (count data.plainThirds : ℤ) - 1 = ((count data.lastThirds - 1 : ℕ) : ℤ) := by
      omega
    refine ⟨e.turned (count data.lastThirds - 1) 2, ?_, (hsel.turned _).selectsLast hdata hne ?_⟩
    · rw [hday, selectRowAt_natCast]
      exact selectRow_eq (by omega)
    · rw [← hday, ← hthd]
      rfl

/-- One text at each level, and a list under the second alone. -/
def bothKeys : PickerData where
  first := ["x"]
  second := some fun key => if key = "x" then some ["p"] else none
  third := some fun key =>
    if key = "x-p" then some ["1", "2"] else if key = "p" then some ["3", "4"] else none
  levels := fun _ => rfl

theorem complete_bothKeys : bothKeys.Complete := by
  refine ⟨rfl, fun fir hfir => ?_⟩
  obtain rfl := List.mem_singleton.1 hfir
  refine ⟨["p"], rfl, by simp, fun sec hsec => ?_⟩
  obtain rfl := List.mem_singleton.1 hsec
  exact ⟨["1", "2"], by decide +kernel, by simp⟩

/-- The list under the second text alone is as long. -/
theorem selectLast_bothKeys : ∃ d, (init.setupData bothKeys).reloadPickerView = some d ∧
    ∃ d', d.setSelectLastOne some = some d' ∧ SelectsLast bothKeys d' := by
  obtain ⟨d, hd, -, hat⟩ := at_setupData complete_bothKeys (by simp [bothKeys])
  exact ⟨d, hd, (selectLast_iff some complete_bothKeys (by simp [bothKeys]) hat.has hat.length).2
    (by decide +kernel)⟩

/-- **There is no list under the second text alone**: the third index is -1, and the confirmation
raises. -/
theorem selectLast_raises : twoByTwo.Complete ∧
    ∃ d, (init.setupData twoByTwo).reloadPickerView = some d ∧
      ∃ d', d.setSelectLastOne some = some d' ∧ d'.thdIndex = -1 ∧ d'.selectedOk = none ∧
        ¬ SelectsLast twoByTwo d' := by
  refine ⟨complete_twoByTwo, ?_⟩
  have hrun : ((init.setupData twoByTwo).reloadPickerView.bind fun d =>
      (d.setSelectLastOne some).map fun d' => (d'.thdIndex, d'.selectedOk)) =
      some (-1, none) := by
    decide +kernel
  obtain ⟨d, hd, hrun⟩ := Option.bind_eq_some_iff.1 hrun
  obtain ⟨d', hd', hread⟩ := Option.map_eq_some_iff.1 hrun
  obtain ⟨hthd, hok⟩ := Prod.mk.inj hread
  refine ⟨d, hd, d', hd', hthd, hok, fun hlast => ?_⟩
  obtain ⟨t₁, t₂, t₃, -, -, -, hsome⟩ := hlast.reported
  rw [hok] at hsome
  cases hsome

end STRCCommonPickerView

end RCSdk
