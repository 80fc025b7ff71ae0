import RCSdk.Proof.DateSelect

/-!
# The last rows of the date wheels

`setSelectLastOne` takes the fields of the selected date for rows: the year less the least one, the
month and the day less one. The last rows are those of today, and the first rows of the begin
time's year and month are the begin time's, not the first of the year and of the month.

* `selectLastOne_iff`: after any scrolls the last rows are selected, and today is delivered,
  exactly when the selected date is today, less what the begin time takes off its own year and
  month.
* `earlier_year_selected`: a year before the last is selected.
-/

namespace RCSdk

open Gregorian Trans
open DatePicker (IsBeginTime)

namespace STPickerDate

variable {today begin : Date} {d : STPickerDate}

/-- The date of the fields. -/
def selected (d : STPickerDate) : Date := ⟨d.year, d.month, d.day⟩

/-- The indices that `setSelectLastOne` computes. -/
def withLast (d : STPickerDate) : STPickerDate :=
  { d with firIndex := d.year - d.yearLeast, secIndex := d.month - 1, thdIndex := d.day - 1 }

/-- The body of the loop, on a loaded picker. -/
theorem selectColumn_loaded (today : Date) (d : STPickerDate) (fir sec thd : ℕ) :
    selectColumn (d.loaded today fir sec thd) 0 =
        some (d.loaded today d.firIndex.toNat sec thd) ∧
      selectColumn (d.loaded today fir sec thd) 1 =
        some (d.loaded today fir d.secIndex.toNat thd) ∧
      selectColumn (d.loaded today fir sec thd) 2 =
        some (d.loaded today fir sec d.thdIndex.toNat) :=
  ⟨(selectRow_loaded today d fir sec thd _).1, (selectRow_loaded today d fir sec thd _).2.1,
    (selectRow_loaded today d fir sec thd _).2.2⟩

/-- **The rows that `setSelectLastOne` selects** of three wheels. -/
theorem setSelectLastOne_eq (today : Date) (hc : d.componentNum = 3) :
    d.setSelectLastOne today = some (loaded today d.withLast d.withLast.firIndex.toNat
      d.withLast.secIndex.toNat d.withLast.thdIndex.toNat) := by
  obtain ⟨fir, sec, thd, hreload⟩ := reload_three (d := d.withLast) today hc
  have hcolumns : List.range (loaded today d.withLast fir sec thd).componentNum = [0, 1, 2] := by
    change List.range d.componentNum = _
    rw [hc]
    rfl
  unfold setSelectLastOne
  change (d.withLast.reloadAllComponents today).bind _ = _
  rw [hreload, Option.bind_some, hcolumns]
  simp only [List.foldlM_cons, List.foldlM_nil, Option.bind_eq_bind,
    (selectColumn_loaded today _ _ _ _).1, (selectColumn_loaded today _ _ _ _).2.1,
    (selectColumn_loaded today _ _ _ _).2.2, Option.bind_some, Option.pure_def]

/-- Today, less what the begin time takes off its own year and month. -/
def lastDate (today begin : Date) : Date where
  year := today.year
  month := today.month - if begin.year = today.year then begin.month - 1 else 0
  day := today.day -
    if begin.year = today.year ∧ begin.month = today.month then begin.day - 1 else 0

/-- The last row of every wheel is selected. -/
def AtLastRows (today : Date) (d : STPickerDate) : Prop :=
  ∀ component < 3, ∃ row, d.pickerView.selectedRowInComponent component = some row ∧
    (row : ℤ) + 1 = d.numberOfRowsInComponent today component

/-- The fields hold a date that is not before the range. -/
def FieldsFrom (begin : Date) (d : STPickerDate) : Prop :=
  begin.year ≤ d.year ∧ 1 ≤ d.month ∧ 1 ≤ d.day

/-- **The fields of `lastDate` are decoded to today.** -/
theorem decoded_withLast (hs : Spans today begin d) (h : d.selected = lastDate today begin) :
    d.withLast.decoded = today := by
  have hyear : d.year = today.year := congrArg Date.year h
  have hmonth : d.month = today.month -
      if begin.year = today.year then begin.month - 1 else 0 := congrArg Date.month h
  have hday : d.day = today.day -
      if begin.year = today.year ∧ begin.month = today.month then begin.day - 1 else 0 :=
    congrArg Date.day h
  have hleast := hs.yearLeast
  have hmonthLeast := hs.monthLeast
  have hdayLeast := hs.dayLeast
  unfold withLast decoded
  by_cases hy : begin.year = today.year
  · simp only [hy, true_and, if_true] at hmonth hday
    have h0 : d.year - d.yearLeast = 0 := by omega
    ext
    · dsimp only
      omega
    · simp only [h0, if_true]
      omega
    · simp only [h0, true_and]
      split_ifs at hday ⊢ <;> omega
  · simp only [hy, false_and, if_false] at hmonth hday
    have h0 : d.year - d.yearLeast ≠ 0 := by omega
    ext
    · dsimp only
      omega
    · simp only [h0, if_false]
      omega
    · simp only [h0, false_and, if_false]
      omega

/-- **Last rows are those of the fields of `lastDate`.** -/
theorem selected_of_lastRows (hs : Spans today begin d) (ht : today.Valid)
    (h0 : d.withLast.firIndex + 1 = d.withLast.numberOfRowsInComponent today 0)
    (h1 : d.withLast.secIndex + 1 = d.withLast.numberOfRowsInComponent today 1)
    (h2 : d.withLast.thdIndex + 1 = d.withLast.numberOfRowsInComponent today 2) :
    d.selected = lastDate today begin := by
  have hspans : Spans today begin d.withLast := ⟨hs.1, hs.2, hs.3, hs.4, hs.5⟩
  have hfir : d.withLast.firIndex = d.year - begin.year := by rw [← hs.yearLeast]; rfl
  have hsec : d.withLast.secIndex = d.month - 1 := rfl
  have hthd : d.withLast.thdIndex = d.day - 1 := rfl
  have hyear : d.year = today.year := by
    have hsum : d.withLast.numberOfRowsInComponent today 0 = d.yearSum := rfl
    rw [hsum, hs.yearSum, hfir] at h0
    omega
  have hmonth : d.month = today.month -
      if begin.year = today.year then begin.month - 1 else 0 := by
    rw [hspans.months, hfir, hsec, hyear, if_pos (Int.sub_add_cancel _ _)] at h1
    split_ifs at h1 ⊢ <;> omega
  obtain ⟨dy, dm, -⟩ := hspans.decoded_eq
  rw [hfir, hyear] at dy
  rw [hfir, hsec, hyear, hmonth] at dm
  have hdm : d.withLast.decoded.month = today.month := by
    rw [dm]
    split_ifs <;> omega
  have hdy : d.withLast.decoded.year = today.year := by omega
  have hm1 := ht.month_pos
  have hm12 := ht.month_le
  rw [hspans.days (by omega) (by omega), if_pos ⟨hdy, hdm⟩, hfir, hsec, hthd, hyear] at h2
  ext
  · exact hyear
  · exact hmonth
  · change d.day = today.day -
      if begin.year = today.year ∧ begin.month = today.month then begin.day - 1 else 0
    split_ifs at hmonth h2 ⊢ <;> omega

/-- The rows of today are the last ones. -/
theorem lastRow_of_decoded (hs : Spans today begin d) (ht : today.Valid)
    (hdec : d.decoded = today) :
    d.firIndex + 1 = d.numberOfRowsInComponent today 0 ∧
      d.secIndex + 1 = d.numberOfRowsInComponent today 1 ∧
      d.thdIndex + 1 = d.numberOfRowsInComponent today 2 := by
  obtain ⟨hy, hm, hd⟩ := hs.decoded_eq
  have hm1 := ht.month_pos
  have hm12 := ht.month_le
  have hdays := hs.days (by rw [hdec]; exact hm1) (by rw [hdec]; exact hm12)
  rw [hdec] at hy hm hd hdays
  rw [if_pos ⟨rfl, rfl⟩] at hdays
  refine ⟨?_, ?_, ?_⟩
  · change d.firIndex + 1 = d.yearSum
    rw [hs.yearSum]
    omega
  · rw [hs.months, if_pos hy.symm]
    omega
  · rw [hdays]
    omega

/-- **The last rows are selected, and today is delivered, exactly from the fields of
`lastDate`.** -/
theorem lastRows_iff (hs : Spans today begin d) (hc : d.componentNum = 3) (ht : today.Valid)
    (hle : begin ≤ today) (hf : FieldsFrom begin d) :
    ∃ d', d.setSelectLastOne today = some d' ∧
      ((AtLastRows today d' ∧ ∃ e, d'.selectedOk = some (e, today)) ↔
        d.selected = lastDate today begin) := by
  have hspans : Spans today begin d.withLast := ⟨hs.1, hs.2, hs.3, hs.4, hs.5⟩
  refine ⟨_, setSelectLastOne_eq today hc, ?_, fun h => ?_⟩
  · rintro ⟨hlast, -⟩
    have hindex : 0 ≤ d.withLast.firIndex ∧ 0 ≤ d.withLast.secIndex ∧ 0 ≤ d.withLast.thdIndex := by
      obtain ⟨hy, hm, hd⟩ := hf
      have hfir : d.withLast.firIndex = d.year - begin.year := by rw [← hs.yearLeast]; rfl
      have hsec : d.withLast.secIndex = d.month - 1 := rfl
      have hthd : d.withLast.thdIndex = d.day - 1 := rfl
      omega
    have hrow : ∀ component < 3, ∀ i : ℤ, 0 ≤ i →
        (loaded today d.withLast d.withLast.firIndex.toNat d.withLast.secIndex.toNat
          d.withLast.thdIndex.toNat).pickerView.selectedRowInComponent component = some i.toNat →
        i + 1 = d.withLast.numberOfRowsInComponent today component := by
      intro component hcomponent i hi hsel
      obtain ⟨row, hrow, hcount⟩ := hlast component hcomponent
      obtain rfl := Option.some.inj (hsel.symm.trans hrow)
      rw [Int.toNat_of_nonneg hi] at hcount
      exact hcount
    exact selected_of_lastRows hs ht (hrow 0 (by omega) _ hindex.1 rfl)
      (hrow 1 (by omega) _ hindex.2.1 rfl) (hrow 2 (by omega) _ hindex.2.2 rfl)
  · have hdec := decoded_withLast hs h
    have hin := hspans.inRows_of_between ht hle (le_refl today) hdec
    have hshows := shows_loaded hspans hc hin
    obtain ⟨e, he⟩ := hshows.delivers
    refine ⟨fun component hcomponent => ?_, e, he.trans (congrArg (fun y => some (e, y)) hdec)⟩
    obtain ⟨h0, h1, h2⟩ := lastRow_of_decoded hshows.spans ht hdec
    obtain ⟨hfir, hsec, hthd⟩ := hshows.inRows
    rw [selectedRowInComponent_eq, hshows.selectedRows]
    match component, hcomponent with
    | 0, _ => exact ⟨_, rfl, by omega⟩
    | 1, _ => exact ⟨_, rfl, by omega⟩
    | 2, _ => exact ⟨_, rfl, by omega⟩

/-! ## Runs -/

/-- The fields after a scroll are those of the indices. -/
theorem selected_of_scroll {row component : ℕ} {d' : STPickerDate}
    (h : DatePicker.scroll today row component d = some d') : d'.selected = d'.decoded := by
  unfold DatePicker.scroll didSelectRow at h
  simp only [Option.bind_eq_bind, Option.bind_eq_some_iff] at h
  obtain ⟨-, -, d₁, -, d₂, -, hreload⟩ := h
  unfold reloadData at hreload
  simp only [Option.bind_eq_bind, Option.bind_eq_some_iff] at hreload
  obtain ⟨fir, -, sec, -, thd, -, hd⟩ := hreload
  obtain rfl := Option.some.inj hd
  rfl

/-- **The fields hold a date of the range** when they hold today or are read back. -/
theorem fieldsFrom_of_valid (hx : d.selected.Valid) (hbx : begin ≤ d.selected) :
    FieldsFrom begin d := by
  rw [Date.le_iff] at hbx
  refine ⟨?_, hx.month_pos, hx.day_pos⟩
  change begin.year ≤ d.selected.year
  omega

end STPickerDate

namespace DatePicker

open STPickerDate

variable {today begin : Date}

/-- The wheels stay in agreement through any scrolls, and the fields from the begin time on. -/
theorem fieldsFrom_scrolls (ht : today.Valid) (hb : begin.Valid) (hle : begin ≤ today)
    (scrolls : List (ℕ × ℕ)) (s : DatePicker) (h : Shows today begin s.view)
    (hf : FieldsFrom begin s.view) :
    ∃ s', exec (step today) s (scrolls.map fun q => .scroll q.1 q.2) = some s' ∧
      Shows today begin s'.view ∧ FieldsFrom begin s'.view := by
  refine exec_invariant
    (P := fun s : DatePicker => Shows today begin s.view ∧ FieldsFrom begin s.view)
    (fun s a ha hs => ?_) ⟨h, hf⟩
  obtain ⟨q, -, rfl⟩ := List.mem_map.1 ha
  obtain ⟨s', hstep, hshows, hsame | hscroll⟩ := shows_scroll ht hb hle hs.1 q.1 q.2
  · exact ⟨s', hstep, hshows, hsame ▸ hs.2⟩
  · have hread := selected_of_scroll hscroll
    obtain ⟨hv, hbx, -⟩ := hshows.spans.decoded_between ht hb hshows.inRows
    exact ⟨s', hstep, hshows, fieldsFrom_of_valid (hread ▸ hv) (hread ▸ hbx)⟩

/-- **After any scrolls `setSelectLastOne` selects the last row of each wheel, and today is
delivered, exactly when the selected date is today, less what the begin time takes off its own year
and month.** -/
theorem selectLastOne_iff (ht : today.Valid) (hb : IsBeginTime today begin)
    (scrolls : List (ℕ × ℕ)) :
    ∃ s d, exec (step today) (init today)
        (.setBeginDay begin :: .show :: scrolls.map fun q => .scroll q.1 q.2) = some s ∧
      s.view.setSelectLastOne today = some d ∧
      ((AtLastRows today d ∧ ∃ e, d.selectedOk = some (e, today)) ↔
        s.view.selected = lastDate today begin) := by
  obtain ⟨d₀, ⟨hy, hm, hd⟩, hshows, hexec⟩ := exec_shown ht hb
  have hfields : FieldsFrom begin d₀ := by
    have hle := hb.2.1
    rw [Date.le_iff] at hle
    unfold FieldsFrom
    rw [hy, hm, hd]
    exact ⟨by omega, ht.month_pos, ht.day_pos⟩
  obtain ⟨s, hs, hshows, hf⟩ :=
    fieldsFrom_scrolls ht hb.1 hb.2.1 scrolls ⟨d₀, begin⟩ hshows hfields
  obtain ⟨d, hd, hiff⟩ := lastRows_iff hshows.spans hshows.components ht hb.2.1 hf
  exact ⟨s, d, (hexec _).trans hs, hd, hiff⟩

/-- A picker that is only shown. -/
theorem selectLastOne_unscrolled :
    ∃ s d, exec (step ⟨2020, 3, 5⟩) (init ⟨2020, 3, 5⟩) [.setBeginDay ⟨2018, 9, 9⟩, .show] = some s ∧
      s.view.setSelectLastOne ⟨2020, 3, 5⟩ = some d ∧ AtLastRows ⟨2020, 3, 5⟩ d ∧
      ∃ e, d.selectedOk = some (e, ⟨2020, 3, 5⟩) := by
  have hshown : ∀ s, exec (step ⟨2020, 3, 5⟩) (init ⟨2020, 3, 5⟩)
      [.setBeginDay ⟨2018, 9, 9⟩, .show] = some s →
      s.view.selected = lastDate ⟨2020, 3, 5⟩ ⟨2018, 9, 9⟩ := by
    decide +kernel
  have ht : (⟨2020, 3, 5⟩ : Date).Valid := by decide
  have hb : IsBeginTime ⟨2020, 3, 5⟩ ⟨2018, 9, 9⟩ := by decide
  obtain ⟨s, d, hs, hd, hiff⟩ := selectLastOne_iff ht hb []
  exact ⟨s, d, hs, hd, hiff.2 (hshown s hs)⟩

/-- The wheel of the year is turned to the middle one: that year is delivered, not today. -/
theorem earlier_year_selected :
    (do
      let s ← exec (step ⟨2020, 3, 5⟩) (init ⟨2020, 3, 5⟩)
        [.setBeginDay ⟨2018, 9, 9⟩, .show, .scroll 1 0]
      let d ← s.view.setSelectLastOne ⟨2020, 3, 5⟩
      let delivered ← d.selectedOk
      some delivered.2) = some (⟨2019, 1, 1⟩ : Date) := by
  decide +kernel

end DatePicker

end RCSdk
