import RCSdk.Lib.Run
import RCSdk.Proof.DateRange

/-!
# What the date wheels show and what is delivered

A scroll takes the new row into an index, reloads the wheels, whose rows may become fewer, and
reads all three indices back from the wheels. Before the reload the first two indices are the
selected rows (`Ready`); after it all three are, and the labels are those of the indices (`Shows`).
The fall through from the month to the day is undone by the reading back.

* `wheels_agree`: the date `selectedOk` delivers is the highlighted one, and one of the range.
-/

namespace RCSdk

open Gregorian Trans

namespace STPickerDate

/-- The labels of a wheel. -/
def wheel (today : Date) (d : STPickerDate) (component : ℕ) : List (Option String) :=
  (List.range (d.numberOfRowsInComponent today component).toNat).map fun row =>
    some (d.viewForRow row component)

/-- The rows selected in the picker. -/
def selectedRows (d : STPickerDate) : List ℕ := d.pickerView.components.map (·.selectedRow)

/-- **Before a reload**: the first two indices are the selected rows, and there are such rows. -/
structure Ready (today begin : Date) (d : STPickerDate) : Prop where
  spans : Spans today begin d
  components : d.componentNum = 3
  rows : ∃ day : ℕ, d.selectedRows = [d.firIndex.toNat, d.secIndex.toNat, day]
  fir : 0 ≤ d.firIndex ∧ d.firIndex < d.numberOfRowsInComponent today 0
  sec : 0 ≤ d.secIndex ∧ d.secIndex < d.numberOfRowsInComponent today 1

/-- **After it**: the wheels show the rows of the three indices. -/
structure Shows (today begin : Date) (d : STPickerDate) : Prop where
  spans : Spans today begin d
  components : d.componentNum = 3
  inRows : InRows today d
  pickerView : d.pickerView.components =
    [⟨wheel today d 0, d.firIndex.toNat⟩, ⟨wheel today d 1, d.secIndex.toNat⟩,
      ⟨wheel today d 2, d.thdIndex.toNat⟩]

variable {today begin : Date} {d : STPickerDate}

theorem Shows.selectedRows (h : Shows today begin d) :
    d.selectedRows = [d.firIndex.toNat, d.secIndex.toNat, d.thdIndex.toNat] := by
  unfold STPickerDate.selectedRows
  rw [h.pickerView]
  rfl

/-! ## The reload -/

theorem load_eq (today : Date) (d : STPickerDate) (component row : ℕ) :
    (d.dataSource today).load component row =
      some ⟨wheel today d component,
        min row ((d.numberOfRowsInComponent today component).toNat - 1)⟩ := by
  have htitles := List.mapM_pure (m := Option)
    (l := List.range (d.numberOfRowsInComponent today component).toNat)
    (f := fun row => some (d.viewForRow row component))
  unfold UIPickerViewDataSource.load wheel dataSource
  simp only [Option.bind_eq_bind, Option.bind_some]
  rw [show (fun r => some (some (d.viewForRow r component))) =
    fun r => (pure (some (d.viewForRow r component)) : Option (Option String)) from rfl, htitles]
  rfl

/-- A selected row, from the list of them. -/
theorem selectedRowInComponent_eq (d : STPickerDate) (component : ℕ) :
    d.pickerView.selectedRowInComponent component = d.selectedRows[component]? := by
  unfold UIPickerView.selectedRowInComponent selectedRows
  rw [List.getElem?_map]

/-- The picker with its three wheels loaded, and these rows selected. -/
def loaded (today : Date) (d : STPickerDate) (fir sec thd : ℕ) : STPickerDate :=
  { d with pickerView :=
    ⟨[⟨wheel today d 0, fir⟩, ⟨wheel today d 1, sec⟩, ⟨wheel today d 2, thd⟩]⟩ }

/-- `reloadAllComponents` with three wheels, in the rows that were selected. -/
theorem reloadAllComponents_eq (today : Date) (hc : d.componentNum = 3) (fir sec thd : ℕ)
    (h : ∀ c < 3, (d.pickerView.selectedRowInComponent c).getD 0 = [fir, sec, thd].getD c 0) :
    d.reloadAllComponents today = some (d.loaded today
      (min fir ((d.numberOfRowsInComponent today 0).toNat - 1))
      (min sec ((d.numberOfRowsInComponent today 1).toNat - 1))
      (min thd ((d.numberOfRowsInComponent today 2).toNat - 1))) := by
  have hn : (d.dataSource today).numberOfComponents = 3 := hc
  have h0 := h 0 (by omega)
  have h1 := h 1 (by omega)
  have h2 := h 2 (by omega)
  unfold reloadAllComponents UIPickerView.reloadAllComponents
  rw [hn]
  simp only [List.range_succ, List.range_zero, List.nil_append, List.cons_append, List.mapM_cons,
    List.mapM_nil, load_eq, h0, h1, h2, Option.bind_eq_bind, Option.bind_some, Option.pure_def]
  rfl

/-- The picker with the index of its third row read back, and the date of its rows. -/
def readBack (d : STPickerDate) (thd : ℕ) : STPickerDate :=
  let d : STPickerDate := { d with thdIndex := thd }
  { d with year := d.decoded.year, month := d.decoded.month, day := d.decoded.day }

/-- `reloadData`, when the first two indices are the selected rows. -/
theorem reloadData_eq (hf : 0 ≤ d.firIndex) (hs : 0 ≤ d.secIndex) {thd : ℕ}
    (h : d.selectedRows = [d.firIndex.toNat, d.secIndex.toNat, thd]) :
    d.reloadData = some (d.readBack thd) := by
  have ef : (d.firIndex.toNat : ℤ) = d.firIndex := Int.toNat_of_nonneg hf
  have es : (d.secIndex.toNat : ℤ) = d.secIndex := Int.toNat_of_nonneg hs
  unfold reloadData readBack
  simp only [selectedRowInComponent_eq, h, Option.bind_eq_bind, List.getElem?_cons_zero,
    List.getElem?_cons_succ, Option.bind_some, ef, es]

/-- **A reload settles.** The indices read back are rows, and the wheels show them. -/
theorem Ready.settles (h : Ready today begin d) (ht : today.Valid) (hb : begin.Valid)
    (hle : begin ≤ today) :
    ∃ d', (d.reloadAllComponents today).bind reloadData = some d' ∧ Shows today begin d' := by
  obtain ⟨day, hrows⟩ := h.rows
  obtain ⟨hs, hc, -, hfir, hsec⟩ := h
  have hdays := hs.days_pos ht hb hle hsec
  -- only the day may have to be clamped
  set thd := min day ((d.numberOfRowsInComponent today 2).toNat - 1) with hthd
  have hreload := reloadAllComponents_eq today hc d.firIndex.toNat d.secIndex.toNat day (by
    intro c hc
    rw [selectedRowInComponent_eq, hrows]
    rfl)
  rw [Nat.min_eq_left (by omega), Nat.min_eq_left (by omega), ← hthd] at hreload
  set e := d.loaded today d.firIndex.toNat d.secIndex.toNat thd with he
  refine ⟨e.readBack thd, ?_, ⟨hs.1, hs.2, hs.3, hs.4, hs.5⟩, hc,
    ⟨hfir, hsec, Int.natCast_nonneg _, ?_⟩, rfl⟩
  · have hsel : e.selectedRows = [e.firIndex.toNat, e.secIndex.toNat, thd] := rfl
    rw [hreload, Option.bind_some]
    exact reloadData_eq (d := e) hfir.1 hsec.1 hsel
  · change (thd : ℤ) < d.numberOfRowsInComponent today 2
    omega

/-! ## A scroll -/

/-- `selectRow:inComponent:`, with the components spelled out. -/
theorem selectRow_eq {cs : List PickerComponent} (h : d.pickerView.components = cs)
    {row component : ℕ} (hc : component < cs.length) :
    d.selectRow row component = some { d with pickerView :=
      ⟨cs.modify component fun c => { c with selectedRow := row }⟩ } := by
  unfold selectRow UIPickerView.selectRow
  rw [h, if_pos hc]
  rfl

/-- A year other than the first and the last has all twelve months. -/
theorem Spans.months_middle (h : Spans today begin d) (hfir : 0 < d.firIndex)
    (hlast : d.firIndex + 1 < d.numberOfRowsInComponent today 0) :
    d.numberOfRowsInComponent today 1 = 12 := by
  change d.firIndex + 1 < d.yearSum at hlast
  rw [h.yearSum] at hlast
  rw [h.months, if_neg (by omega), if_neg (by omega)]
  omega

theorem Spans.months_le (h : Spans today begin d) (ht : today.Valid) (hb : begin.Valid) :
    d.numberOfRowsInComponent today 1 ≤ 12 := by
  rw [h.months]
  have := ht.month_le
  have := hb.month_pos
  split_ifs <;> omega

/-- **A new row of the year.** In the first and the last year the other wheels start again; a
middle one has a row for every month. -/
theorem Shows.takeYear (h : Shows today begin d) (ht : today.Valid) (hb : begin.Valid)
    (hle : begin ≤ today) {row : ℕ} (hrow : row < (d.numberOfRowsInComponent today 0).toNat) :
    ∃ d', (d.selectRow row 0).bind (takeRow row 0) = some d' ∧ Ready today begin d' := by
  obtain ⟨hs, hc, ⟨hfir, hsec, -⟩, hp⟩ := h
  rw [selectRow_eq hp (by simp), Option.bind_some]
  unfold takeRow
  dsimp only
  split_ifs with hne
  · have hlen : (wheel today d 0).length = (d.numberOfRowsInComponent today 0).toNat := by
      simp [wheel]
    simp only [List.modify_zero_cons, UIPickerView.numberOfRowsInComponent,
      List.getElem?_cons_zero, Option.map_some, Option.bind_eq_bind, Option.bind_some, hlen]
    have hrow' : 0 ≤ (row : ℤ) ∧ (row : ℤ) < d.numberOfRowsInComponent today 0 := by omega
    split_ifs with hend
    · rw [selectRow_eq rfl (by simp), Option.bind_some, selectRow_eq rfl (by simp)]
      refine ⟨_, rfl, ⟨hs.1, hs.2, hs.3, hs.4, hs.5⟩, hc, ⟨0, rfl⟩, hrow', Int.le_refl _, ?_⟩
      exact Spans.months_pos ⟨hs.1, hs.2, hs.3, hs.4, hs.5⟩ ht hb hle
    · refine ⟨_, rfl, ⟨hs.1, hs.2, hs.3, hs.4, hs.5⟩, hc, ⟨d.thdIndex.toNat, rfl⟩, hrow', hsec.1, ?_⟩
      -- the row of the month is kept, and there is one
      have hs' : Spans today begin { d with firIndex := row } := ⟨hs.1, hs.2, hs.3, hs.4, hs.5⟩
      have hfirst : 0 < (row : ℤ) := by omega
      have hyear : (row : ℤ) + 1 < d.numberOfRowsInComponent today 0 := by omega
      have hmiddle := hs'.months_middle hfirst hyear
      have hle12 := hs.months_le ht hb
      change d.secIndex < numberOfRowsInComponent today { d with firIndex := row } 1
      omega
  · refine ⟨_, rfl, ⟨hs.1, hs.2, hs.3, hs.4, hs.5⟩, hc, ⟨d.thdIndex.toNat, ?_⟩, hfir, hsec⟩
    have : row = d.firIndex.toNat := by omega
    rw [this]
    rfl

theorem Shows.takeMonth (h : Shows today begin d) {row : ℕ}
    (hrow : row < (d.numberOfRowsInComponent today 1).toNat) :
    ∃ d', (d.selectRow row 1).bind (takeRow row 1) = some d' ∧ Ready today begin d' := by
  obtain ⟨hs, hc, ⟨hfir, hsec, -⟩, hp⟩ := h
  rw [selectRow_eq hp (by simp), Option.bind_some]
  refine ⟨_, rfl, ⟨hs.1, hs.2, hs.3, hs.4, hs.5⟩, hc, ⟨d.thdIndex.toNat, rfl⟩, hfir,
    Int.natCast_nonneg _, ?_⟩
  change (row : ℤ) < d.numberOfRowsInComponent today 1
  omega

theorem Shows.takeDay (h : Shows today begin d) {row : ℕ} :
    ∃ d', (d.selectRow row 2).bind (takeRow row 2) = some d' ∧ Ready today begin d' := by
  obtain ⟨hs, hc, ⟨hfir, hsec, -⟩, hp⟩ := h
  rw [selectRow_eq hp (by simp), Option.bind_some]
  exact ⟨_, rfl, ⟨hs.1, hs.2, hs.3, hs.4, hs.5⟩, hc, ⟨row, rfl⟩, hfir, hsec⟩

/-- **A wheel turned to a row it displays leaves the wheels in agreement.** -/
theorem Shows.scroll (h : Shows today begin d) (ht : today.Valid) (hb : begin.Valid)
    (hle : begin ≤ today) {row component rows : ℕ}
    (hn : d.pickerView.numberOfRowsInComponent component = some rows) (hrow : row < rows) :
    ∃ d', DatePicker.scroll today row component d = some d' ∧ Shows today begin d' := by
  have hwheel : ∀ c, (wheel today d c).length = (d.numberOfRowsInComponent today c).toNat := by
    intro c
    simp [wheel]
  unfold UIPickerView.numberOfRowsInComponent at hn
  rw [h.pickerView] at hn
  have htake : ∃ d', (d.selectRow row component).bind (takeRow row component) = some d' ∧
      Ready today begin d' := by
    match component with
    | 0 =>
      obtain rfl := Option.some.inj hn
      exact h.takeYear ht hb hle (by rw [← hwheel]; exact hrow)
    | 1 =>
      obtain rfl := Option.some.inj hn
      exact h.takeMonth (by rw [← hwheel]; exact hrow)
    | 2 => exact h.takeDay
    | n + 3 => cases hn
  obtain ⟨d₁, h1, hready⟩ := htake
  obtain ⟨d₂, h2, hshows⟩ := hready.settles ht hb hle
  obtain ⟨d₀, h0, h1⟩ := Option.bind_eq_some_iff.1 h1
  refine ⟨d₂, ?_, hshows⟩
  unfold DatePicker.scroll didSelectRow
  simp only [Option.bind_eq_bind, h0, h1, Option.bind_some]
  exact h2

/-! ## The picker shown, and what it delivers -/

/-- **The wheels of a fresh picker.** -/
theorem shows_fresh (ht : today.Valid) (hb : begin.Valid) (hle : begin ≤ today)
    (hs : Spans today begin d) (hc : d.componentNum = 3) (hp : d.pickerView = .empty)
    (hfir : d.firIndex = 0) (hsec : d.secIndex = 0) (hthd : d.thdIndex = 0) :
    ∃ d', d.reloadAllComponents today = some d' ∧ Shows today begin d' := by
  have hyears : 0 < d.numberOfRowsInComponent today 0 := by
    change 0 < d.yearSum
    rw [hs.yearSum]
    rw [Date.le_iff] at hle
    omega
  have hmonths := hs.months_pos ht hb hle
  have hsec' : 0 ≤ d.secIndex ∧ d.secIndex < d.numberOfRowsInComponent today 1 := by omega
  have hdays := hs.days_pos ht hb hle hsec'
  have hreload := reloadAllComponents_eq today hc 0 0 0 (by
    intro c hc
    rw [hp]
    match c, hc with
    | 0, _ | 1, _ | 2, _ => rfl)
  simp only [Nat.zero_min] at hreload
  have hfir' : 0 ≤ d.firIndex ∧ d.firIndex < d.numberOfRowsInComponent today 0 := by omega
  have hthd' : 0 ≤ d.thdIndex ∧ d.thdIndex < d.numberOfRowsInComponent today 2 := by omega
  refine ⟨_, hreload, ⟨hs.1, hs.2, hs.3, hs.4, hs.5⟩, hc,
    ⟨hfir', hsec', hthd'⟩, ?_⟩
  · change [_, _, _] = [PickerComponent.mk _ d.firIndex.toNat,
      PickerComponent.mk _ d.secIndex.toNat, PickerComponent.mk _ d.thdIndex.toNat]
    rw [hfir, hsec, hthd]
    rfl

/-- The label on the highlighted row of a wheel. -/
theorem Shows.highlighted (h : Shows today begin d) :
    d.pickerView.highlighted 0 = some (some (toString d.decoded.year)) ∧
      d.pickerView.highlighted 1 = some (some (toString d.decoded.month)) ∧
      d.pickerView.highlighted 2 = some (some (toString d.decoded.day)) := by
  obtain ⟨-, -, ⟨hfir, hsec, hthd⟩, hp⟩ := h
  have hlabel : ∀ (c : ℕ) (i : ℤ), 0 ≤ i → i < d.numberOfRowsInComponent today c →
      (wheel today d c)[i.toNat]? = some (some (d.viewForRow i.toNat c)) := by
    intro c i h0 hlt
    unfold wheel
    rw [List.getElem?_map, List.getElem?_range (by omega)]
    rfl
  unfold UIPickerView.highlighted
  rw [hp]
  refine ⟨?_, ?_, ?_⟩
  · change (wheel today d 0)[d.firIndex.toNat]? = _
    rw [hlabel 0 _ hfir.1 hfir.2, viewForRow, Int.toNat_of_nonneg hfir.1]
    rfl
  · change (wheel today d 1)[d.secIndex.toNat]? = _
    rw [hlabel 1 _ hsec.1 hsec.2, viewForRow, Int.toNat_of_nonneg hsec.1]
    unfold decoded
    split_ifs <;> rfl
  · change (wheel today d 2)[d.thdIndex.toNat]? = _
    rw [hlabel 2 _ hthd.1 hthd.2, viewForRow, Int.toNat_of_nonneg hthd.1]
    · unfold decoded
      split_ifs <;> rfl
    · intro h; cases h
    · intro h; cases h

/-- **`selectedOk` delivers the date of the indices.** -/
theorem Shows.delivers (h : Shows today begin d) :
    ∃ d', d.selectedOk = some (d', d.decoded) := by
  obtain ⟨hfir, hsec, hthd⟩ := h.inRows
  have hread : d.readBack d.thdIndex.toNat = { d with
      year := d.decoded.year, month := d.decoded.month, day := d.decoded.day } := by
    unfold readBack
    rw [Int.toNat_of_nonneg hthd.1]
  unfold selectedOk
  rw [reloadData_eq hfir.1 hsec.1 h.selectedRows, hread]
  exact ⟨_, rfl⟩

end STPickerDate

/-! ## Runs -/

namespace DatePicker

open STPickerDate

variable {today begin : Date}

/-- A scroll keeps the wheels in agreement; to a row that is not displayed there is none. -/
theorem shows_scroll (ht : today.Valid) (hb : begin.Valid) (hle : begin ≤ today) {s : DatePicker}
    (h : Shows today begin s.view) (row component : ℕ) :
    ∃ s', step today s (.scroll row component) = some s' ∧ Shows today begin s'.view ∧
      (s' = s ∨ scroll today row component s.view = some s'.view) := by
  simp only [step]
  split
  · exact ⟨s, rfl, h, Or.inl rfl⟩
  · rename_i rows hrows
    split_ifs with hlt
    · obtain ⟨d, hd, hshows⟩ := h.scroll ht hb hle hrows hlt
      exact ⟨{ s with view := d }, by rw [hd]; rfl, hshows, Or.inr hd⟩
    · exact ⟨s, rfl, h, Or.inl rfl⟩

/-- The wheels of a picker stay in agreement through any scrolls. -/
theorem shows_scrolls (ht : today.Valid) (hb : begin.Valid) (hle : begin ≤ today)
    (scrolls : List (ℕ × ℕ)) (s : DatePicker) (h : Shows today begin s.view) :
    ∃ s', exec (step today) s (scrolls.map fun q => .scroll q.1 q.2) = some s' ∧
      Shows today begin s'.view := by
  refine exec_invariant (P := fun s : DatePicker => Shows today begin s.view) (fun s a ha hs => ?_) h
  obtain ⟨q, -, rfl⟩ := List.mem_map.1 ha
  obtain ⟨s', hstep, hshows, -⟩ := shows_scroll ht hb hle hs q.1 q.2
  exact ⟨s', hstep, hshows⟩

/-- **A picker that was given its begin time and then shown**: its wheels are in agreement, and
its fields still hold today. -/
theorem exec_shown (ht : today.Valid) (hb : IsBeginTime today begin) :
    ∃ d : STPickerDate, (d.year = today.year ∧ d.month = today.month ∧ d.day = today.day) ∧
      Shows today begin d ∧
      ∀ events, exec (step today) (init today) (.setBeginDay begin :: .show :: events) =
        exec (step today) ⟨d, begin⟩ events := by
  obtain ⟨hv, hle, hy⟩ := hb
  have hset : (setupUI today).setBeginTime today (yyyyMMdd begin) = _ := setBeginTime_day hv hy
  have hspans : Spans today begin ((setupUI today).setBeginTime today (yyyyMMdd begin)) :=
    (spans_setBeginDay_iff hv hy).2 rfl
  rw [hset] at hspans
  obtain ⟨d₀, h0, hshows⟩ := shows_fresh ht hv hle hspans rfl rfl rfl rfl rfl
  have h1 : step today (init today) (.setBeginDay begin) =
      some ⟨(setupUI today).setBeginTime today (yyyyMMdd begin), begin⟩ :=
    if_pos ⟨hv, hle, hy⟩
  have h2 : step today ⟨(setupUI today).setBeginTime today (yyyyMMdd begin), begin⟩ .show =
      some ⟨d₀, begin⟩ := by
    rw [hset]
    simp only [step, h0, Option.map_some]
  -- a reload changes the picker view and nothing else
  have hfields : d₀.year = today.year ∧ d₀.month = today.month ∧ d₀.day = today.day := by
    unfold reloadAllComponents at h0
    obtain ⟨p, -, hp⟩ := Option.bind_eq_some_iff.1 h0
    obtain rfl := Option.some.inj hp
    exact ⟨rfl, rfl, rfl⟩
  refine ⟨d₀, hfields, hshows, fun events => ?_⟩
  rw [exec, h1, Option.bind_some, exec, h2, Option.bind_some]

/-- **The date delivered is the one the wheels highlight, it exists, and it lies between the begin
time and today**, after any scrolls of a picker that was given its begin time and then shown. -/
theorem wheels_agree (ht : today.Valid) (hb : IsBeginTime today begin) (scrolls : List (ℕ × ℕ)) :
    ∃ s d x, exec (step today) (init today)
        (.setBeginDay begin :: .show :: scrolls.map fun q => .scroll q.1 q.2) = some s ∧
      s.view.selectedOk = some (d, x) ∧
      s.view.pickerView.highlighted 0 = some (some (toString x.year)) ∧
      s.view.pickerView.highlighted 1 = some (some (toString x.month)) ∧
      s.view.pickerView.highlighted 2 = some (some (toString x.day)) ∧
      x.Valid ∧ begin ≤ x ∧ x ≤ today := by
  obtain ⟨d₀, -, hshows, hexec⟩ := exec_shown ht hb
  obtain ⟨s, hs, hshows⟩ := shows_scrolls ht hb.1 hb.2.1 scrolls ⟨d₀, begin⟩ hshows
  obtain ⟨d, hd⟩ := hshows.delivers
  obtain ⟨l0, l1, l2⟩ := hshows.highlighted
  exact ⟨s, d, s.view.decoded, (hexec _).trans hs, hd, l0, l1, l2,
    hshows.spans.decoded_between ht hb.1 hshows.inRows⟩

/-- The month is turned past the begin's and the year to the last. -/
theorem wheels_agree_one_run :
    ∃ s d x, exec (step ⟨2020, 3, 5⟩) (init ⟨2020, 3, 5⟩)
        [.setBeginDay ⟨2018, 9, 9⟩, .show, .scroll 2 1, .scroll 30 2, .scroll 2 0] = some s ∧
      s.view.selectedOk = some (d, x) ∧
      s.view.pickerView.highlighted 0 = some (some (toString x.year)) ∧
      s.view.pickerView.highlighted 1 = some (some (toString x.month)) ∧
      s.view.pickerView.highlighted 2 = some (some (toString x.day)) ∧
      x.Valid ∧ (⟨2018, 9, 9⟩ : Date) ≤ x ∧ x ≤ ⟨2020, 3, 5⟩ :=
  wheels_agree (by decide) (by decide) [(2, 1), (30, 2), (2, 0)]

end DatePicker

end RCSdk
