import RCSdk.Proof.DateWheels
import RCSdk.Spec.DateColumns

/-!
# The rows the date picker selects by itself

`selectYear:selectMonth:selectDay:` turns a date into three indices by the rules that `reloadData`
reads indices by, so it comes back (`decoded_withDate`, `withDate_decoded`), and selects their rows
(`selectYear_eq`).

* `selectYear_round_trips`: a date of the range is delivered as it was selected, from rows that
  are displayed, and rows that are displayed are those of a date of the range.
-/

namespace RCSdk

open Gregorian Trans
open DatePicker (IsBeginTime)

namespace STPickerDate

variable {today begin : Date} {d : STPickerDate}

/-! ## Loading and selecting -/

/-- A reload always goes through, in whatever rows. -/
theorem reload_three (today : Date) (hc : d.componentNum = 3) :
    ∃ fir sec thd, d.reloadAllComponents today = some (d.loaded today fir sec thd) :=
  ⟨_, _, _, reloadAllComponents_eq today hc
    ((d.pickerView.selectedRowInComponent 0).getD 0)
    ((d.pickerView.selectedRowInComponent 1).getD 0)
    ((d.pickerView.selectedRowInComponent 2).getD 0) (by
      intro c hc
      match c, hc with
      | 0, _ | 1, _ | 2, _ => rfl)⟩

/-- Selecting a row of a loaded picker. -/
theorem selectRow_loaded (today : Date) (d : STPickerDate) (fir sec thd row : ℕ) :
    (d.loaded today fir sec thd).selectRow row 0 = some (d.loaded today row sec thd) ∧
      (d.loaded today fir sec thd).selectRow row 1 = some (d.loaded today fir row thd) ∧
      (d.loaded today fir sec thd).selectRow row 2 = some (d.loaded today fir sec row) := by
  have h : ∀ component < 3, (d.loaded today fir sec thd).selectRow row component = _ :=
    fun component hc => selectRow_eq rfl hc
  exact ⟨h 0 (by omega), h 1 (by omega), h 2 (by omega)⟩

/-- The picker of a range, loaded in the rows of its three indices, shows them. -/
theorem shows_loaded (hs : Spans today begin d) (hc : d.componentNum = 3) (hin : InRows today d) :
    Shows today begin
      (d.loaded today d.firIndex.toNat d.secIndex.toNat d.thdIndex.toNat) :=
  ⟨⟨hs.1, hs.2, hs.3, hs.4, hs.5⟩, hc, ⟨hin.1, hin.2, hin.3⟩, rfl⟩

/-! ## A date -/

/-- The indices that `selectYear:selectMonth:selectDay:` computes. -/
def withDate (d : STPickerDate) (x : Date) : STPickerDate :=
  let d : STPickerDate :=
    { d with year := x.year, month := x.month, day := x.day, firIndex := x.year - d.yearLeast }
  let d : STPickerDate :=
    { d with secIndex := if d.firIndex = 0 then x.month - d.monthLeast else x.month - 1 }
  { d with thdIndex := if d.firIndex = 0 ∧ d.secIndex = 0 then x.day - d.dayLeast else x.day - 1 }

/-- **They are decoded to the date.** -/
theorem decoded_withDate (d : STPickerDate) (x : Date) : (d.withDate x).decoded = x := by
  unfold withDate decoded
  ext
  · exact Int.sub_add_cancel _ _
  · dsimp only
    split_ifs <;> omega
  · dsimp only
    split_ifs <;> omega

/-- **The rows that are selected are those indices**, whatever was selected before. -/
theorem selectYear_eq (today : Date) (hc : d.componentNum = 3) (x : Date) :
    d.selectYear today x.year x.month x.day = some (loaded today (d.withDate x)
      (d.withDate x).firIndex.toNat (d.withDate x).secIndex.toNat
      (d.withDate x).thdIndex.toNat) := by
  obtain ⟨fir, sec, thd, hreload⟩ := reload_three (d := d.withDate x) today hc
  unfold selectYear
  change ((d.withDate x).reloadAllComponents today).bind _ = _
  rw [hreload, Option.bind_some]
  change Option.bind ((loaded today (d.withDate x) fir sec thd).selectRow
    (d.withDate x).firIndex.toNat 0) _ = _
  rw [(selectRow_loaded today _ _ _ _ _).1, Option.bind_some]
  change Option.bind ((loaded today (d.withDate x) _ sec thd).selectRow
    (d.withDate x).secIndex.toNat 1) _ = _
  rw [(selectRow_loaded today _ _ _ _ _).2.1, Option.bind_some]
  exact (selectRow_loaded today _ _ _ _ _).2.2

/-- **A date of the range is selected in rows that are displayed.** -/
theorem shows_withDate (hs : Spans today begin d) (hc : d.componentNum = 3) {x : Date}
    (hx : x.Valid) (hbx : begin ≤ x) (hxt : x ≤ today) :
    Shows today begin (loaded today (d.withDate x) (d.withDate x).firIndex.toNat
      (d.withDate x).secIndex.toNat (d.withDate x).thdIndex.toNat) := by
  have hspans : Spans today begin (d.withDate x) := ⟨hs.1, hs.2, hs.3, hs.4, hs.5⟩
  exact shows_loaded hspans hc (hspans.inRows_of_between hx hbx hxt (decoded_withDate d x))

/-- The indices of rows come back from the date they are decoded to. -/
theorem withDate_decoded (d : STPickerDate) :
    (d.withDate d.decoded).firIndex = d.firIndex ∧
      (d.withDate d.decoded).secIndex = d.secIndex ∧
      (d.withDate d.decoded).thdIndex = d.thdIndex := by
  have hfir : (d.withDate d.decoded).firIndex = d.firIndex := Int.add_sub_cancel _ _
  have hsec : (d.withDate d.decoded).secIndex = d.secIndex := by
    change (if (d.withDate d.decoded).firIndex = 0 then _ else _) = _
    rw [hfir]
    unfold decoded
    dsimp only
    split_ifs <;> omega
  have hthd : (d.withDate d.decoded).thdIndex = d.thdIndex := by
    change (if (d.withDate d.decoded).firIndex = 0 ∧ (d.withDate d.decoded).secIndex = 0 then _
      else _) = _
    rw [hfir, hsec]
    unfold decoded
    dsimp only
    split_ifs <;> omega
  exact ⟨hfir, hsec, hthd⟩

/-- **A date of the range is delivered as it was selected**, from rows that are displayed. -/
theorem Spans.delivers_date (hs : Spans today begin d) (hc : d.componentNum = 3) {x : Date}
    (hx : x.Valid) (hbx : begin ≤ x) (hxt : x ≤ today) :
    ∃ d' e, d.selectYear today x.year x.month x.day = some d' ∧
      d'.selectedOk = some (e, x) ∧
      ∀ component < 3, ∃ row, d'.pickerView.selectedRowInComponent component = some row ∧
        (row : ℤ) < d'.numberOfRowsInComponent today component := by
  have hshows := shows_withDate hs hc hx hbx hxt
  obtain ⟨e, he⟩ := hshows.delivers
  refine ⟨_, e, selectYear_eq today hc x, ?_, fun component hcomponent => ?_⟩
  · rw [he]
    exact congrArg (fun y => some (e, y)) (decoded_withDate d x)
  · obtain ⟨hfir, hsec, hthd⟩ := hshows.inRows
    rw [selectedRowInComponent_eq, hshows.selectedRows]
    match component, hcomponent with
    | 0, _ => exact ⟨_, rfl, by omega⟩
    | 1, _ => exact ⟨_, rfl, by omega⟩
    | 2, _ => exact ⟨_, rfl, by omega⟩

/-- **Rows that are displayed are those of a date of the range.** -/
theorem Spans.date_of_rows (hs : Spans today begin d) (hc : d.componentNum = 3) (ht : today.Valid)
    (hb : begin.Valid) {fir sec thd : ℕ} (hin : InRows today (d.atRows fir sec thd)) :
    ∃ (x : Date) (d' : STPickerDate), x.Valid ∧ begin ≤ x ∧ x ≤ today ∧
      d.selectYear today x.year x.month x.day = some d' ∧ d'.selectedRows = [fir, sec, thd] := by
  obtain ⟨hx, hbx, hxt⟩ := (hs.atRows fir sec thd).decoded_between ht hb hin
  refine ⟨_, _, hx, hbx, hxt, selectYear_eq today hc _, ?_⟩
  obtain ⟨hfir, hsec, hthd⟩ := withDate_decoded (d.atRows fir sec thd)
  set x := (d.atRows fir sec thd).decoded
  have hfir' : (d.withDate x).firIndex = fir := hfir
  have hsec' : (d.withDate x).secIndex = sec := hsec
  have hthd' : (d.withDate x).thdIndex = thd := hthd
  rw [(shows_withDate hs hc hx hbx hxt).selectedRows]
  change [(d.withDate x).firIndex.toNat, (d.withDate x).secIndex.toNat,
    (d.withDate x).thdIndex.toNat] = _
  rw [hfir', hsec', hthd']
  rfl

/-! ## A fresh picker -/

/-- A fresh picker with its begin time. -/
def fresh (today begin : Date) : STPickerDate :=
  (setupUI today).setBeginTime today (yyyyMMdd begin)

theorem spans_fresh (hb : IsBeginTime today begin) : Spans today begin (fresh today begin) :=
  (spans_setBeginDay_iff hb.1 hb.2.2).2 rfl

theorem fresh_eq (hb : IsBeginTime today begin) : fresh today begin =
    (((setupUI today).setYearLeast begin.year).setMonthLeast today begin.month).setDayLeast
      begin.day := setBeginTime_day hb.1 hb.2.2

/-- **Selecting and delivering are inverse on the whole range**, for a fresh picker with its begin
time: a date of the range is delivered as it was selected, from rows that are displayed, and rows
that are displayed are those of a date of the range. -/
theorem selectYear_round_trips (ht : today.Valid) (hb : IsBeginTime today begin) :
    (∀ x : Date, x.Valid → begin ≤ x → x ≤ today →
      ∃ d e, (fresh today begin).selectYear today x.year x.month x.day = some d ∧
        d.selectedOk = some (e, x) ∧
        ∀ component < 3, ∃ row, d.pickerView.selectedRowInComponent component = some row ∧
          (row : ℤ) < d.numberOfRowsInComponent today component) ∧
    ∀ fir sec thd : ℕ, InRows today ((fresh today begin).atRows fir sec thd) →
      ∃ (x : Date) (d : STPickerDate), x.Valid ∧ begin ≤ x ∧ x ≤ today ∧
        (fresh today begin).selectYear today x.year x.month x.day = some d ∧
        d.selectedRows = [fir, sec, thd] := by
  have hspans := spans_fresh hb
  have hcomponents : (fresh today begin).componentNum = 3 := by rw [fresh_eq hb]; rfl
  constructor
  · intro x hx hbx hxt
    exact hspans.delivers_date hcomponents hx hbx hxt
  · intro fir sec thd hin
    exact hspans.date_of_rows hcomponents ht hb.1 hin

/-- The last day of a middle year. -/
theorem selectYear_round_trips_one_date :
    ∃ d e, (fresh ⟨2020, 3, 5⟩ ⟨2018, 9, 9⟩).selectYear ⟨2020, 3, 5⟩ 2019 12 31 = some d ∧
      d.selectedOk = some (e, ⟨2019, 12, 31⟩) ∧
      ∀ component < 3, ∃ row, d.pickerView.selectedRowInComponent component = some row ∧
        (row : ℤ) < d.numberOfRowsInComponent ⟨2020, 3, 5⟩ component :=
  (selectYear_round_trips (by decide) (by decide)).1 ⟨2019, 12, 31⟩ (by decide) (by decide)
    (by decide)

end STPickerDate

end RCSdk
