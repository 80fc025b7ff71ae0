import RCSdk.Lib.Run
import RCSdk.Proof.DateRange

/-!
# The dates the wheels cover

The rows of the three wheels enumerate dates in chronological order whatever the configuration
(`dates_sorted`). They are the dates from the begin time to today exactly when the configuration is
that of this range (`covers_iff_spans`), which `setBeginTime:` leaves only if the selected year is
today's, and with six digits only if the least day is still the first.

* `covers_iff`: in every run the wheels cover the range throughout exactly when they do at the
  start and every `setBeginTime:` meets this condition.
* `covers_lost`: a date of an earlier year is selected before the begin time is set.
-/

namespace RCSdk

open Gregorian Trans

namespace STPickerDate

/-- The dates of all rows: the months counted at the chosen year, the days at the chosen year
and month. -/
def dates (today : Date) (d : STPickerDate) : List Date :=
  (List.range (d.numberOfRowsInComponent today 0).toNat).flatMap fun fir =>
    (List.range ((d.atRows fir 0 0).numberOfRowsInComponent today 1).toNat).flatMap fun sec =>
      (List.range ((d.atRows fir sec 0).numberOfRowsInComponent today 2).toNat).map fun thd =>
        (d.atRows fir sec thd).decoded

/-- **The rows are exactly the dates from the begin time to today, in order.** -/
structure Covers (today begin : Date) (d : STPickerDate) : Prop where
  sorted : (dates today d).Pairwise (· < ·)
  exactly : ∀ x, x ∈ dates today d ↔ x.Valid ∧ begin ≤ x ∧ x ≤ today

/-- What the enumeration reads of a picker. -/
structure SameRange (d d' : STPickerDate) : Prop where
  yearSum : d'.yearSum = d.yearSum
  yearLeast : d'.yearLeast = d.yearLeast
  monthLeast : d'.monthLeast = d.monthLeast
  dayLeast : d'.dayLeast = d.dayLeast
  leastMonthNum : d'.leastMonthNum = d.leastMonthNum

variable {today begin : Date} {d d' : STPickerDate}

theorem mem_dates {x : Date} : x ∈ dates today d ↔
    ∃ fir sec thd : ℕ, InRows today (d.atRows fir sec thd) ∧ (d.atRows fir sec thd).decoded = x := by
  unfold dates
  simp only [List.mem_flatMap, List.mem_map, List.mem_range, Int.lt_toNat]
  constructor
  · rintro ⟨fir, hfir, sec, hsec, thd, hthd, rfl⟩
    exact ⟨fir, sec, thd, ⟨⟨Int.natCast_nonneg _, hfir⟩, ⟨Int.natCast_nonneg _, hsec⟩,
      ⟨Int.natCast_nonneg _, hthd⟩⟩, rfl⟩
  · rintro ⟨fir, sec, thd, ⟨⟨-, hfir⟩, ⟨-, hsec⟩, ⟨-, hthd⟩⟩, hx⟩
    exact ⟨fir, hfir, sec, hsec, thd, hthd, hx⟩

/-- **The rows are in chronological order.** -/
theorem dates_sorted (today : Date) (d : STPickerDate) : (dates today d).Pairwise (· < ·) := by
  unfold dates
  refine List.pairwise_flatMap.2 ⟨fun fir _ => List.pairwise_flatMap.2 ⟨fun sec _ => ?_, ?_⟩, ?_⟩
  · -- the days of one month
    rw [List.pairwise_map]
    refine List.pairwise_lt_range.imp fun {t t'} hlt => ?_
    rw [Date.lt_iff]
    refine Or.inr ⟨rfl, Or.inr ⟨rfl, ?_⟩⟩
    simp only [decoded, atRows]
    split_ifs <;> omega
  · -- the months of one year
    refine List.pairwise_lt_range.imp fun {s s'} hlt => ?_
    simp only [List.mem_map]
    rintro _ ⟨t, -, rfl⟩ _ ⟨t', -, rfl⟩
    rw [Date.lt_iff]
    refine Or.inr ⟨rfl, Or.inl ?_⟩
    simp only [decoded, atRows]
    split_ifs <;> omega
  · refine List.pairwise_lt_range.imp fun {f f'} hlt => ?_
    simp only [List.mem_flatMap, List.mem_map]
    rintro _ ⟨s, -, t, -, rfl⟩ _ ⟨s', -, t', -, rfl⟩
    rw [Date.lt_iff]
    refine Or.inl ?_
    simp only [decoded, atRows]
    omega

/-- **In the configuration of the range the rows are the dates of the range.** -/
theorem Spans.covers (h : Spans today begin d) (ht : today.Valid) (hb : begin.Valid) :
    Covers today begin d := by
  refine ⟨dates_sorted today d, fun x => ?_⟩
  rw [mem_dates]
  constructor
  · rintro ⟨fir, sec, thd, hin, rfl⟩
    exact (h.atRows fir sec thd).decoded_between ht hb hin
  · rintro ⟨hx, hbx, hxt⟩
    have hbx' := Date.le_iff.1 hbx
    -- the rows the date is at
    set fir := x.year - begin.year with hfir
    set sec := x.month - (if fir = 0 then begin.month else 1) with hsec
    set thd := x.day - (if fir = 0 ∧ sec = 0 then begin.day else 1) with hthd
    have := hx.month_pos
    have := hx.day_pos
    have hfir0 : 0 ≤ fir := by omega
    have hsec0 : 0 ≤ sec := by
      split_ifs at hsec <;> omega
    have hthd0 : 0 ≤ thd := by
      by_cases h0 : fir = 0
      · simp only [h0, if_true, true_and] at hsec hthd
        split_ifs at hthd <;> omega
      · simp only [h0, if_false, false_and] at hthd
        omega
    have hs := h.atRows fir.toNat sec.toNat thd.toNat
    have hdec : (d.atRows fir.toNat sec.toNat thd.toNat).decoded = x := by
      obtain ⟨h1, h2, h3⟩ := hs.decoded_eq
      have e1 : (d.atRows fir.toNat sec.toNat thd.toNat).firIndex = fir := Int.toNat_of_nonneg hfir0
      have e2 : (d.atRows fir.toNat sec.toNat thd.toNat).secIndex = sec := Int.toNat_of_nonneg hsec0
      have e3 : (d.atRows fir.toNat sec.toNat thd.toNat).thdIndex = thd := Int.toNat_of_nonneg hthd0
      rw [e1] at h1 h2 h3
      rw [e2] at h2 h3
      rw [e3] at h3
      ext <;> omega
    exact ⟨_, _, _, hs.inRows_of_between hx hbx hxt hdec, hdec⟩

/-! ## The wheels cover no other way -/

/-- What every configuration has: its begin time but for the day, and no month past the twelfth. -/
structure Tracks (begin : Date) (d : STPickerDate) : Prop where
  yearLeast : d.yearLeast = begin.year
  monthLeast : d.monthLeast = begin.month
  dayLeast : 1 ≤ d.dayLeast
  leastMonthNum : d.leastMonthNum ≤ 12

theorem decoded_atRows (fir sec thd : ℕ) :
    (d.atRows fir sec thd).decoded =
      ⟨fir + d.yearLeast, if fir = 0 then sec + d.monthLeast else sec + 1,
        if fir = 0 ∧ sec = 0 then thd + d.dayLeast else thd + 1⟩ := by
  simp only [decoded, atRows, Int.natCast_eq_zero]

/-- The rows of the first year and of a later one. -/
theorem months_atRows (fir sec thd : ℕ) :
    (d.atRows fir sec thd).numberOfRowsInComponent today 1 =
      if fir = 0 then d.leastMonthNum - d.monthLeast + 1
        else getLastMonthWithSelectYear today (fir + d.yearLeast) := by
  simp only [numberOfRowsInComponent, atRows, Int.natCast_eq_zero]

theorem days_atRows (fir sec thd : ℕ) :
    (d.atRows fir sec thd).numberOfRowsInComponent today 2 =
      getDaysWithYear today (fir + d.yearLeast) (sec + if fir = 0 then d.monthLeast else 1) -
        (if fir = 0 ∧ sec = 0 then d.dayLeast else 1) + 1 := by
  simp only [numberOfRowsInComponent, atRows, Int.natCast_eq_zero]

/-- A date of the range is at some row, which says where. -/
theorem Covers.row (hc : Covers today begin d) {x : Date} (hx : x.Valid) (hbx : begin ≤ x)
    (hxt : x ≤ today) :
    ∃ fir sec thd : ℕ, InRows today (d.atRows fir sec thd) ∧
      fir + d.yearLeast = x.year ∧ (if fir = 0 then sec + d.monthLeast else sec + 1) = x.month ∧
      (if fir = 0 ∧ sec = 0 then thd + d.dayLeast else thd + 1) = x.day := by
  obtain ⟨fir, sec, thd, hin, hdec⟩ := mem_dates.1 ((hc.exactly x).2 ⟨hx, hbx, hxt⟩)
  rw [decoded_atRows] at hdec
  exact ⟨fir, sec, thd, hin, congrArg Date.year hdec, congrArg Date.month hdec,
    congrArg Date.day hdec⟩

/-- What a row decodes to is a date of the range. -/
theorem Covers.of_row (hc : Covers today begin d) {fir sec thd : ℕ}
    (hin : InRows today (d.atRows fir sec thd)) :
    begin ≤ (d.atRows fir sec thd).decoded ∧ (d.atRows fir sec thd).decoded ≤ today :=
  ((hc.exactly _).1 (mem_dates.2 ⟨fir, sec, thd, hin, rfl⟩)).2

theorem Covers.dayLeast (hc : Covers today begin d) (hk : Tracks begin d) (hb : begin.Valid)
    (hle : begin ≤ today) : d.dayLeast = begin.day := by
  obtain ⟨fir, sec, thd, hin, hy, hm, hd⟩ := hc.row hb (le_refl begin) hle
  rw [hk.yearLeast] at hy
  obtain rfl : fir = 0 := by omega
  rw [if_pos rfl, hk.monthLeast] at hm
  obtain rfl : sec = 0 := by omega
  rw [if_pos ⟨rfl, rfl⟩] at hd
  -- the first row of the first month
  have hin0 : InRows today (d.atRows 0 0 0) :=
    ⟨hin.fir, hin.sec, ⟨Int.le_refl _, Int.lt_of_le_of_lt hin.thd.1 hin.thd.2⟩⟩
  have hfirst := Date.le_iff.1 (hc.of_row hin0).1
  rw [decoded_atRows] at hfirst
  simp only [if_true, and_self, hk.yearLeast, hk.monthLeast] at hfirst
  omega

theorem Covers.yearSum (hc : Covers today begin d) (hk : Tracks begin d) (ht : today.Valid)
    (hle : begin ≤ today) : d.yearSum = today.year - begin.year + 1 := by
  obtain ⟨fir, sec, thd, hin, hy, -, -⟩ := hc.row ht hle (le_refl today)
  have hlt : (fir : ℤ) < d.yearSum := hin.fir.2
  rw [hk.yearLeast] at hy
  by_contra hne
  -- one more year than there is
  have hgt : ((fir + 1 : ℕ) : ℤ) < d.yearSum := by omega
  have hin' : InRows today (d.atRows (fir + 1) 0 0) := by
    refine ⟨⟨Int.natCast_nonneg _, hgt⟩, ⟨Int.le_refl _, ?_⟩, ⟨Int.le_refl _, ?_⟩⟩
    · rw [months_atRows, if_neg (Nat.succ_ne_zero _), getLastMonthWithSelectYear,
        if_neg (by rw [hk.yearLeast]; omega)]
      change (0 : ℤ) < 12
      omega
    · have hpos := daysInMonth_pos (((fir + 1 : ℕ) : ℤ) + d.yearLeast) 1
      rw [days_atRows, if_neg (Nat.succ_ne_zero _), if_neg fun h => Nat.succ_ne_zero _ h.1,
        Int.natCast_zero, Int.zero_add, getDaysWithYear_eq today _ (by omega) (by omega),
        if_neg (by rw [hk.yearLeast]; omega)]
      change 0 < _
      omega
  have hlate := Date.le_iff.1 (hc.of_row hin').2
  rw [decoded_atRows] at hlate
  simp only [hk.yearLeast] at hlate
  omega

/-- A date of the first year is at a row of it, so its month has a row there. -/
theorem Covers.firstYear (hc : Covers today begin d) (hk : Tracks begin d) {x : Date}
    (hx : x.Valid) (hbx : begin ≤ x) (hxt : x ≤ today) (hy : x.year = begin.year) :
    ∃ sec thd : ℕ, InRows today (d.atRows 0 sec thd) ∧ (sec : ℤ) + begin.month = x.month ∧
      (sec : ℤ) < d.leastMonthNum - begin.month + 1 := by
  obtain ⟨fir, sec, thd, hin, h1, h2, -⟩ := hc.row hx hbx hxt
  rw [hk.yearLeast] at h1
  obtain rfl : fir = 0 := by omega
  rw [if_pos rfl, hk.monthLeast] at h2
  have hsec := hin.sec.2
  rw [months_atRows, if_pos rfl, hk.monthLeast] at hsec
  exact ⟨sec, thd, hin, h2, hsec⟩

/-- The last month of the first year, and the month after the last row's. -/
theorem Covers.leastMonthNum (hc : Covers today begin d) (hk : Tracks begin d) (ht : today.Valid)
    (hb : begin.Valid) (hle : begin ≤ today) :
    d.leastMonthNum = if begin.year = today.year then today.month else 12 := by
  have hbm := hb.month_le
  have hle' := Date.le_iff.1 hle
  by_cases hy : begin.year = today.year
  · rw [if_pos hy]
    obtain ⟨sec, thd, hin, h2, hsec⟩ := hc.firstYear hk ht hle (le_refl today) hy.symm
    by_contra hne
    -- a month after today's
    have hin' : InRows today (d.atRows 0 (sec + 1) 0) := by
      have hlast := hk.leastMonthNum
      have hpos := daysInMonth_pos begin.year ((sec + 1 : ℕ) + begin.month)
      have hbm := hb.month_pos
      refine ⟨hin.fir, ⟨Int.natCast_nonneg _, ?_⟩, ⟨Int.le_refl _, ?_⟩⟩
      · rw [months_atRows, if_pos rfl, hk.monthLeast]
        change ((sec + 1 : ℕ) : ℤ) < _
        omega
      · rw [days_atRows, if_pos rfl, if_neg fun h => Nat.succ_ne_zero _ h.2, Int.natCast_zero,
          Int.zero_add, hk.yearLeast, hk.monthLeast,
          getDaysWithYear_eq today _ (by omega) (by omega), if_neg (by omega)]
        change 0 < _
        omega
    have hlate := Date.le_iff.1 (hc.of_row hin').2
    rw [decoded_atRows] at hlate
    simp only [if_true, hk.yearLeast, hk.monthLeast] at hlate
    omega
  · rw [if_neg hy]
    -- the last day of the first year
    have hlast : Date.Valid ⟨begin.year, 12, 31⟩ := by
      refine ⟨hb.year_pos, ?_, ?_, ?_, ?_⟩ <;> simp [daysInMonth]
    have hday := hb.day_le_31
    obtain ⟨sec, thd, -, h2, hsec⟩ := hc.firstYear hk hlast
      (Date.le_iff.2 (by dsimp only; omega)) (Date.le_iff.2 (by dsimp only; omega)) rfl
    dsimp only at h2
    have := hk.leastMonthNum
    omega

/-- **The wheels cover the range exactly in its configuration.** -/
theorem covers_iff_spans (hk : Tracks begin d) (ht : today.Valid) (hb : begin.Valid)
    (hle : begin ≤ today) : Covers today begin d ↔ Spans today begin d :=
  ⟨fun hc => ⟨hk.yearLeast, hk.monthLeast, hc.dayLeast hk hb hle, hc.yearSum hk ht hle,
    hc.leastMonthNum hk ht hb hle⟩, fun h => h.covers ht hb⟩

/-! ## What the other operations leave -/

theorem SameRange.refl (d : STPickerDate) : SameRange d d := ⟨rfl, rfl, rfl, rfl, rfl⟩

theorem SameRange.trans {d₁ d₂ d₃ : STPickerDate} (h : SameRange d₁ d₂) (h' : SameRange d₂ d₃) :
    SameRange d₁ d₃ :=
  ⟨h'.yearSum.trans h.yearSum, h'.yearLeast.trans h.yearLeast, h'.monthLeast.trans h.monthLeast,
    h'.dayLeast.trans h.dayLeast, h'.leastMonthNum.trans h.leastMonthNum⟩

theorem SameRange.dates (h : SameRange d d') : dates today d' = dates today d := by
  unfold STPickerDate.dates numberOfRowsInComponent decoded STPickerDate.atRows
  simp only [h.yearSum, h.yearLeast, h.monthLeast, h.dayLeast, h.leastMonthNum]

theorem SameRange.covers_congr (h : SameRange d d') :
    Covers today begin d' ↔ Covers today begin d := by
  have hd : STPickerDate.dates today d' = STPickerDate.dates today d := h.dates
  exact ⟨fun ⟨h1, h2⟩ => ⟨hd ▸ h1, hd ▸ h2⟩, fun ⟨h1, h2⟩ => ⟨hd.symm ▸ h1, hd.symm ▸ h2⟩⟩

theorem SameRange.tracks (h : SameRange d d') (hk : Tracks begin d) : Tracks begin d' := by
  obtain ⟨h1, h2, h3, h4⟩ := hk
  refine ⟨?_, ?_, ?_, ?_⟩
  · rw [h.yearLeast, h1]
  · rw [h.monthLeast, h2]
  · rw [h.dayLeast]; exact h3
  · rw [h.leastMonthNum]; exact h4

theorem sameRange_reloadAllComponents (h : d.reloadAllComponents today = some d') :
    SameRange d d' := by
  simp only [reloadAllComponents, Option.bind_eq_bind, Option.bind_eq_some_iff,
    Option.some.injEq] at h
  obtain ⟨p, -, rfl⟩ := h
  exact ⟨rfl, rfl, rfl, rfl, rfl⟩

theorem sameRange_selectRow {row component : ℕ} (h : d.selectRow row component = some d') :
    SameRange d d' := by
  simp only [selectRow, Option.bind_eq_bind, Option.bind_eq_some_iff, Option.some.injEq] at h
  obtain ⟨p, -, rfl⟩ := h
  exact ⟨rfl, rfl, rfl, rfl, rfl⟩

theorem sameRange_reloadData (h : d.reloadData = some d') : SameRange d d' := by
  simp only [reloadData, Option.bind_eq_bind, Option.bind_eq_some_iff, Option.some.injEq] at h
  obtain ⟨fir, -, sec, -, thd, -, rfl⟩ := h
  exact ⟨rfl, rfl, rfl, rfl, rfl⟩

theorem sameRange_takeRow {row component : ℕ} (h : d.takeRow row component = some d') :
    SameRange d d' := by
  unfold takeRow at h
  split at h
  · split_ifs at h
    · simp only [Option.bind_eq_bind, Option.bind_eq_some_iff] at h
      obtain ⟨rows, -, h⟩ := h
      split_ifs at h
      · simp only [Option.bind_eq_some_iff] at h
        obtain ⟨d₁, h1, h2⟩ := h
        have h0 := (sameRange_selectRow h1).trans (sameRange_selectRow h2)
        exact ⟨h0.1, h0.2, h0.3, h0.4, h0.5⟩
      · obtain rfl := Option.some.inj h
        exact ⟨rfl, rfl, rfl, rfl, rfl⟩
    · obtain rfl := Option.some.inj h
      exact .refl d
  all_goals
    obtain rfl := Option.some.inj h
    exact ⟨rfl, rfl, rfl, rfl, rfl⟩

theorem sameRange_didSelectRow {row component : ℕ}
    (h : d.didSelectRow today row component = some d') : SameRange d d' := by
  simp only [didSelectRow, Option.bind_eq_bind, Option.bind_eq_some_iff] at h
  obtain ⟨d₁, h1, d₂, h2, h3⟩ := h
  exact (sameRange_takeRow h1).trans
    ((sameRange_reloadAllComponents h2).trans (sameRange_reloadData h3))

theorem sameRange_selectYear {year month day : ℤ}
    (h : d.selectYear today year month day = some d') : SameRange d d' := by
  simp only [selectYear, Option.bind_eq_bind, Option.bind_eq_some_iff] at h
  obtain ⟨d₁, h1, d₂, h2, d₃, h3, h4⟩ := h
  have h0 := (sameRange_reloadAllComponents h1).trans ((sameRange_selectRow h2).trans
    ((sameRange_selectRow h3).trans (sameRange_selectRow h4)))
  exact ⟨h0.1, h0.2, h0.3, h0.4, h0.5⟩

end STPickerDate

/-! ## Runs -/

namespace DatePicker

open STPickerDate

variable {today : Date} {s s' : DatePicker}

/-- **The condition on a step.** The begin time is set while the selected year is today's; with six
digits, while the least day is the first. -/
def SetsRange (today : Date) (s : DatePicker) : Event → Prop
  | .setBeginDay _ => s.view.year = today.year
  | .setBeginMonth _ => s.view.year = today.year ∧ s.view.dayLeast = 1
  | _ => True

instance (today : Date) (s : DatePicker) (ev : Event) : Decidable (SetsRange today s ev) := by
  cases ev <;> unfold SetsRange <;> infer_instance

/-- What holds in every run. -/
def Tracked (s : DatePicker) : Prop := s.beginTime.Valid ∧ Tracks s.beginTime s.view

/-- The wheels cover the range from the latest begin time. -/
def Covered (today : Date) (s : DatePicker) : Prop := Covers today s.beginTime s.view

/-- What the events do to the configuration. -/
theorem step_cases {ev : Event} (hs : step today s ev = some s') :
    (∃ time, ev = .setBeginDay time ∧ IsBeginTime today time ∧
      s' = ⟨s.view.setBeginTime today (yyyyMMdd time), time⟩) ∨
    (∃ time, ev = .setBeginMonth time ∧ IsBeginTime today time ∧ time.day = 1 ∧
      s' = ⟨s.view.setBeginTime today (yyyyMM time), time⟩) ∨
    ((∀ time, ev ≠ .setBeginDay time) ∧ (∀ time, ev ≠ .setBeginMonth time) ∧
      s'.beginTime = s.beginTime ∧ SameRange s.view s'.view) := by
  cases ev with
  | setBeginDay time =>
    simp only [step, Option.ite_none_right_eq_some, Option.some.injEq] at hs
    exact .inl ⟨time, rfl, hs.1, hs.2.symm⟩
  | setBeginMonth time =>
    simp only [step, Option.ite_none_right_eq_some, Option.some.injEq] at hs
    exact .inr (.inl ⟨time, rfl, hs.1.1, hs.1.2, hs.2.symm⟩)
  | selectDate date =>
    simp only [step, Option.ite_none_right_eq_some, Option.map_eq_some_iff] at hs
    obtain ⟨-, view, hv, rfl⟩ := hs
    exact .inr (.inr ⟨by simp, by simp, rfl, sameRange_selectYear hv⟩)
  | «show» =>
    simp only [step, Option.map_eq_some_iff] at hs
    obtain ⟨view, hv, rfl⟩ := hs
    exact .inr (.inr ⟨by simp, by simp, rfl, sameRange_reloadAllComponents hv⟩)
  | scroll row component =>
    refine .inr (.inr ⟨by simp, by simp, ?_⟩)
    simp only [step] at hs
    split at hs
    · obtain rfl := Option.some.inj hs
      exact ⟨rfl, .refl _⟩
    · split_ifs at hs
      · simp only [Option.map_eq_some_iff, DatePicker.scroll, Option.bind_eq_bind,
          Option.bind_eq_some_iff] at hs
        obtain ⟨view, ⟨d, h1, h2⟩, rfl⟩ := hs
        exact ⟨rfl, (sameRange_selectRow h1).trans (sameRange_didSelectRow h2)⟩
      · obtain rfl := Option.some.inj hs
        exact ⟨rfl, .refl _⟩

theorem tracked_init (today : Date) : Tracked (init today) := by
  have hb : Date.Valid ⟨2015, 1, 1⟩ := by decide
  exact ⟨hb, rfl, rfl, Int.le_refl _, Int.le_refl _⟩

theorem tracked_step (ht : today.Valid) {ev : Event} (h : Tracked s)
    (hs : step today s ev = some s') : Tracked s' := by
  have hmonth := ht.month_le
  rcases step_cases hs with ⟨time, -, hb, rfl⟩ | ⟨time, -, hb, -, rfl⟩ | ⟨-, -, hb, hv⟩
  · refine ⟨hb.1, ?_⟩
    rw [setBeginTime_day hb.1 hb.2.2]
    refine ⟨rfl, rfl, hb.1.day_pos, ?_⟩
    change (if time.year = s.view.year then today.month else 12) ≤ 12
    split_ifs <;> omega
  · refine ⟨hb.1, ?_⟩
    rw [setBeginTime_month hb.1 hb.2.2]
    refine ⟨rfl, rfl, h.2.dayLeast, ?_⟩
    change (if time.year = s.view.year then today.month else 12) ≤ 12
    split_ifs <;> omega
  · unfold Tracked
    rw [hb]
    exact ⟨h.1, hv.tracks h.2⟩

/-- **One step keeps the range covered exactly under the condition.** -/
theorem covered_step_iff (ht : today.Valid) {ev : Event} (h : Tracked s) (hc : Covered today s)
    (hs : step today s ev = some s') : Covered today s' ↔ SetsRange today s ev := by
  have h' := tracked_step ht h hs
  rcases step_cases hs with ⟨time, rfl, hb, rfl⟩ | ⟨time, rfl, hb, h1, rfl⟩ | ⟨hd, hm, hb, hv⟩
  · unfold Covered
    rw [covers_iff_spans h'.2 ht hb.1 hb.2.1, spans_setBeginDay_iff hb.1 hb.2.2]
    rfl
  · unfold Covered
    rw [covers_iff_spans h'.2 ht hb.1 hb.2.1, spans_setBeginMonth_iff hb.1 hb.2.2 h1]
    rfl
  · have hcov : Covered today s' := by
      unfold Covered
      rw [hb]
      exact hv.covers_congr.2 hc
    refine iff_of_true hcov ?_
    cases ev with
    | setBeginDay time => exact absurd rfl (hd time)
    | setBeginMonth time => exact absurd rfl (hm time)
    | _ => trivial

/-- A fresh picker covers 2015 to today, but for a today before that December. -/
theorem covered_init_iff (ht : today.Valid) :
    Covered today (init today) ↔ (today.year = 2015 → today.month = 12) := by
  have hb : Date.Valid ⟨2015, 1, 1⟩ := by decide
  have hspans : Spans today ⟨2015, 1, 1⟩ (setupUI today) ↔ (today.year = 2015 → today.month = 12) := by
    constructor
    · intro h hy
      have hl : (12 : ℤ) = if 2015 = today.year then today.month else 12 := h.leastMonthNum
      rw [if_pos hy.symm] at hl
      exact hl.symm
    · intro h
      refine ⟨rfl, rfl, rfl, rfl, ?_⟩
      change (12 : ℤ) = if 2015 = today.year then today.month else 12
      split_ifs with hy
      · exact (h hy.symm).symm
      · rfl
  by_cases hle : (⟨2015, 1, 1⟩ : Date) ≤ today
  · rw [← hspans]
    exact covers_iff_spans (tracked_init today).2 ht hb hle
  · have hbefore : today.year ≠ 2015 := by
      rw [Date.le_iff] at hle
      have := ht.month_pos
      have := ht.day_pos
      dsimp only at hle
      omega
    have hcond : today.year = 2015 → today.month = 12 := fun hy => absurd hy hbefore
    exact iff_of_true ((hspans.2 hcond).covers ht hb) hcond

/-- **In every run the wheels cover the range throughout exactly when the fresh picker does and
every begin time is set in a state that allows it.** -/
theorem covers_iff (ht : today.Valid) {h : List (DatePicker × Event)}
    (hr : Run (step today) (init today) h s) :
    ((∀ q ∈ h, Covers today q.1.beginTime q.1.view) ∧ Covers today s.beginTime s.view) ↔
      (today.year = 2015 → today.month = 12) ∧ ∀ q ∈ h, SetsRange today q.1 q.2 := by
  rw [← covered_init_iff ht]
  exact hr.always_iff_init (tracked_init today) (fun _ _ _ => tracked_step ht)
    fun _ _ _ => covered_step_iff ht

/-- A begin time, then a selection and a wheel turned. -/
theorem covers_one_run :
    ∃ h s, Run (step ⟨2020, 3, 5⟩) (init ⟨2020, 3, 5⟩) h s ∧ h.length = 3 ∧
      s.beginTime = ⟨2018, 9, 9⟩ ∧ s.view.decoded = ⟨2020, 1, 1⟩ ∧
      Covers ⟨2020, 3, 5⟩ s.beginTime s.view := by
  set evs : List Event := [.setBeginDay ⟨2018, 9, 9⟩, .selectDate ⟨2019, 2, 28⟩, .scroll 2 0]
  have hlast : (exec (step ⟨2020, 3, 5⟩) (init ⟨2020, 3, 5⟩) evs).map
      (fun s => (s.beginTime, s.view.decoded)) = some (⟨2018, 9, 9⟩, ⟨2020, 1, 1⟩) := by
    decide +kernel
  have hlen : (visited (step ⟨2020, 3, 5⟩) (init ⟨2020, 3, 5⟩) evs).length = 3 := by
    decide +kernel
  have hsets : ∀ q ∈ visited (step ⟨2020, 3, 5⟩) (init ⟨2020, 3, 5⟩) evs,
      SetsRange ⟨2020, 3, 5⟩ q.1 q.2 := by
    decide +kernel
  obtain ⟨s, hs, he⟩ := Option.map_eq_some_iff.1 hlast
  obtain ⟨hb, hd⟩ := Prod.mk.inj he
  have hr := run_of_exec evs hs
  exact ⟨_, s, hr, hlen, hb, hd,
    ((covers_iff (by decide) hr).2 ⟨fun h => absurd h (by decide), hsets⟩).2⟩

/-- **The range is lost.** A date of 2018 is selected and the same begin time set again: the year
counts then end in 2018, whose last month is taken to be today's. -/
theorem covers_lost :
    ∃ s, exec (step ⟨2020, 3, 5⟩) (init ⟨2020, 3, 5⟩)
        [.setBeginDay ⟨2018, 9, 9⟩, .selectDate ⟨2018, 10, 1⟩, .setBeginDay ⟨2018, 9, 9⟩] = some s ∧
      dates ⟨2020, 3, 5⟩ s.view = [] ∧ s.beginTime = ⟨2018, 9, 9⟩ ∧
      ¬ Covers ⟨2020, 3, 5⟩ s.beginTime s.view := by
  have hlast : (exec (step ⟨2020, 3, 5⟩) (init ⟨2020, 3, 5⟩)
      [.setBeginDay ⟨2018, 9, 9⟩, .selectDate ⟨2018, 10, 1⟩, .setBeginDay ⟨2018, 9, 9⟩]).map
      (fun s => (dates ⟨2020, 3, 5⟩ s.view, s.beginTime)) = some ([], ⟨2018, 9, 9⟩) := by
    decide +kernel
  obtain ⟨s, hs, he⟩ := Option.map_eq_some_iff.1 hlast
  obtain ⟨hd, hb⟩ := Prod.mk.inj he
  refine ⟨s, hs, hd, hb, fun hc => ?_⟩
  have htoday := (hc.exactly ⟨2020, 3, 5⟩).2 ⟨by decide, by rw [hb]; decide, by decide⟩
  rw [hd] at htoday
  exact List.not_mem_nil htoday

end DatePicker

end RCSdk
