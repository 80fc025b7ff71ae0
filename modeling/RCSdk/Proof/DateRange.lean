import Mathlib.Data.List.TakeWhile
import RCSdk.Spec.PickerDate

/-!
# The range of the date wheels

`Spans today begin d`: the configuration of the picker `d` is that of the range from `begin` to
today. Then the rows its data source admits decode to dates of the range (`decoded_between`), and
every date of the range has its rows (`exists_rows`). The configuration that `setBeginTime:`
leaves depends on the selected year (`setBeginTime_day`, `setBeginTime_month`).
-/

namespace RCSdk

open Gregorian

/-! ## Text -/

theorem integerValue_pad {width n : ℕ} (h : n < 10 ^ width) : integerValue (pad width n) = n := by
  have hdigit := isDigit_pad width n
  have hnone : ∀ c ∈ pad width n, Char.isWhitespace c = false ∧ c ≠ '-' ∧ c ≠ '+' := by
    intro c hc
    have hd := hdigit c hc
    refine ⟨?_, ?_, ?_⟩
    · by_contra hw
      simp only [Char.isWhitespace, Bool.not_eq_false, Bool.or_eq_true, decide_eq_true_eq] at hw
      rcases hw with ((rfl | rfl) | rfl) | rfl <;> exact absurd hd (by decide)
    · rintro rfl; exact absurd hd (by decide)
    · rintro rfl; exact absurd hd (by decide)
  have hblank : (pad width n).dropWhile Char.isWhitespace = pad width n := by
    cases hp : pad width n with
    | nil => rfl
    | cons c cs =>
      rw [List.dropWhile_cons_of_neg]
      simp [(hnone c (by rw [hp]; exact List.mem_cons_self)).1]
  have hall : (pad width n).takeWhile Char.isDigit = pad width n :=
    List.takeWhile_eq_self_iff.2 hdigit
  unfold integerValue
  rw [hblank]
  split
  · rename_i cs hp
    exact absurd rfl (hnone '-' (by rw [hp]; exact List.mem_cons_self)).2.1
  · rename_i cs hp
    exact absurd rfl (hnone '+' (by rw [hp]; exact List.mem_cons_self)).2.2
  · rw [hall, value_pad h]

theorem integerValue_pad_toNat {width : ℕ} {n : ℤ} (h0 : 0 ≤ n) (h : n.toNat < 10 ^ width) :
    integerValue (pad width n.toNat) = n := by
  rw [integerValue_pad h]
  omega

/-! ## Rows and dates -/

/-- `getDaysWithYear:month:` gives the days of a month, up to today. -/
theorem getDaysWithYear_eq (today : Date) (year : ℤ) {month : ℤ} (h1 : 1 ≤ month)
    (h12 : month ≤ 12) :
    getDaysWithYear today year month =
      if year = today.year ∧ month = today.month then today.day else daysInMonth year month := by
  unfold getDaysWithYear
  have hm : month = 1 ∨ month = 2 ∨ month = 3 ∨ month = 4 ∨ month = 5 ∨ month = 6 ∨ month = 7 ∨
      month = 8 ∨ month = 9 ∨ month = 10 ∨ month = 11 ∨ month = 12 := by omega
  refine if_congr Iff.rfl rfl ?_
  rcases hm with rfl | rfl | rfl | rfl | rfl | rfl | rfl | rfl | rfl | rfl | rfl | rfl <;>
    simp [daysInMonth, IsLeap]

namespace STPickerDate

/-- The picker with its three indices at these rows. -/
def atRows (d : STPickerDate) (fir sec thd : ℕ) : STPickerDate :=
  { d with firIndex := fir, secIndex := sec, thdIndex := thd }

/-- **The configuration of the range from `begin` to today.** -/
structure Spans (today begin : Date) (d : STPickerDate) : Prop where
  yearLeast : d.yearLeast = begin.year
  monthLeast : d.monthLeast = begin.month
  dayLeast : d.dayLeast = begin.day
  yearSum : d.yearSum = today.year - begin.year + 1
  leastMonthNum : d.leastMonthNum = if begin.year = today.year then today.month else 12

/-- The indices are rows of the wheels. -/
structure InRows (today : Date) (d : STPickerDate) : Prop where
  fir : 0 ≤ d.firIndex ∧ d.firIndex < d.numberOfRowsInComponent today 0
  sec : 0 ≤ d.secIndex ∧ d.secIndex < d.numberOfRowsInComponent today 1
  thd : 0 ≤ d.thdIndex ∧ d.thdIndex < d.numberOfRowsInComponent today 2

variable {today begin : Date} {d : STPickerDate}

theorem Spans.atRows (h : Spans today begin d) (fir sec thd : ℕ) :
    Spans today begin (d.atRows fir sec thd) :=
  ⟨h.yearLeast, h.monthLeast, h.dayLeast, h.yearSum, h.leastMonthNum⟩

/-- The months of the range in the chosen year, counted from the first row. -/
theorem Spans.months (h : Spans today begin d) :
    d.numberOfRowsInComponent today 1 =
      (if d.firIndex + begin.year = today.year then today.month else 12) -
        (if d.firIndex = 0 then begin.month else 1) + 1 := by
  unfold numberOfRowsInComponent getLastMonthWithSelectYear
  rw [h.leastMonthNum, h.monthLeast, h.yearLeast]
  by_cases h0 : d.firIndex = 0
  · simp [h0]
  · simp only [h0, if_false]
    omega

/-- The days of the range in the chosen month, counted from the first row. -/
theorem Spans.days (h : Spans today begin d) (h1 : 1 ≤ d.decoded.month)
    (h12 : d.decoded.month ≤ 12) :
    d.numberOfRowsInComponent today 2 =
      (if d.decoded.year = today.year ∧ d.decoded.month = today.month then today.day
        else daysInMonth d.decoded.year d.decoded.month) -
        (if d.firIndex = 0 ∧ d.secIndex = 0 then begin.day else 1) + 1 := by
  have hmonth : d.secIndex + (if d.firIndex = 0 then d.monthLeast else 1) = d.decoded.month := by
    unfold decoded
    by_cases h0 : d.firIndex = 0 <;> simp [h0]
  have hyear : d.firIndex + d.yearLeast = d.decoded.year := rfl
  unfold numberOfRowsInComponent
  simp only [hmonth, hyear, h.dayLeast]
  rw [getDaysWithYear_eq today _ h1 h12]

theorem Spans.decoded_eq (h : Spans today begin d) :
    d.decoded.year = d.firIndex + begin.year ∧
      d.decoded.month = d.secIndex + (if d.firIndex = 0 then begin.month else 1) ∧
      d.decoded.day = d.thdIndex + (if d.firIndex = 0 ∧ d.secIndex = 0 then begin.day else 1) := by
  unfold decoded
  rw [h.yearLeast, h.monthLeast, h.dayLeast]
  refine ⟨rfl, ?_, ?_⟩ <;> split_ifs <;> rfl

/-- Every year of the range has a month, and every month of it at most the twelfth. -/
theorem Spans.months_pos (h : Spans today begin d) (ht : today.Valid) (hb : begin.Valid)
    (hle : begin ≤ today) : 0 < d.numberOfRowsInComponent today 1 := by
  rw [h.months]
  have := ht.month_pos
  have := ht.month_le
  have := hb.month_le
  rw [Date.le_iff] at hle
  split_ifs <;> omega

/-- The month of a row is a month of the chosen year, up to today's and from the begin's on. -/
theorem Spans.month_between (h : Spans today begin d) (ht : today.Valid) (hb : begin.Valid)
    (hsec : 0 ≤ d.secIndex ∧ d.secIndex < d.numberOfRowsInComponent today 1) :
    1 ≤ d.decoded.month ∧ d.decoded.month ≤ 12 ∧
      (d.decoded.year = today.year → d.decoded.month ≤ today.month) ∧
      (d.decoded.year = begin.year → begin.month ≤ d.decoded.month) := by
  obtain ⟨hy, hm, -⟩ := h.decoded_eq
  rw [h.months] at hsec
  rw [hy, hm]
  have := ht.month_pos
  have := ht.month_le
  have := hb.month_pos
  have := hb.month_le
  by_cases h0 : d.firIndex = 0
  · simp only [h0, if_true] at hsec ⊢
    split_ifs at hsec <;> omega
  · simp only [h0, if_false] at hsec ⊢
    split_ifs at hsec <;> omega

/-- Every month of the range has a day. -/
theorem Spans.days_pos (h : Spans today begin d) (ht : today.Valid) (hb : begin.Valid)
    (hle : begin ≤ today)
    (hsec : 0 ≤ d.secIndex ∧ d.secIndex < d.numberOfRowsInComponent today 1) :
    0 < d.numberOfRowsInComponent today 2 := by
  obtain ⟨h1, h12, -, -⟩ := h.month_between ht hb hsec
  rw [h.days h1 h12]
  obtain ⟨hy, hm, -⟩ := h.decoded_eq
  rw [Date.le_iff] at hle
  have := ht.day_pos
  by_cases h0 : d.firIndex = 0 ∧ d.secIndex = 0
  · -- the begin's own month, which has the begin's day
    rw [h0.1, if_pos rfl, h0.2, Int.zero_add] at hm
    rw [h0.1, Int.zero_add] at hy
    rw [if_pos h0, hy, hm]
    have := hb.day_le
    split_ifs <;> omega
  · rw [if_neg h0]
    have := daysInMonth_pos d.decoded.year d.decoded.month
    split_ifs <;> omega

/-- **Rows decode to dates of the range.** -/
theorem Spans.decoded_between (h : Spans today begin d) (ht : today.Valid) (hb : begin.Valid)
    (hin : InRows today d) : d.decoded.Valid ∧ begin ≤ d.decoded ∧ d.decoded ≤ today := by
  obtain ⟨hfir, hsec, hthd⟩ := hin
  obtain ⟨h1, h12, htop, hbot⟩ := h.month_between ht hb hsec
  obtain ⟨hy, hm, hd⟩ := h.decoded_eq
  rw [h.days h1 h12] at hthd
  change 0 ≤ d.firIndex ∧ d.firIndex < d.yearSum at hfir
  rw [h.yearSum] at hfir
  have hbd := hb.day_pos
  have hby := hb.year_pos
  have hdays : d.decoded.day ≤
      if d.decoded.year = today.year ∧ d.decoded.month = today.month then today.day
        else daysInMonth d.decoded.year d.decoded.month := by
    rw [hd]
    omega
  have hday1 : 1 ≤ d.decoded.day := by
    rw [hd]
    split_ifs <;> omega
  refine ⟨⟨by omega, h1, h12, hday1, ?_⟩, ?_, ?_⟩
  · split_ifs at hdays with hlast
    · rw [hlast.1, hlast.2]
      exact Int.le_trans hdays ht.day_le
    · exact hdays
  · -- only in the first month of the first year do the days begin late
    rw [Date.le_iff]
    by_cases h0 : d.firIndex = 0 ∧ d.secIndex = 0
    · rw [if_pos h0] at hd
      rw [if_pos h0.1] at hm
      omega
    · by_cases h0' : d.firIndex = 0
      · rw [if_pos h0'] at hm
        have : d.secIndex ≠ 0 := fun hs => h0 ⟨h0', hs⟩
        omega
      · omega
  · rw [Date.le_iff]
    split_ifs at hdays with hlast
    · omega
    · omega

/-- **Every date of the range has its rows.** `d` is the picker with its indices at those rows. -/
theorem Spans.inRows_of_between (h : Spans today begin d) {x : Date}
    (hx : x.Valid) (hbx : begin ≤ x) (hxt : x ≤ today) (hdec : d.decoded = x) :
    InRows today d := by
  have h1 : 1 ≤ d.decoded.month := hdec ▸ hx.month_pos
  have h12 : d.decoded.month ≤ 12 := hdec ▸ hx.month_le
  obtain ⟨hy, hm, hd⟩ := h.decoded_eq
  have hdays := h.days h1 h12
  rw [hdec] at hy hm hd hdays
  rw [Date.le_iff] at hbx hxt
  have := hx.day_pos
  have := hx.day_le
  have := hx.month_pos
  have := hx.month_le
  refine ⟨?_, ?_, ?_⟩
  · change 0 ≤ d.firIndex ∧ d.firIndex < d.yearSum
    rw [h.yearSum]
    omega
  · rw [h.months]
    split_ifs at hm ⊢ <;> omega
  · rw [hdays]
    by_cases h0 : d.firIndex = 0
    · simp only [h0, if_true, true_and] at hm hd ⊢
      split_ifs at hd ⊢ <;> omega
    · simp only [h0, if_false, false_and] at hm hd ⊢
      split_ifs <;> omega

/-! ## What `setBeginTime:` leaves -/

/-- Eight digits set all three. -/
theorem setBeginTime_day (hb : begin.Valid) (hy : begin.year < 10000) :
    d.setBeginTime today (yyyyMMdd begin) =
      ((d.setYearLeast begin.year).setMonthLeast today begin.month).setDayLeast begin.day := by
  have := hb.year_pos
  have := hb.month_pos
  have := hb.month_le
  have := hb.day_pos
  have hday := hb.day_le_31
  have hyear : (yyyyMMdd begin).take 4 = pad 4 begin.year.toNat := by
    simp [yyyyMMdd, yyyyMM]
  have hmonth : ((yyyyMMdd begin).drop 4).take 2 = pad 2 begin.month.toNat := by
    simp [yyyyMMdd, yyyyMM]
  have hd : (yyyyMMdd begin).drop 6 = pad 2 begin.day.toNat := by
    simp [yyyyMMdd, yyyyMM, List.drop_append]
  have hlen : (yyyyMMdd begin).length = 8 := by simp [yyyyMMdd, yyyyMM]
  unfold setBeginTime
  rw [hyear, hmonth, hd, integerValue_pad_toNat (by omega) (by omega),
    integerValue_pad_toNat (by omega) (by omega), integerValue_pad_toNat (by omega) (by omega)]
  simp only [hlen, if_true]

/-- Six digits leave the least day what it was. -/
theorem setBeginTime_month (hb : begin.Valid) (hy : begin.year < 10000) :
    d.setBeginTime today (yyyyMM begin) =
      (d.setYearLeast begin.year).setMonthLeast today begin.month := by
  have := hb.year_pos
  have := hb.month_pos
  have := hb.month_le
  have hyear : (yyyyMM begin).take 4 = pad 4 begin.year.toNat := by simp [yyyyMM]
  have hmonth : ((yyyyMM begin).drop 4).take 2 = pad 2 begin.month.toNat := by
    simp [yyyyMM, List.take_of_length_le]
  have hlen : (yyyyMM begin).length = 6 := by simp [yyyyMM]
  unfold setBeginTime
  rw [hyear, hmonth, integerValue_pad_toNat (by omega) (by omega),
    integerValue_pad_toNat (by omega) (by omega)]
  simp [hlen]

/-- **Eight digits set the range exactly when the selected year is today's.** -/
theorem spans_setBeginDay_iff (hb : begin.Valid) (hy : begin.year < 10000) :
    Spans today begin (d.setBeginTime today (yyyyMMdd begin)) ↔ d.year = today.year := by
  rw [setBeginTime_day hb hy]
  constructor
  · intro h
    have hsum : d.year - begin.year + 1 = today.year - begin.year + 1 := h.yearSum
    omega
  · intro h
    refine ⟨rfl, rfl, rfl, ?_, ?_⟩
    · change d.year - begin.year + 1 = today.year - begin.year + 1
      rw [h]
    · change (if begin.year = d.year then today.month else 12) = _
      rw [h]

/-- **Six digits do when, besides, the least day is the first already.** -/
theorem spans_setBeginMonth_iff (hb : begin.Valid) (hy : begin.year < 10000) (h1 : begin.day = 1) :
    Spans today begin (d.setBeginTime today (yyyyMM begin)) ↔
      d.year = today.year ∧ d.dayLeast = 1 := by
  rw [setBeginTime_month hb hy]
  constructor
  · intro h
    have hsum : d.year - begin.year + 1 = today.year - begin.year + 1 := h.yearSum
    have hday : d.dayLeast = begin.day := h.dayLeast
    omega
  · rintro ⟨h, hday⟩
    refine ⟨rfl, rfl, hday.trans h1.symm, ?_, ?_⟩
    · change d.year - begin.year + 1 = today.year - begin.year + 1
      rw [h]
    · change (if begin.year = d.year then today.month else 12) = _
      rw [h]

end STPickerDate

end RCSdk
