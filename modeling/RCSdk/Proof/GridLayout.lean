import RCSdk.Spec.GridLayout
import Mathlib.Tactic.FieldSimp

/-!
# Whether the buttons fit

The row count is meant as a quotient rounded up, `(n % r + n) / r`, and is one row short when the
last row is less than half full. The gaps between the columns are not taken off the width either.

* `PaymentSelectView.Args.fits_iff`: when the items of the grid have their room.
* `ShareBottomPopView.Args.fits_iff`: when the buttons of the one row have it.
* `layouts_fit_iff`: both.
-/

namespace RCSdk

open Grids

/-- The frames lie in an area, and no two have a point in common. -/
structure FitIn (area : Rect ℚ) (frames : List (Rect ℚ)) : Prop where
  within : ∀ a ∈ frames, area.Within a
  disjoint : frames.Pairwise Rect.Disjoint

namespace PaymentSelectView.Args

variable (v : Args)

/-- There is an item for each object, and the items fit in the content of the scroll view. -/
def Fits : Prop :=
  ∃ views, v.createContentView = some views ∧
    views._selectGroupArr.length = v._selectArr.length ∧
    FitIn ⟨0, 0, views.contentSize.width, views.contentSize.height⟩
      (views._selectGroupArr.map SelectGroupView.frame)

/-- The grid of the items. -/
def grid : Grid ℚ where
  width := v._itemWidth
  height := ItemHeight
  gapX := 15
  gapY := 18

theorem selectSingleView_frame (title : Option String) (i : ℕ) :
    (v.selectSingleView title i).frame = v.grid.cell (i % v._rowNum) (i / v._rowNum) := by
  ext
  · exact (add_mul _ _ _).symm
  · exact (add_mul _ _ _).symm
  · rfl
  · rfl

theorem frames_eq :
    (v._selectArr.mapIdx fun i title => v.selectSingleView title i).map SelectGroupView.frame =
      v.grid.cells v._rowNum v._selectArr.length := by
  refine List.ext_getElem (by simp [Grid.cells]) fun i h₁ h₂ => ?_
  rw [List.getElem_map, List.getElem_mapIdx, selectSingleView_frame]
  simp [Grid.cells]

variable {v}

theorem fits_iff_fitIn : v.Fits ↔ v._rowNum ≠ 0 ∧
    FitIn ⟨0, 0, v.SCREEN_WIDTH - 56, v.groupViewHeight⟩
      (v.grid.cells v._rowNum v._selectArr.length) := by
  constructor
  · rintro ⟨views, hviews, -, hfit⟩
    unfold createContentView at hviews
    split at hviews
    · exact absurd hviews (by simp)
    · rename_i hr
      obtain rfl := Option.some.inj hviews
      rw [frames_eq] at hfit
      exact ⟨hr, hfit⟩
  · rintro ⟨hr, hfit⟩
    refine ⟨_, if_neg hr, List.length_mapIdx, ?_⟩
    rw [frames_eq]
    exact hfit

theorem itemWidth_mul (hr : 0 < v._rowNum) : v._itemWidth * v._rowNum = v.SCREEN_WIDTH - 72 := by
  have hr' : (v._rowNum : ℚ) ≠ 0 := by exact_mod_cast hr.ne'
  rw [_itemWidth, div_mul_cancel₀ _ hr']
  ring

theorem itemWidth_nonneg_iff (hr : 0 < v._rowNum) : 0 ≤ v._itemWidth ↔ 72 ≤ v.SCREEN_WIDTH := by
  have hr' : (0 : ℚ) < v._rowNum := by exact_mod_cast hr
  rw [← mul_nonneg_iff_of_pos_right hr', itemWidth_mul hr, sub_nonneg]

/-- The first `c` columns end within the width, with the division multiplied out. -/
theorem columns_iff (hr : 0 < v._rowNum) {c : ℕ} (hc : 0 < c) :
    (v._itemWidth + 15) * (c - 1 : ℕ) + v._itemWidth ≤ v.SCREEN_WIDTH - 56 ↔
      c * (v.SCREEN_WIDTH - 72) + 15 * (c - 1) * v._rowNum ≤
        (v.SCREEN_WIDTH - 56) * v._rowNum := by
  have hr' : (0 : ℚ) < v._rowNum := by exact_mod_cast hr
  have hmul : ((v._itemWidth + 15) * (c - 1 : ℕ) + v._itemWidth) * v._rowNum =
      c * (v.SCREEN_WIDTH - 72) + 15 * (c - 1) * v._rowNum := by
    rw [← itemWidth_mul hr, Nat.cast_sub hc, Nat.cast_one]
    ring
  rw [← hmul, mul_le_mul_iff_left₀ hr']

/-- All columns are used: then it is for the gaps to fit. -/
theorem all_columns_iff (hr : 0 < v._rowNum) :
    (v._rowNum : ℚ) * (v.SCREEN_WIDTH - 72) + 15 * (v._rowNum - 1) * v._rowNum ≤
      (v.SCREEN_WIDTH - 56) * v._rowNum ↔ v._rowNum ≤ 2 := by
  have hr' : (0 : ℚ) < v._rowNum := by exact_mod_cast hr
  have hfactor : (v._rowNum : ℚ) * (v.SCREEN_WIDTH - 72) + 15 * (v._rowNum - 1) * v._rowNum =
      (v.SCREEN_WIDTH - 72 + 15 * (v._rowNum - 1)) * v._rowNum := by ring
  rw [hfactor, mul_le_mul_iff_left₀ hr']
  constructor
  · intro h
    have h31 : (15 : ℚ) * v._rowNum ≤ 31 := by linarith
    have h31' : 15 * v._rowNum ≤ 31 := by exact_mod_cast h31
    omega
  · intro h
    have h2 : (v._rowNum : ℚ) ≤ 2 := by exact_mod_cast h
    linarith

/-- The rows that are used end within the height exactly when they are counted. -/
theorem rows_iff (p : ℕ) :
    (ItemHeight + 18) * p + ItemHeight ≤ v.groupViewHeight ↔ p + 1 ≤ v.section := by
  unfold groupViewHeight ItemHeight
  constructor
  · intro h
    have hlt : (p : ℚ) < v.section := by linarith
    exact_mod_cast hlt
  · intro h
    have hle : (p : ℚ) + 1 ≤ v.section := by exact_mod_cast h
    linarith

/-- The last column and the last row decide it. -/
theorem fitIn_iff (hr : 0 < v._rowNum) (hn : 0 < v._selectArr.length) :
    FitIn ⟨0, 0, v.SCREEN_WIDTH - 56, v.groupViewHeight⟩
        (v.grid.cells v._rowNum v._selectArr.length) ↔
      72 ≤ v.SCREEN_WIDTH ∧
        (v._itemWidth + 15) * (min v._rowNum v._selectArr.length - 1 : ℕ) + v._itemWidth ≤
          v.SCREEN_WIDTH - 56 ∧
        (v._selectArr.length - 1) / v._rowNum + 1 ≤ v.section := by
  have hgapX : (0 : ℚ) < v.grid.gapX := by norm_num [grid]
  have hgapY : (0 : ℚ) < v.grid.gapY := by norm_num [grid]
  have hheight : (0 : ℚ) ≤ v.grid.height := by norm_num [grid, ItemHeight]
  rw [← itemWidth_nonneg_iff hr, ← rows_iff]
  constructor
  · intro hfit
    obtain ⟨hw, -, hcolumns, hrows⟩ :=
      (Grid.cells_within_iff hgapX.le hgapY.le hr hn).1 hfit.within
    exact ⟨hw, hcolumns, hrows⟩
  · rintro ⟨hw, hcolumns, hrows⟩
    exact ⟨(Grid.cells_within_iff hgapX.le hgapY.le hr hn).2 ⟨hw, hheight, hcolumns, hrows⟩,
      Grid.cells_disjoint hw hheight hgapX hgapY _ _⟩

/-- The items have their room: no item, or a screen wider than the margins with one or two items in
a row, or a single row that is at least half used and whose items and gaps fit. -/
def Roomy (v : Args) : Prop :=
  v._selectArr.length = 0 ∨
    72 ≤ v.SCREEN_WIDTH ∧
      (v._rowNum ≤ v._selectArr.length ∧ v._rowNum ≤ 2 ∨
        v._selectArr.length < v._rowNum ∧ v._rowNum ≤ 2 * v._selectArr.length ∧
          (15 * v._selectArr.length - 31) * v._rowNum ≤
            (v.SCREEN_WIDTH - 72) * (v._rowNum - v._selectArr.length))

/-- **When the items fit.** -/
theorem fits_iff : v.Fits ↔ v._rowNum ≠ 0 ∧ v.Roomy := by
  rw [fits_iff_fitIn]
  refine and_congr_right fun hr0 => ?_
  have hr : 0 < v._rowNum := Nat.pos_of_ne_zero hr0
  rcases Nat.eq_zero_or_pos v._selectArr.length with hn | hn
  · refine iff_of_true ?_ (Or.inl hn)
    rw [hn]
    exact ⟨by simp [Grid.cells], List.Pairwise.nil⟩
  · have hrows := rows_covered_iff hr hn
    rw [fitIn_iff hr hn, columns_iff hr (by omega), «section», hrows]
    rcases Nat.lt_or_ge v._selectArr.length v._rowNum with hone | hmany
    · -- one row, with a part of the columns
      rw [Nat.min_eq_right hone.le, Nat.mod_eq_of_lt hone]
      constructor
      · rintro ⟨hwidth, hcolumns, hhalf⟩
        exact Or.inr ⟨hwidth, Or.inr ⟨hone, by omega, by linarith⟩⟩
      · rintro (h0 | ⟨hwidth, h | ⟨-, hhalf, hcolumns⟩⟩)
        · omega
        · omega
        · exact ⟨hwidth, by linarith, Or.inr hhalf⟩
    · rw [Nat.min_eq_left hmany, all_columns_iff hr]
      constructor
      · rintro ⟨hwidth, htwo, -⟩
        exact Or.inr ⟨hwidth, Or.inl ⟨hmany, htwo⟩⟩
      · rintro (h0 | ⟨hwidth, ⟨-, htwo⟩ | h⟩)
        · omega
        · refine ⟨hwidth, htwo, ?_⟩
          -- a row of one or two is never less than half full
          have hlt := Nat.mod_lt v._selectArr.length hr
          omega
        · omega

end PaymentSelectView.Args

namespace ShareBottomPopView.Args

variable (v : Args)

/-- There is a button for each text, and the buttons fit in the group view. -/
def Fits : Prop :=
  ∃ views, v.createContentView = some views ∧ views.buttons.length = v._textArray.length ∧
    FitIn ⟨0, 0, views.selectGroupView.width, views.selectGroupView.height⟩
      (views.buttons.map UpImgDownTextBtn.frame)

/-- The frames of the first `n` buttons. -/
def frames (n : ℕ) : List (Rect ℚ) := (List.range n).map v.buttonFrame

variable {v}

theorem buttonsFrom_frames (texts : List String) (i : ℕ) (buttons : List UpImgDownTextBtn)
    (h : v.buttonsFrom i texts = some buttons) :
    buttons.map UpImgDownTextBtn.frame = (List.range' i texts.length).map v.buttonFrame := by
  induction texts generalizing i buttons with
  | nil =>
    obtain rfl := Option.some.inj h
    rfl
  | cons text texts ih =>
    simp only [buttonsFrom, Option.bind_eq_bind, Option.bind_eq_some_iff, Option.some.injEq] at h
    obtain ⟨image, -, rest, hrest, rfl⟩ := h
    rw [List.map_cons, ih (i + 1) rest hrest, List.length_cons, List.range'_succ, List.map_cons]

/-- The loop ends when there is an image for each text. -/
theorem exists_buttonsFrom_iff (texts : List String) (i : ℕ) (hi : i ≤ v._imageArray.length) :
    (∃ buttons, v.buttonsFrom i texts = some buttons) ↔
      i + texts.length ≤ v._imageArray.length := by
  induction texts generalizing i with
  | nil => exact iff_of_true ⟨[], rfl⟩ hi
  | cons text texts ih =>
    simp only [buttonsFrom, Option.bind_eq_bind, Option.bind_eq_some_iff, Option.some.injEq]
    rw [List.length_cons]
    constructor
    · rintro ⟨buttons, image, himage, rest, hrest, -⟩
      have hlt := (List.getElem?_eq_some_iff.1 himage).1
      have hle := (ih (i + 1) hlt).1 ⟨rest, hrest⟩
      omega
    · intro hle
      have hlt : i < v._imageArray.length := by omega
      obtain ⟨rest, hrest⟩ := (ih (i + 1) hlt).2 (by omega)
      exact ⟨_, _, List.getElem?_eq_getElem hlt, rest, hrest, rfl⟩

theorem fits_iff_fitIn : v.Fits ↔ v._textArray.length ≤ v._imageArray.length ∧
    FitIn ⟨0, 0, v.SCREEN_WIDTH, v.selectGroupViewHeight⟩ (v.frames v._textArray.length) := by
  have hexists := exists_buttonsFrom_iff (v := v) v._textArray 0 (Nat.zero_le _)
  rw [Nat.zero_add] at hexists
  rw [← hexists, frames, List.range_eq_range']
  constructor
  · rintro ⟨views, hviews, -, hfit⟩
    obtain ⟨buttons, hbuttons, hviews⟩ := Option.bind_eq_some_iff.1 hviews
    obtain rfl := Option.some.inj hviews
    rw [buttonsFrom_frames _ _ _ hbuttons] at hfit
    exact ⟨⟨buttons, hbuttons⟩, hfit⟩
  · rintro ⟨⟨buttons, hbuttons⟩, hfit⟩
    have hframes := buttonsFrom_frames _ _ _ hbuttons
    have hlength := congrArg List.length hframes
    rw [List.length_map, List.length_map, List.length_range'] at hlength
    rw [← hframes] at hfit
    exact ⟨_, Option.bind_eq_some_iff.2 ⟨buttons, hbuttons, rfl⟩, hlength, hfit⟩

theorem btn1Width_eq : v.btn1Width = (v.SCREEN_WIDTH - 60) / 4 := by
  unfold btn1Width dis_LEFTSCREEN mid_distance rowNum
  norm_num
  ring

theorem frames_disjoint (hw : 0 ≤ v.btn1Width) (n : ℕ) :
    (v.frames n).Pairwise Rect.Disjoint := by
  refine List.pairwise_map.2 (List.Pairwise.imp ?_ List.pairwise_lt_range)
  intro i j hij
  refine Rect.disjoint_of_left ?_
  have hstep := Grid.end_lt_begin hw (show (0 : ℚ) < mid_distance by norm_num [mid_distance]) hij
  simp only [buttonFrame]
  linarith

/-- The `i`-th button lies in the group view. -/
theorem buttonFrame_within_iff (i : ℕ) :
    (⟨0, 0, v.SCREEN_WIDTH, v.selectGroupViewHeight⟩ : Rect ℚ).Within (v.buttonFrame i) ↔
      60 ≤ v.SCREEN_WIDTH ∧ ((i : ℚ) - 3) * (v.SCREEN_WIDTH - 60) ≤ 180 - 40 * i ∧
        1 ≤ v.sectionNum := by
  have hw : 0 ≤ v.btn1Width ↔ 60 ≤ v.SCREEN_WIDTH := by
    rw [btn1Width_eq]
    constructor <;> intro h <;> linarith
  have hsection : (100 : ℚ) ≤ 100 * v.sectionNum ↔ 1 ≤ v.sectionNum := by
    rw [← Nat.one_le_cast (α := ℚ)]
    constructor <;> intro h <;> linarith
  rw [← hw, ← hsection]
  constructor
  · rintro ⟨hwidth, -, -, hright, -, hbottom⟩
    simp only [buttonFrame, dis_LEFTSCREEN, mid_distance, btn1Height, selectGroupViewHeight,
      zero_add] at hwidth hright hbottom
    refine ⟨hwidth, ?_, hbottom⟩
    rw [btn1Width_eq] at hright
    linarith
  · rintro ⟨hwidth, hright, hbottom⟩
    have hmul : 0 ≤ v.btn1Width * i := mul_nonneg hwidth (Nat.cast_nonneg i)
    have hi : (0 : ℚ) ≤ i := Nat.cast_nonneg i
    refine ⟨hwidth, by norm_num [buttonFrame, btn1Height], ?_, ?_, le_rfl, ?_⟩
    · simp only [buttonFrame, dis_LEFTSCREEN, mid_distance]
      linarith
    · simp only [buttonFrame, dis_LEFTSCREEN, mid_distance, zero_add, btn1Width_eq]
      linarith
    · simpa only [buttonFrame, btn1Height, selectGroupViewHeight, zero_add] using hbottom

/-- The buttons have their room: no button, or a screen wider than the margins and two to four of
them, or five on a screen of at most 80. -/
def Roomy (v : Args) : Prop :=
  v._textArray.length = 0 ∨
    60 ≤ v.SCREEN_WIDTH ∧ 2 ≤ v._textArray.length ∧
      (v._textArray.length ≤ 4 ∨ v._textArray.length = 5 ∧ v.SCREEN_WIDTH ≤ 80)

theorem one_le_sectionNum_iff (hn : 0 < v._textArray.length) :
    1 ≤ v.sectionNum ↔ 2 ≤ v._textArray.length := by
  unfold sectionNum rowNum
  omega

/-- **When the buttons fit.** -/
theorem fits_iff : v.Fits ↔ v._textArray.length ≤ v._imageArray.length ∧ v.Roomy := by
  rw [fits_iff_fitIn]
  refine and_congr_right fun _ => ?_
  rcases Nat.eq_zero_or_pos v._textArray.length with hn | hn
  · refine iff_of_true ?_ (Or.inl hn)
    rw [hn]
    exact ⟨by simp [frames], List.Pairwise.nil⟩
  · have hmem : ∀ i < v._textArray.length, v.buttonFrame i ∈ v.frames v._textArray.length :=
      fun i hi => List.mem_map.2 ⟨i, List.mem_range.2 hi, rfl⟩
    constructor
    · intro hfit
      have hlast := hfit.within _ (hmem (v._textArray.length - 1) (by omega))
      rw [buttonFrame_within_iff, one_le_sectionNum_iff hn, Nat.cast_sub hn, Nat.cast_one] at hlast
      obtain ⟨hwidth, hright, htwo⟩ := hlast
      refine Or.inr ⟨hwidth, htwo, ?_⟩
      rcases Nat.lt_or_ge v._textArray.length 5 with h4 | h5
      · exact Or.inl (by omega)
      · have h5' : (5 : ℚ) ≤ v._textArray.length := by exact_mod_cast h5
        have hmul := mul_nonneg (sub_nonneg.2 h5') (sub_nonneg.2 hwidth)
        rcases Nat.eq_or_lt_of_le h5 with heq | h6
        · rw [← heq] at hright
          norm_num at hright
          exact Or.inr ⟨heq.symm, by linarith⟩
        · -- the gaps of six buttons are past what the first four leave
          have h6' : (6 : ℚ) ≤ v._textArray.length := by exact_mod_cast h6
          linarith
    · rintro (h0 | ⟨hwidth, htwo, hcount⟩)
      · omega
      · have hw : 0 ≤ v.btn1Width := by
          rw [btn1Width_eq]
          linarith
        refine ⟨fun a ha => ?_, frames_disjoint hw _⟩
        obtain ⟨i, hi, rfl⟩ := List.mem_map.1 ha
        have hi : i < v._textArray.length := List.mem_range.1 hi
        rw [buttonFrame_within_iff, one_le_sectionNum_iff hn]
        refine ⟨hwidth, ?_, htwo⟩
        rcases Nat.lt_or_ge i 4 with h3 | h4
        · have h3' : (i : ℚ) ≤ 3 := by exact_mod_cast Nat.le_of_lt_succ h3
          have hmul := mul_nonneg (sub_nonneg.2 h3') (sub_nonneg.2 hwidth)
          linarith
        · obtain rfl : i = 4 := by omega
          have h80 : v.SCREEN_WIDTH ≤ 80 := (hcount.resolve_left (by omega)).2
          norm_num
          linarith

end ShareBottomPopView.Args

/-- **When the buttons of the two pop-ups fit.** -/
theorem layouts_fit_iff (p : PaymentSelectView.Args) (s : ShareBottomPopView.Args) :
    (p.Fits ↔ p._rowNum ≠ 0 ∧ p.Roomy) ∧
      (s.Fits ↔ s._textArray.length ≤ s._imageArray.length ∧ s.Roomy) :=
  ⟨PaymentSelectView.Args.fits_iff, ShareBottomPopView.Args.fits_iff⟩

/-- Four items in rows of three, and five buttons, on a screen of 375 by 667: the fourth item is
below the content, the fifth button past its right end. -/
theorem four_items_five_buttons :
    ¬ (PaymentSelectView.Args.Fits
        { SCREEN_WIDTH := 375, SCREEN_HEIGHT := 667,
          _selectArr := [some "a", some "b", some "c", some "d"], _selectIndex := 0,
          _title := some "t", _rowNum := 3, _hasCancelBtn := false }) ∧
      ¬ (ShareBottomPopView.Args.Fits
        { SCREEN_WIDTH := 375, SCREEN_HEIGHT := 667, _textArray := ["a", "b", "c", "d", "e"],
          _imageArray := ["a", "b", "c", "d", "e"] }) := by
  constructor
  · rw [PaymentSelectView.Args.fits_iff]
    rintro ⟨-, hroomy⟩
    norm_num [PaymentSelectView.Args.Roomy] at hroomy
  · rw [ShareBottomPopView.Args.fits_iff]
    rintro ⟨-, hroomy⟩
    norm_num [ShareBottomPopView.Args.Roomy] at hroomy

end RCSdk
