import RCSdk.Proof.FlowFrames

/-!
# The height that fits the items

Setting up makes the last item the bottom view. A view that is not a scroll view takes a height in
the same whole points, as a `float`, as the end of that item and the inset. Items of the rows above may end lower,
unless the items of each row are of one height (`flow_height`); whether any item is cut off the last
ones tell (`flow_fits_iff`).
-/

namespace RCSdk

open Grids Trans LayoutView Axis

variable {ι : Type} [DecidableEq ι]

namespace FlowView

variable {m : SDUIViewCategoryManager ι} {c c' init : FlowView ι} {width : ℚ} {u : ι}
  {h : List (FlowView ι × FlowEvent ι)}

/-! ## The bottom view -/

/-- **The last item is the bottom view**, and what is below it is the inset. -/
def BottomLast (c : FlowView ι) : Prop :=
  ∀ u, c.sd_categoryManager.flowItems.getLast? = some u →
    c.sd_bottomViewsArray = [u] ∧
      c.sd_bottomViewBottomMargin = c.sd_categoryManager.verticalEdgeInset

omit [DecidableEq ι] in
theorem bottomLast_setup (vs : List ι) (n : ℕ) (vm hm vI hI : ℚ) (c : FlowView ι) :
    BottomLast (c.setupAutoWidthFlowItems vs n vm hm vI hI) := by
  intro u hu
  have hlast : vs.getLast? = some u := by
    unfold setupAutoWidthFlowItems at hu
    dsimp only at hu
    split at hu <;> exact hu
  simp only [setupAutoWidthFlowItems, hlast, setupAutoHeight, and_self]

omit [DecidableEq ι] in
theorem fitHeight_keeps (c : FlowView ι) :
    c.fitHeight.sd_categoryManager = c.sd_categoryManager ∧
      c.fitHeight.sd_bottomViewsArray = c.sd_bottomViewsArray ∧
      c.fitHeight.sd_bottomViewBottomMargin = c.sd_bottomViewBottomMargin := by
  unfold fitHeight
  split
  · exact ⟨rfl, rfl, rfl⟩
  · split
    · exact ⟨rfl, rfl, rfl⟩
    · split_ifs <;> exact ⟨rfl, rfl, rfl⟩

omit [DecidableEq ι] in
theorem managerAt_verticalEdgeInset (m : SDUIViewCategoryManager ι) (width : ℚ) :
    (managerAt m width).verticalEdgeInset = m.verticalEdgeInset := by
  unfold managerAt
  split_ifs <;> rfl

/-- A layout finds the bottom view as it was. -/
theorem BottomLast.prepare (hb : BottomLast c) : BottomLast c.prepare := by
  have hp := prepare_spec c
  intro u hu
  rw [hp.sd_categoryManager, managerAt_flowItems] at hu
  rw [hp.sd_bottomViewsArray, hp.sd_bottomViewBottomMargin, hp.sd_categoryManager,
    managerAt_verticalEdgeInset]
  exact hb u hu

theorem BottomLast.step {a : FlowEvent ι} (hb : BottomLast c) (hst : c.step a = some c') :
    BottomLast c' := by
  cases a with
  | setupAutoWidthFlowItems vs n vm hm vI hI =>
    obtain rfl := Option.some.inj hst
    exact bottomLast_setup vs n vm hm vI hI c
  | setupAutoMarginFlowItems vs n w vm vI hI =>
    obtain rfl := Option.some.inj hst
    exact bottomLast_setup vs n vm 0 vI hI _
  | setSd_equalWidthSubviews vs =>
    obtain rfl := Option.some.inj hst
    exact hb
  | setFrame frame =>
    obtain rfl := Option.some.inj hst
    exact hb
  | setSubviewFrame view frame =>
    obtain rfl := Option.some.inj hst
    exact hb
  | setText view text =>
    simp only [FlowView.step] at hst
    split_ifs at hst
    obtain rfl := Option.some.inj hst
    exact hb
  | layoutSubviews =>
    obtain rfl := Option.some.inj hst
    obtain ⟨h₁, h₂, h₃⟩ := fitHeight_keeps c.prepare.layoutModels
    intro u hu
    rw [sd_layoutSubviewsHandle_eq, h₁] at hu
    rw [sd_layoutSubviewsHandle_eq, h₁, h₂, h₃]
    exact hb.prepare u hu

theorem bottomLast_of_run (hfresh : init.sd_categoryManager = {}) (hr : Run step init h c) :
    BottomLast c := by
  induction hr with
  | nil =>
    intro u hu
    rw [hfresh] at hu
    cases hu
  | snoc _ hst ih => exact ih.step hst

/-! ## The height -/

omit [DecidableEq ι] in
theorem contentHeight_last (hb : c.sd_bottomViewsArray = [u])
    (hpos : 0 ≤ bottom_sd (c.views u).frame) :
    c.contentHeight = bottom_sd (c.views u).frame + floatValue c.sd_bottomViewBottomMargin := by
  rw [contentHeight, hb, List.foldl_cons, List.foldl_nil, max_eq_right hpos]

omit [DecidableEq ι] in
/-- A view takes a height in the same whole points. -/
theorem fitHeight_frame (hsize : c.contentSize = none) (hb : c.sd_bottomViewsArray ≠ [])
    (hpos : 0 ≤ c.contentHeight) :
    ⌊floatValue c.fitHeight.frame.height⌋ = ⌊floatValue c.contentHeight⌋ := by
  rw [fitHeight, if_neg hb, hsize]
  dsimp only
  split_ifs with hfloor
  · dsimp only
    rw [abs_of_nonneg hpos, floatValue_floatValue]
  · exact (not_not.1 hfloor).symm

omit [DecidableEq ι] in
/-- A scroll view takes the height for its content. -/
theorem fitHeight_contentSize {size : ℚ × ℚ} (hsize : c.contentSize = some size)
    (hb : c.sd_bottomViewsArray ≠ []) (hpos : 0 < c.contentHeight) :
    c.fitHeight.contentSize.map Prod.snd = some c.contentHeight := by
  rw [fitHeight, if_neg hb, hsize]
  dsimp only
  rw [if_pos hpos, Option.map_some]

omit [DecidableEq ι] in
/-- Where the items of a row are of one height, none ends below one of a later row. -/
theorem flowFrame_bottom_le {height : ℕ → ℚ} {last idx : ℕ} (hn : 0 < m.perRowItemsCount)
    (hheight : ∀ i, 0 ≤ height i) (hy : 0 ≤ floatValue m.verticalMargin)
    (hrow : ∀ i ≤ last, ∀ j ≤ last, i / m.perRowItemsCount = j / m.perRowItemsCount →
      height i = height j) (hidx : idx ≤ last) :
    bottom_sd (flowFrame m width height idx) ≤ bottom_sd (flowFrame m width height last) := by
  set n := m.perRowItemsCount
  have hdiv : idx / n ≤ last / n := Nat.div_le_div_right hidx
  -- above them the two columns are alike
  have hsum : ∑ k ∈ Finset.range (last / n), (height (idx % n + k * n) + floatValue m.verticalMargin) =
      ∑ k ∈ Finset.range (last / n), (height (last % n + k * n) + floatValue m.verticalMargin) := by
    refine Finset.sum_congr rfl fun k hk => ?_
    have hin : ∀ i : ℕ, i % n + k * n ≤ last ∧ (i % n + k * n) / n = k := by
      intro i
      have hmod : i % n < n := Nat.mod_lt i hn
      have hle : (k + 1) * n ≤ last / n * n := Nat.mul_le_mul_right n (Finset.mem_range.1 hk)
      have hlast : last / n * n ≤ last := Nat.div_mul_le_self last n
      rw [Nat.add_mul, Nat.one_mul] at hle
      exact ⟨by omega, by rw [Nat.add_mul_div_right _ _ hn, Nat.div_eq_of_lt hmod, Nat.zero_add]⟩
    rw [hrow _ (hin idx).1 _ (hin last).1 ((hin idx).2.trans (hin last).2.symm)]
  simp only [flowFrame, bottom_sd]
  rcases hdiv.eq_or_lt with heq | hlt
  · rw [heq, hsum, hrow idx hidx last le_rfl heq]
  · have hmono : ∑ k ∈ Finset.range (idx / n + 1),
          (height (idx % n + k * n) + floatValue m.verticalMargin) ≤
        ∑ k ∈ Finset.range (last / n), (height (idx % n + k * n) + floatValue m.verticalMargin) :=
      Finset.sum_le_sum_of_subset_of_nonneg (Finset.range_mono hlt) fun k _ _ =>
        add_nonneg (hheight _) hy
    rw [Finset.sum_range_succ, Nat.mod_add_div', hsum] at hmono
    have := hheight last
    linarith

omit [DecidableEq ι] in
/-- Down a column the items end lower and lower. -/
theorem flowFrame_bottom_column {height : ℕ → ℚ} (hn : 0 < m.perRowItemsCount)
    (hheight : ∀ i, 0 ≤ height i) (hy : 0 ≤ floatValue m.verticalMargin) (idx k : ℕ) :
    bottom_sd (flowFrame m width height idx) ≤
      bottom_sd (flowFrame m width height (idx + k * m.perRowItemsCount)) := by
  induction k with
  | zero => rw [Nat.zero_mul, Nat.add_zero]
  | succ k ih =>
    have hfirst : m.perRowItemsCount ≤ idx + (k + 1) * m.perRowItemsCount := by
      rw [Nat.add_mul]
      omega
    obtain ⟨-, hbelow⟩ := flowFrame_below width height hn hfirst
    have habove : idx + (k + 1) * m.perRowItemsCount - m.perRowItemsCount =
        idx + k * m.perRowItemsCount := by
      rw [Nat.add_mul]
      omega
    rw [habove] at hbelow
    have hend := hheight (idx + (k + 1) * m.perRowItemsCount)
    have hbottom : bottom_sd (flowFrame m width height (idx + (k + 1) * m.perRowItemsCount)) =
        bottom_sd (flowFrame m width height (idx + k * m.perRowItemsCount)) +
          floatValue m.verticalMargin + height (idx + (k + 1) * m.perRowItemsCount) := by
      rw [← hbelow]
      rfl
    linarith

theorem itemFrame_bottom_nonneg (hf : FlowRun init h c)
    (hinset : 0 ≤ c.sd_categoryManager.verticalEdgeInset)
    (hy : 0 ≤ c.sd_categoryManager.verticalMargin) (idx : ℕ) :
    0 ≤ bottom_sd (c.itemFrame idx) := by
  have hheight := itemHeight_nonneg hf
  have hgap := floatValue_nonneg hy
  exact add_nonneg (add_nonneg (floatValue_nonneg hinset)
    (Finset.sum_nonneg fun k _ => add_nonneg (hheight _) hgap)) (hheight idx)

/-- **The height fits the last item.** A view takes the whole points of where that item ends, with
the inset, as `floorf` has them of a `float`; a scroll view takes exactly that for its content.
Where the items of each row are of one height no item ends lower. -/
theorem flow_height (hf : FlowRun init h c) (hst : c.step .layoutSubviews = some c')
    (horder : c.sd_categoryManager.flowItems.Sublist c'.autoLayoutModelsArray)
    (hlast : c.sd_categoryManager.flowItems.getLast? = some u)
    (hinset : 0 ≤ c.sd_categoryManager.verticalEdgeInset)
    (hy : 0 ≤ c.sd_categoryManager.verticalMargin) :
    let height := bottom_sd (c'.views u).frame +
      floatValue c.sd_categoryManager.verticalEdgeInset
    (c.contentSize = none → ⌊floatValue c'.frame.height⌋ = ⌊floatValue height⌋) ∧
    (∀ size, c.contentSize = some size → 0 < height →
      c'.contentSize.map Prod.snd = some height) ∧
    ((∀ i < c.sd_categoryManager.flowItems.length, ∀ j < c.sd_categoryManager.flowItems.length,
        i / c.sd_categoryManager.perRowItemsCount = j / c.sd_categoryManager.perRowItemsCount →
        c.itemHeight i = c.itemHeight j) →
      ∀ v ∈ c.sd_categoryManager.flowItems,
        bottom_sd (c'.views v).frame ≤ bottom_sd (c'.views u).frame) := by
  intro height
  have hframe : ∀ {idx v}, c.sd_categoryManager.flowItems[idx]? = some v →
      (c'.views v).frame = c.itemFrame idx := hf.frame_eq hst horder
  have hu : c.sd_categoryManager.flowItems[c.sd_categoryManager.flowItems.length - 1]? = some u := by
    rw [← List.getLast?_eq_getElem?, hlast]
  obtain rfl : c.sd_layoutSubviewsHandle = c' := Option.some.inj hst
  have hp := prepare_spec c
  -- the loop leaves the bottom view, and the content ends below it
  obtain ⟨hb, hmargin⟩ := (bottomLast_of_run hf.fresh hf.run) u hlast
  have hb' : c.prepare.layoutModels.sd_bottomViewsArray = [u] := hp.sd_bottomViewsArray.trans hb
  have hmargin' : c.prepare.layoutModels.sd_bottomViewBottomMargin =
      c.sd_categoryManager.verticalEdgeInset := hp.sd_bottomViewBottomMargin.trans hmargin
  have hviews := (sd_layoutSubviewsHandle_spec c).2.2.2.1
  have hpos : 0 ≤ bottom_sd (c.sd_layoutSubviewsHandle.views u).frame :=
    hframe hu ▸ itemFrame_bottom_nonneg hf hinset hy _
  have hcontent : c.prepare.layoutModels.contentHeight = height := by
    rw [contentHeight_last hb' (hviews ▸ hpos), hmargin', ← hviews]
  have hne : c.prepare.layoutModels.sd_bottomViewsArray ≠ [] := hb' ▸ List.cons_ne_nil u []
  refine ⟨fun hsize => ?_, fun size hsize hheight => ?_, fun hrow v hv => ?_⟩
  · rw [← hcontent, sd_layoutSubviewsHandle_eq]
    exact fitHeight_frame (hp.contentSize.trans hsize) hne
      (hcontent ▸ add_nonneg hpos (floatValue_nonneg hinset))
  · rw [← hcontent, sd_layoutSubviewsHandle_eq]
    exact fitHeight_contentSize (hp.contentSize.trans hsize) hne (hcontent ▸ hheight)
  · obtain ⟨idx, hidx, rfl⟩ := List.getElem_of_mem hv
    rw [hframe (List.getElem?_eq_getElem hidx), hframe hu]
    exact flowFrame_bottom_le hf.perRow (itemHeight_nonneg hf) (floatValue_nonneg hy)
      (fun i hi j hj => hrow i (by omega) j (by omega)) (by omega)

theorem flow_height_three :
    ⌊floatValue (threeItems [0, 1, 2]).sd_layoutSubviewsHandle.frame.height⌋ = 45 ∧
      ∀ v ∈ [0, 1, 2], bottom_sd ((threeItems [0, 1, 2]).sd_layoutSubviewsHandle.views v).frame ≤
        bottom_sd ((threeItems [0, 1, 2]).sd_layoutSubviewsHandle.views 2).frame := by
  obtain ⟨hfloor, -, hrows⟩ := flow_height (u := 2)
    (@flowRun_threeItems [0, 1, 2] (by decide) (by decide)) rfl (by decide +kernel) rfl le_rfl
    (show (0 : ℚ) ≤ 5 by decide)
  refine ⟨(hfloor rfl).trans ?_, hrows ?_⟩
  · decide +kernel
  · decide +kernel

/-- **No item is cut off exactly when none of the last ones is**, those that no item is below. -/
theorem flow_fits_iff (hf : FlowRun init h c) (hst : c.step .layoutSubviews = some c')
    (horder : c.sd_categoryManager.flowItems.Sublist c'.autoLayoutModelsArray)
    (hy : 0 ≤ c.sd_categoryManager.verticalMargin) (height : ℚ) :
    (∀ v ∈ c.sd_categoryManager.flowItems, bottom_sd (c'.views v).frame ≤ height) ↔
      ∀ v ∈ c.sd_categoryManager.flowItems.drop
          (c.sd_categoryManager.flowItems.length - c.sd_categoryManager.perRowItemsCount),
        bottom_sd (c'.views v).frame ≤ height := by
  refine ⟨fun hall v hv => hall v (List.mem_of_mem_drop hv), fun hlast v hv => ?_⟩
  obtain ⟨idx, hidx, rfl⟩ := List.getElem_of_mem hv
  have hn := hf.perRow
  set items := c.sd_categoryManager.flowItems
  set n := c.sd_categoryManager.perRowItemsCount
  -- the last item of its column
  set k := (items.length - 1 - idx) / n
  have hk : k * n ≤ items.length - 1 - idx := Nat.div_mul_le_self _ _
  have hk' : items.length - 1 - idx < k * n + n := Nat.lt_div_mul_add hn
  have hin : idx + k * n < items.length := by omega
  obtain ⟨w, hw⟩ : ∃ w, items[idx + k * n]? = some w := ⟨_, List.getElem?_eq_getElem hin⟩
  have hmem : w ∈ items.drop (items.length - n) := by
    apply List.mem_of_getElem? (i := idx + k * n - (items.length - n))
    rw [List.getElem?_drop, Nat.add_sub_cancel' (by omega), hw]
  refine le_trans ?_ (hlast w hmem)
  rw [hf.frame_eq hst horder (List.getElem?_eq_getElem hidx), hf.frame_eq hst horder hw]
  exact flowFrame_bottom_column hn (itemHeight_nonneg hf) (floatValue_nonneg hy) idx k

theorem flow_fits_three :
    bottom_sd ((threeItems [0, 1, 2]).sd_layoutSubviewsHandle.views 0).frame ≤ 45 :=
  (flow_fits_iff (@flowRun_threeItems [0, 1, 2] (by decide) (by decide)) rfl (by decide +kernel)
    (show (0 : ℚ) ≤ 5 by decide) 45).2 (by decide +kernel) 0 List.mem_cons_self

end FlowView

end RCSdk
