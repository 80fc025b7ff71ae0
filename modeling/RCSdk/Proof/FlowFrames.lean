import Mathlib.Algebra.BigOperators.Group.Finset.Basic
import Mathlib.Algebra.Order.BigOperators.Group.Finset
import RCSdk.Proof.FlowArrangement

/-!
# Where the items end up

The items stand in columns, row by row, each right below the one above it (`flowFrame`).

* `flow_frames`: laid out in their own order, every item is there from the first layout on.
* `flow_settles`: in any order, each is there after as many layouts as its row and column.
* `flow_apart`: there no two of them meet, and the last column ends where the inset begins, up to
  what its lengths lose as `float`s.
-/

namespace RCSdk

open Grids Trans LayoutView Axis

variable {ι : Type} [DecidableEq ι]

namespace FlowView

variable {m : SDUIViewCategoryManager ι} {c c' init : FlowView ι} {width : ℚ} {idx : ℕ} {v : ι}
  {h : List (FlowView ι × FlowEvent ι)}

/-- The height of an item of a width. -/
def flowHeight (s : LayoutSettings ι) (width : ℚ) : ℚ :=
  (s.model.height.map floatValue).getD (autoHeightOf s width)

/-- **The frame of the `idx`-th item** in a view of a width, where `height` are the heights of the
items. All columns are of one width. -/
def flowFrame (m : SDUIViewCategoryManager ι) (width : ℚ) (height : ℕ → ℚ) (idx : ℕ) : Rect ℚ where
  x := floatValue m.horizontalEdgeInset + (idx % m.perRowItemsCount : ℕ) *
    (floatValue (itemWidth m width) + floatValue (horizontalMargin m width))
  y := floatValue m.verticalEdgeInset + ∑ k ∈ Finset.range (idx / m.perRowItemsCount),
    (height (idx % m.perRowItemsCount + k * m.perRowItemsCount) + floatValue m.verticalMargin)
  width := floatValue (itemWidth m width)
  height := height idx

/-- The heights of the items. -/
def itemHeight (c : FlowView ι) (idx : ℕ) : ℚ :=
  (c.sd_categoryManager.flowItems[idx]?).elim 0 fun v =>
    flowHeight (c.layoutOf v) (floatValue (itemWidth c.sd_categoryManager c.frame.width))

/-! ## The columns -/

omit [DecidableEq ι] in
theorem flowFrame_head (m : SDUIViewCategoryManager ι) (width : ℚ) (height : ℕ → ℚ) :
    (flowFrame m width height 0).x = floatValue m.horizontalEdgeInset ∧
      (flowFrame m width height 0).y = floatValue m.verticalEdgeInset := by
  simp [flowFrame]

omit [DecidableEq ι] in
theorem flowFrame_row (width : ℚ) (height : ℕ → ℚ) (hpos : 0 < idx) (hidx : idx < m.perRowItemsCount) :
    (flowFrame m width height idx).x = right_sd (flowFrame m width height (idx - 1)) +
        floatValue (horizontalMargin m width) ∧
      (flowFrame m width height idx).y = (flowFrame m width height (idx - 1)).y := by
  obtain ⟨k, rfl⟩ := Nat.exists_eq_succ_of_ne_zero hpos.ne'
  have hk : k < m.perRowItemsCount := by omega
  simp only [flowFrame, right_sd, Nat.succ_eq_add_one, Nat.add_sub_cancel, Nat.mod_eq_of_lt hidx,
    Nat.mod_eq_of_lt hk, Nat.div_eq_of_lt hidx, Nat.div_eq_of_lt hk]
  constructor
  · push_cast
    ring
  · trivial

omit [DecidableEq ι] in
theorem flowFrame_below (width : ℚ) (height : ℕ → ℚ) (hn : 0 < m.perRowItemsCount)
    (hidx : m.perRowItemsCount ≤ idx) :
    (flowFrame m width height idx).x = (flowFrame m width height (idx - m.perRowItemsCount)).x ∧
      (flowFrame m width height idx).y =
        bottom_sd (flowFrame m width height (idx - m.perRowItemsCount)) +
          floatValue m.verticalMargin := by
  have hmod := Nat.mod_eq_sub_mod hidx
  have hdiv := Nat.div_eq_sub_div hn hidx
  have habove : (idx - m.perRowItemsCount) % m.perRowItemsCount +
      (idx - m.perRowItemsCount) / m.perRowItemsCount * m.perRowItemsCount =
      idx - m.perRowItemsCount := Nat.mod_add_div' _ _
  simp only [flowFrame, bottom_sd, hmod, hdiv, Finset.sum_range_succ, habove]
  constructor
  · trivial
  · ring

/-! ## One item -/

omit [DecidableEq ι] in
/-- What an item refers to. -/
theorem itemRef_cases (hn : 0 < m.perRowItemsCount) (hv : m.flowItems[idx]? = some v) :
    (flowPart m.perRowItemsCount idx = .head ∧ idx = 0 ∧ itemRef m idx = .superview) ∨
    (∃ u, flowPart m.perRowItemsCount idx = .row ∧ 0 < idx ∧ idx < m.perRowItemsCount ∧
      m.flowItems[idx - 1]? = some u ∧ itemRef m idx = .sibling u) ∨
    ∃ u, flowPart m.perRowItemsCount idx = .below ∧ m.perRowItemsCount ≤ idx ∧
      m.flowItems[idx - m.perRowItemsCount]? = some u ∧ itemRef m idx = .sibling u := by
  have hlt : idx < m.flowItems.length := (List.getElem?_eq_some_iff.1 hv).1
  by_cases hidx : idx < m.perRowItemsCount
  · by_cases hzero : idx = 0
    · refine Or.inl ⟨?_, hzero, ?_⟩
      · rw [flowPart, if_pos hidx, if_pos hzero]
      · rw [itemRef, if_pos hidx, if_pos hzero]
    · obtain ⟨u, hu⟩ : ∃ u, m.flowItems[idx - 1]? = some u :=
        ⟨m.flowItems.get ⟨idx - 1, by omega⟩, List.getElem?_eq_getElem _⟩
      refine Or.inr (Or.inl ⟨_, ?_, by omega, hidx, hu, ?_⟩)
      · rw [flowPart, if_pos hidx, if_neg hzero]
      · rw [itemRef, if_pos hidx, if_neg hzero, hu, refOf]
  · obtain ⟨u, hu⟩ : ∃ u, m.flowItems[idx - m.perRowItemsCount]? = some u :=
      ⟨m.flowItems.get ⟨idx - m.perRowItemsCount, by omega⟩, List.getElem?_eq_getElem _⟩
    refine Or.inr (Or.inr ⟨_, ?_, by omega, hu, ?_⟩)
    · rw [flowPart, if_neg hidx]
    · rw [itemRef, if_neg hidx, hu, refOf]

/-- What is asked of an arranged item: only the edges its part asks for. -/
structure Placed (m : SDUIViewCategoryManager ι) (width : ℚ) (idx : ℕ) (s : LayoutSettings ι) :
    Prop where
  isItem : IsItem s
  placed : place m width idx s = s
  edges : EdgesFrom (· = flowPart m.perRowItemsCount idx) s.model

namespace Placed

variable {s : LayoutSettings ι} {rd : RefView ι → Rect ℚ}

omit [DecidableEq ι]

theorem model_width (hp : Placed m width idx s) : s.model.width = some (itemWidth m width) := by
  have h := congrArg (·.model.width) hp.placed
  rw [← h]
  simp only [place, placeModel]
  split <;> rfl

/-- The edges of the head. -/
theorem head (hp : Placed m width idx s) (hpart : flowPart m.perRowItemsCount idx = .head) :
    s.model.left = some ⟨.view (itemRef m idx), m.horizontalEdgeInset⟩ ∧
      s.model.top = some ⟨.view (itemRef m idx), m.verticalEdgeInset⟩ ∧
      s.model.equalLeft = none ∧ s.model.equalTop = none := by
  have hplaced := hp.placed
  simp only [place, placeModel, hpart] at hplaced
  have hedges := hp.edges
  rw [hpart] at hedges
  refine ⟨congrArg (·.model.left) hplaced.symm, congrArg (·.model.top) hplaced.symm, ?_, ?_⟩
  · exact Option.not_isSome_iff_eq_none.1 fun h => FlowPart.noConfusion (hedges.equalLeft h)
  · exact Option.not_isSome_iff_eq_none.1 fun h => FlowPart.noConfusion (hedges.equalTop h)

/-- The edges of an item behind it, in the first row. -/
theorem row (hp : Placed m width idx s) (hpart : flowPart m.perRowItemsCount idx = .row) :
    s.model.left = some ⟨.view (itemRef m idx), horizontalMargin m width⟩ ∧
      s.model.equalTop = some ⟨itemRef m idx, 0⟩ ∧ s.model.equalLeft = none ∧
      s.model.top = none := by
  have hplaced := hp.placed
  simp only [place, placeModel, hpart] at hplaced
  have hedges := hp.edges
  rw [hpart] at hedges
  refine ⟨congrArg (·.model.left) hplaced.symm, congrArg (·.model.equalTop) hplaced.symm, ?_, ?_⟩
  · exact Option.not_isSome_iff_eq_none.1 fun h => FlowPart.noConfusion (hedges.equalLeft h)
  · refine Option.not_isSome_iff_eq_none.1 fun h => ?_
    rcases hedges.top h with h | h <;> cases h

/-- The edges of an item below the first row. -/
theorem below (hp : Placed m width idx s) (hpart : flowPart m.perRowItemsCount idx = .below) :
    s.model.equalLeft = some ⟨itemRef m idx, 0⟩ ∧
      s.model.top = some ⟨.view (itemRef m idx), m.verticalMargin⟩ ∧ s.model.left = none ∧
      s.model.equalTop = none := by
  have hplaced := hp.placed
  simp only [place, placeModel, hpart] at hplaced
  have hedges := hp.edges
  rw [hpart] at hedges
  refine ⟨congrArg (·.model.equalLeft) hplaced.symm, congrArg (·.model.top) hplaced.symm, ?_, ?_⟩
  · refine Option.not_isSome_iff_eq_none.1 fun h => ?_
    rcases hedges.left h with h | h <;> cases h
  · exact Option.not_isSome_iff_eq_none.1 fun h => FlowPart.noConfusion (hedges.equalTop h)

/-- One near edge is asked for on each axis. -/
theorem near_isSome (hp : Placed m width idx s) :
    (s.model.left.isSome || s.model.equalLeft.isSome) = true ∧
      (s.model.top.isSome || s.model.equalTop.isSome) = true := by
  cases hpart : flowPart m.perRowItemsCount idx with
  | head =>
    obtain ⟨h₁, h₂, -, -⟩ := hp.head hpart
    simp [h₁, h₂]
  | row =>
    obtain ⟨h₁, h₂, -, -⟩ := hp.row hpart
    simp [h₁, h₂]
  | below =>
    obtain ⟨h₁, h₂, -, -⟩ := hp.below hpart
    simp [h₁, h₂]

theorem wellPosed (hp : Placed m width idx s) : WellPosed s where
  laidOut := hp.isItem.laidOut
  widthEqualHeight := hp.isItem.widthEqualHeight
  heightEqualWidth := hp.isItem.heightEqualWidth
  limits := hp.isItem.limits
  autoWidthRatio := hp.isItem.autoWidthRatio
  text hmax := by
    rw [hp.isItem.maxWidth] at hmax
    cases hmax
  autoHeight hauto := by
    have hheight := hp.isItem.height
    rw [hauto] at hheight
    exact ⟨by simpa using hheight, hp.isItem.ratios.2⟩
  axisX := by
    obtain ⟨hright, hequal, -, -⟩ := hp.isItem.far
    simp [FixesAxis, hp.near_isSome.1, hright, hequal, hp.model_width]
  axisY := by
    obtain ⟨-, -, hbottom, hequal⟩ := hp.isItem.far
    have hheight := hp.isItem.height
    have hone : (s.model.height.isSome || s.autoHeightRatioValue.isSome) = true := by
      cases hs : s.model.height.isSome with
      | true => rfl
      | false => simpa [hs, Option.isSome_iff_ne_none] using hheight
    simp [FixesAxis, hp.near_isSome.2, hbottom, hequal, hp.isItem.ratios.2, hone]

/-- An item names no other view than the one it refers to. -/
theorem names (hp : Placed m width idx s) {ref : RefView ι} (hname : s.model.Names ref) :
    ref = itemRef m idx := by
  obtain ⟨hright, hequalRight, hbottom, hequalBottom⟩ := hp.isItem.far
  obtain ⟨-, -, hcenterX, hcenterY⟩ := hp.isItem.center
  obtain ⟨hratioX, hratioY⟩ := hp.isItem.ratios
  simp only [SDAutoLayoutModel.Names, SDAutoLayoutModel.marginItems, SDAutoLayoutModel.equalItems,
    SDAutoLayoutModel.ratioItems, hright, hequalRight, hbottom, hequalBottom, hcenterX, hcenterY,
    hratioX, hratioY] at hname
  cases hpart : flowPart m.perRowItemsCount idx with
  | head =>
    obtain ⟨h₁, h₂, h₃, h₄⟩ := hp.head hpart
    simpa [h₁, h₂, h₃, h₄, ViewOrViewsArray.refViews] using hname
  | row =>
    obtain ⟨h₁, h₂, h₃, h₄⟩ := hp.row hpart
    simpa [h₁, h₂, h₃, h₄, ViewOrViewsArray.refViews] using hname
  | below =>
    obtain ⟨h₁, h₂, h₃, h₄⟩ := hp.below hpart
    simpa [h₁, h₂, h₃, h₄, ViewOrViewsArray.refViews] using hname

/-- Nothing is asked of the far edges, and the sizes are the ones set. -/
theorem asks (hp : Placed m width idx s) (rd : RefView ι → Rect ℚ) :
    (asksX rd s).far = none ∧ setWidthOf rd s = some (floatValue (itemWidth m width)) ∧
      (asksY rd s).far = none ∧ setHeightOf rd s = s.model.height.map floatValue := by
  obtain ⟨hright, hequalRight, hbottom, hequalBottom⟩ := hp.isItem.far
  refine ⟨?_, ?_, ?_, ?_⟩
  · simp [asksX, farEdge, hright, hequalRight]
  · simp [setWidthOf, hp.model_width]
  · simp [asksY, farEdge, hbottom, hequalBottom]
  · simp [setHeightOf, hp.isItem.ratios.2]

theorem definite (hp : Placed m width idx s) (hwidth : 0 ≤ floatValue (itemWidth m width))
    (rd : RefView ι → Rect ℚ) : Definite rd s := by
  obtain ⟨hfarX, hsizeX, hfarY, hsizeY⟩ := hp.asks rd
  have hview : ∀ item ∈ [s.model.left, s.model.top], ∀ refs value,
      item ≠ some ⟨.viewsArray refs, value⟩ := by
    simp only [List.forall_mem_cons, List.not_mem_nil, false_implies, implies_true, and_true]
    cases hpart : flowPart m.perRowItemsCount idx with
    | head =>
      obtain ⟨h₁, h₂, -, -⟩ := hp.head hpart
      simp [h₁, h₂]
    | row =>
      obtain ⟨h₁, -, -, h₂⟩ := hp.row hpart
      simp [h₁, h₂]
    | below =>
      obtain ⟨-, h₁, h₂, -⟩ := hp.below hpart
      simp [h₁, h₂]
  refine ⟨fun refs value h => ?_, fun refs value h => ?_, ?_, ?_, ?_, ?_⟩
  · exact absurd h (hview _ List.mem_cons_self refs value)
  · exact absurd h (hview _ (List.mem_cons_of_mem _ List.mem_cons_self) refs value)
  · intro z hz
    rw [hsizeX] at hz
    exact Option.some.inj hz ▸ hwidth
  · intro z hz
    rw [hsizeY, Option.map_eq_some_iff] at hz
    obtain ⟨z, hheight, rfl⟩ := hz
    exact floatValue_nonneg (hp.isItem.height_nonneg z hheight)
  · intro e e' _ he'
    rw [hfarX] at he'
    cases he'
  · intro e e' _ he'
    rw [hfarY] at he'
    cases he'

/-- **The near edges**, where the view that is referred to has the frame of its item. -/
theorem near (hp : Placed m width idx s) (height : ℕ → ℚ) (hn : 0 < m.perRowItemsCount)
    (hv : m.flowItems[idx]? = some v)
    (hrd : ∀ j < idx, ∀ u, m.flowItems[j]? = some u →
      itemRef m idx = .sibling u → rd (.sibling u) = flowFrame m width height j) :
    (asksX rd s).near = some (flowFrame m width height idx).x ∧
      (asksY rd s).near = some (flowFrame m width height idx).y := by
  rcases itemRef_cases hn hv with ⟨hpart, rfl, href⟩ | ⟨u, hpart, hpos, hidx, hu, href⟩ |
    ⟨u, hpart, hidx, hu, href⟩
  · obtain ⟨h₁, h₂, -, -⟩ := hp.head hpart
    obtain ⟨hx, hy⟩ := flowFrame_head m width height
    rw [hx, hy]
    simp [asksX, asksY, nearEdge, h₁, h₂, href, behind]
  · obtain ⟨h₁, h₂, -, h₄⟩ := hp.row hpart
    obtain ⟨hx, hy⟩ := flowFrame_row width height hpos hidx
    have hframe := hrd (idx - 1) (by omega) u hu href
    rw [hx, hy, ← hframe]
    simp [asksX, asksY, nearEdge, h₁, h₂, h₄, href, behind, equalTo, RefView.isSuperview, Axis.far,
      horizontal, vertical, right_sd, left_sd, width_sd, top_sd]
  · obtain ⟨h₁, h₂, h₃, -⟩ := hp.below hpart
    obtain ⟨hx, hy⟩ := flowFrame_below width height hn hidx
    have hframe := hrd (idx - m.perRowItemsCount) (by omega) u hu href
    rw [hx, hy, ← hframe]
    simp [asksX, asksY, nearEdge, h₁, h₂, h₃, href, behind, equalTo, RefView.isSuperview, Axis.far,
      horizontal, vertical, bottom_sd, left_sd, top_sd, height_sd]

end Placed

/-! ## All items -/

/-- The items are arranged for a width, and may be. -/
structure Rows (m : SDUIViewCategoryManager ι) (width : ℚ) (settings : ι → LayoutSettings ι) :
    Prop where
  distinct : m.flowItems.Nodup
  perRow : 0 < m.perRowItemsCount
  width_pos : 0 < floatValue (itemWidth m width)
  placed : ∀ idx v, m.flowItems[idx]? = some v → Placed m width idx (settings v)

/-- The heights of the items. -/
def rowHeight (m : SDUIViewCategoryManager ι) (width : ℚ) (settings : ι → LayoutSettings ι)
    (idx : ℕ) : ℚ :=
  (m.flowItems[idx]?).elim 0 fun v => flowHeight (settings v) (floatValue (itemWidth m width))

/-- An item refers to another one. -/
def Refers (m : SDUIViewCategoryManager ι) (v u : ι) : Prop :=
  ∃ idx, m.flowItems[idx]? = some v ∧ itemRef m idx = .sibling u

/-- An item has its frame. -/
def InPlace (m : SDUIViewCategoryManager ι) (width : ℚ) (settings : ι → LayoutSettings ι) (v : ι)
    (x : LayoutView ι) : Prop :=
  ∀ idx, m.flowItems[idx]? = some v →
    x.frame = flowFrame m width (rowHeight m width settings) idx

section Rows

variable {settings : ι → LayoutSettings ι} {superview : Rect ℚ} {models : List ι}
  {views : ι → LayoutView ι} (hrows : Rows m width settings)

include hrows

omit [DecidableEq ι] in
/-- An item refers to one in front of it. -/
theorem Rows.refers {u : ι} (hv : m.flowItems[idx]? = some v) (hu : itemRef m idx = .sibling u) :
    ∃ j < idx, m.flowItems[j]? = some u ∧ j + 1 ≤ idx ∧
      j % m.perRowItemsCount + j / m.perRowItemsCount <
        idx % m.perRowItemsCount + idx / m.perRowItemsCount := by
  have hn := hrows.perRow
  rcases itemRef_cases hn hv with ⟨-, -, href⟩ | ⟨w, -, hpos, hidx, hw, href⟩ |
    ⟨w, -, hidx, hw, href⟩
  · rw [hu] at href
    cases href
  · obtain rfl : u = w := RefView.sibling.inj (hu.symm.trans href)
    refine ⟨idx - 1, by omega, hw, by omega, ?_⟩
    rw [Nat.mod_eq_of_lt hidx, Nat.div_eq_of_lt hidx, Nat.mod_eq_of_lt (by omega),
      Nat.div_eq_of_lt (by omega)]
    omega
  · obtain rfl : u = w := RefView.sibling.inj (hu.symm.trans href)
    refine ⟨idx - m.perRowItemsCount, by omega, hw, by omega, ?_⟩
    rw [Nat.mod_eq_sub_mod hidx, Nat.div_eq_sub_div hn hidx]
    omega

/-- **An item laid out among items that are in place gets its frame.** -/
theorem Rows.inPlace (hviews : ∀ u, Refers m v u → InPlace m width settings u (views u)) :
    InPlace m width settings v (layoutView settings superview views v) := by
  intro idx hv
  have hp := hrows.placed idx v hv
  set rd := framesOf superview fun u => (views u).frame
  -- it does not refer to itself
  have hself : ¬ NamesView settings v v := by
    intro hname
    obtain ⟨j, hj, hu, -⟩ := hrows.refers hv (hp.names hname).symm
    have hidx : idx < m.flowItems.length := (List.getElem?_eq_some_iff.1 hv).1
    have := (List.getElem?_inj (by omega) hrows.distinct).1 (hu.trans hv.symm)
    omega
  have hheld : HoldsAsked (settings v) (views v) := by
    refine ⟨fun hw => ?_, fun hh _ ha => ?_⟩
    · rw [hp.model_width] at hw
      cases hw
    · exact absurd (by rw [hh, ha]) hp.isItem.height
  have hsat : Satisfies rd (settings v) (layoutView settings superview views v).frame :=
    layoutView_satisfies hp.wellPosed hself hheld (fun _ _ => rfl)
      (hp.definite hrows.width_pos.le rd)
  obtain ⟨-, hsizeX, -, hsizeY⟩ := hp.asks rd
  -- and what it refers to is in place
  have hrd : ∀ j < idx, ∀ u, m.flowItems[j]? = some u → itemRef m idx = .sibling u →
      rd (.sibling u) = flowFrame m width (rowHeight m width settings) j :=
    fun j _ u hu href => hviews u ⟨idx, hv, href⟩ j hu
  obtain ⟨hx, hy⟩ := hp.near (rowHeight m width settings) hrows.perRow hv hrd
  have hwidth : (layoutView settings superview views v).frame.width =
      floatValue (itemWidth m width) :=
    hsat.horizontal.size _ (by simp [asksX, widthOf, hsizeX])
  have hheight : (layoutView settings superview views v).frame.height =
      rowHeight m width settings idx := by
    rw [rowHeight, hv, Option.elim_some, flowHeight]
    cases hh : (settings v).model.height with
    | some z => exact hsat.vertical.size _ (by simp [asksY, heightOf, hsizeY, hh])
    | none =>
      have hauto : (settings v).autoHeightRatioValue.isSome = true := by
        have := hp.isItem.height
        rw [hh] at this
        simpa [Option.isSome_iff_ne_none] using this.symm
      rw [hsat.autoHeight hauto (hwidth ▸ hrows.width_pos), hwidth]
      rfl
  ext
  · exact hsat.horizontal.near _ hx
  · exact hsat.vertical.near _ hy
  · exact hwidth
  · exact hheight

/-- In their own order, one pass puts all items in place. -/
theorem Rows.pass (hnd : models.Nodup) (hsub : m.flowItems.Sublist models)
    (hv : v ∈ m.flowItems) :
    InPlace m width settings v (layoutSubviews settings superview models views v) := by
  have hrefs : ∀ v u, Refers m v u →
      ∃ i j : ℕ, i < j ∧ m.flowItems[i]? = some u ∧ m.flowItems[j]? = some v := by
    rintro v u ⟨idx, hv, hu⟩
    obtain ⟨j, hj, hju, -⟩ := hrows.refers hv hu
    exact ⟨j, idx, hj, hju, hv⟩
  exact @Sweep.pass_good ι (LayoutView ι) _ (layoutView settings superview) (Refers m)
    (fun _ _ => True) models views (fun _ _ _ => trivial) (InPlace m width settings)
    (fun _ => False) (fun views v _ _ hviews => hrows.inPlace hviews)
    (Sweep.ordered_of_sublist hnd hsub hrefs) (fun _ => trivial) (fun _ => False.elim) v
    (Or.inl (hsub.subset hv))

/-- In any order, a pass puts the items of the next rank in place and leaves those of lower ranks
there. -/
theorem Rows.pass_rank (hmem : ∀ v ∈ m.flowItems, v ∈ models) (k : ℕ)
    (hviews : ∀ idx v, m.flowItems[idx]? = some v →
      idx % m.perRowItemsCount + idx / m.perRowItemsCount < k →
      (views v).frame = flowFrame m width (rowHeight m width settings) idx)
    (hv : m.flowItems[idx]? = some v)
    (hidx : idx % m.perRowItemsCount + idx / m.perRowItemsCount < k + 1) :
    (layoutSubviews settings superview models views v).frame =
      flowFrame m width (rowHeight m width settings) idx := by
  have hone : ∀ {i j : ℕ} {u : ι}, m.flowItems[i]? = some u → m.flowItems[j]? = some u → i = j := by
    intro i j u hi hj
    have hlt : i < m.flowItems.length := (List.getElem?_eq_some_iff.1 hi).1
    exact (List.getElem?_inj hlt hrows.distinct).1 (hi.trans hj.symm)
  -- the items of a rank below `n`
  let Below (n : ℕ) (v : ι) : Prop := ∀ j : ℕ, m.flowItems[j]? = some v →
    j % m.perRowItemsCount + j / m.perRowItemsCount < n
  have hrefs : ∀ v ∈ models, Below (k + 1) v → ∀ u, Refers m v u → Below k u := by
    rintro v - hv u ⟨idx, hidx, href⟩ j hj
    obtain ⟨j', -, hj', -, hlower⟩ := hrows.refers hidx href
    obtain rfl := hone hj hj'
    have := hv idx hidx
    omega
  obtain ⟨-, hnext⟩ := @Sweep.pass_good_of_closed ι (LayoutView ι) _ (layoutView settings superview)
    (Refers m) (fun _ _ => True) models views (fun _ _ _ => trivial) (InPlace m width settings)
    (Below k) (Below (k + 1)) (fun views v _ _ hviews => hrows.inPlace hviews) hrefs
    (fun v hA j hj => (hA j hj).trans (Nat.lt_succ_self k)) (fun _ => trivial)
    (fun u hA j hj => hviews j u hj (hA j hj))
  exact hnext v (hmem v (List.mem_of_getElem? hv)) (fun j hj => hone hv hj ▸ hidx) idx hv

end Rows

/-! ## Whole runs -/

/-- **A run that has come to items in rows.** Each may be an item, was put in the same part of an
arrangement as now whenever it was set up, and is there once; the items have a width. -/
structure FlowRun (init : FlowView ι) (h : List (FlowView ι × FlowEvent ι)) (c : FlowView ι) :
    Prop where
  run : Run step init h c
  fresh : init.sd_categoryManager = {}
  nodup : init.autoLayoutModelsArray.Nodup
  distinct : c.sd_categoryManager.flowItems.Nodup
  perRow : 0 < c.sd_categoryManager.perRowItemsCount
  width_ne : c.frame.width ≠ 0
  width_pos : 0 < floatValue (itemWidth c.sd_categoryManager c.frame.width)
  isItem : ∀ v ∈ c.sd_categoryManager.flowItems, IsItem (init.layoutOf v)
  edges : ∀ v ∈ c.sd_categoryManager.flowItems,
    EdgesFrom (fun _ => False) (init.layoutOf v).model
  part : ∀ idx v p, c.sd_categoryManager.flowItems[idx]? = some v → PutIn h v p →
    p = flowPart c.sd_categoryManager.perRowItemsCount idx

/-- The frame of the `idx`-th item. -/
def itemFrame (c : FlowView ι) (idx : ℕ) : Rect ℚ :=
  flowFrame c.sd_categoryManager c.frame.width c.itemHeight idx

omit [DecidableEq ι] in
theorem flowHeight_place (m : SDUIViewCategoryManager ι) (width w : ℚ) (idx : ℕ)
    (s : LayoutSettings ι) : flowHeight (place m width idx s) w = flowHeight s w := by
  unfold place placeModel
  split <;> rfl

omit [DecidableEq ι] in
/-- The manager after a layout sets the items as before. -/
theorem managerAt_same (m : SDUIViewCategoryManager ι) (width w : ℚ) :
    itemWidth (managerAt m width) w = itemWidth m w ∧
      flowFrame (managerAt m width) w = flowFrame m w := by
  unfold managerAt
  split_ifs <;> exact ⟨rfl, rfl⟩

/-- Arranging leaves the heights. -/
theorem flowHeight_prepare (c : FlowView ι) (width : ℚ) (v : ι) :
    flowHeight (c.prepare.layoutOf v) width = flowHeight (c.layoutOf v) width :=
  (prepare_spec c).keeps (fun v s => flowHeight s width = flowHeight (c.layoutOf v) width)
    (fun idx _ s _ hs => (flowHeight_place _ _ width idx s).trans hs) (fun _ => rfl) v

namespace FlowRun

/-- In front of the loop the items are arranged. -/
theorem rows (hf : FlowRun init h c) :
    Rows c.sd_categoryManager c.frame.width c.prepare.settings ∧
      rowHeight c.sd_categoryManager c.frame.width c.prepare.settings = c.itemHeight := by
  have hi := flowInv_of_run hf.fresh hf.run
  have harr := hi.arranged_prepare hf.width_ne hf.distinct
  have hsettings : ∀ v ∈ c.sd_categoryManager.flowItems, c.prepare.layoutOf v =
      c.prepare.settings v := fun v hv => layoutOf_of_mem (harr.mem v hv)
  -- the invariant after the layout speaks of the same layouts
  have hi' := hi.layout (c, .layoutSubviews)
  obtain ⟨-, hmodels, hset, -, -, -⟩ := sd_layoutSubviewsHandle_spec c
  have hlayout := layoutOf_congr hmodels hset
  refine ⟨⟨hf.distinct, hf.perRow, hf.width_pos, fun idx v hv => ?_⟩, funext fun idx => ?_⟩
  · have hmem := List.mem_of_getElem? hv
    rw [← hsettings v hmem]
    refine ⟨?_, harr.placed idx v hv, ?_⟩
    · rw [← hlayout]
      exact hi'.isItem v (hf.isItem v hmem)
    · have hedges := hi'.edges v (hf.edges v hmem)
      rw [hlayout] at hedges
      refine hedges.mono fun p ⟨q, hq, vs, n, i, hsetup, hi, hp⟩ => hf.part idx v p hv ?_
      rcases List.mem_append.1 hq with hq | hq
      · exact ⟨q, hq, vs, n, i, hsetup, hi, hp⟩
      · obtain rfl := List.mem_singleton.1 hq
        cases hsetup
  · rw [rowHeight, itemHeight]
    cases hv : c.sd_categoryManager.flowItems[idx]? with
    | none => rfl
    | some v =>
      rw [Option.elim_some, Option.elim_some, ← hsettings v (List.mem_of_getElem? hv)]
      exact flowHeight_prepare c _ v

/-- A layout leaves what the items are to be. -/
theorem layout (hf : FlowRun init h c) (hst : c.step .layoutSubviews = some c') :
    FlowRun init (h ++ [(c, .layoutSubviews)]) c' ∧
      c'.sd_categoryManager.flowItems = c.sd_categoryManager.flowItems ∧
      c'.sd_categoryManager.perRowItemsCount = c.sd_categoryManager.perRowItemsCount ∧
      c'.itemFrame = c.itemFrame := by
  have hrun := hf.run.snoc hst
  obtain rfl : c.sd_layoutSubviewsHandle = c' := Option.some.inj hst
  have hp := prepare_spec c
  obtain ⟨hmanager, hmodels, hset, -, hwidth, -⟩ := sd_layoutSubviewsHandle_spec c
  have hlayout := layoutOf_congr hmodels hset
  rw [hp.sd_categoryManager] at hmanager
  have hitems : c.sd_layoutSubviewsHandle.sd_categoryManager.flowItems =
      c.sd_categoryManager.flowItems := by rw [hmanager, managerAt_flowItems]
  have hrow : c.sd_layoutSubviewsHandle.sd_categoryManager.perRowItemsCount =
      c.sd_categoryManager.perRowItemsCount := by rw [hmanager, managerAt_perRowItemsCount]
  obtain ⟨hsame, hframe⟩ := managerAt_same c.sd_categoryManager c.frame.width c.frame.width
  refine ⟨⟨hrun, hf.fresh, hf.nodup, hitems ▸ hf.distinct, hrow ▸ hf.perRow, hwidth ▸ hf.width_ne,
    ?_, hitems ▸ hf.isItem, hitems ▸ hf.edges, ?_⟩, hitems, hrow, ?_⟩
  · rw [hmanager, hwidth, hsame]
    exact hf.width_pos
  · rintro idx v p hv ⟨q, hq, vs, n, i, hsetup, hput⟩
    rw [hitems] at hv
    rw [hrow]
    rcases List.mem_append.1 hq with hq | hq
    · exact hf.part idx v p hv ⟨q, hq, vs, n, i, hsetup, hput⟩
    · obtain rfl := List.mem_singleton.1 hq
      cases hsetup
  · have hheight : c.sd_layoutSubviewsHandle.itemHeight = c.itemHeight := by
      funext idx
      rw [itemHeight, itemHeight, hitems, hmanager, hwidth, hsame]
      cases c.sd_categoryManager.flowItems[idx]? with
      | none => rfl
      | some v =>
        rw [Option.elim_some, Option.elim_some, hlayout]
        exact flowHeight_prepare c _ v
    funext idx
    rw [itemFrame, itemFrame, hheight, hmanager, hwidth, hframe]

theorem layouts (hf : FlowRun init h c) {k : ℕ}
    (he : exec step c (List.replicate k .layoutSubviews) = some c') :
    ∃ h', FlowRun init h' c' ∧
      c'.sd_categoryManager.flowItems = c.sd_categoryManager.flowItems ∧
      c'.itemFrame = c.itemFrame := by
  induction k generalizing c' with
  | zero =>
    obtain rfl : c = c' := Option.some.inj he
    exact ⟨h, hf, rfl, rfl⟩
  | succ k ih =>
    obtain ⟨c₁, he₁, hst⟩ := exec_replicate_succ he
    obtain ⟨h₁, hf₁, hitems₁, hframe₁⟩ := ih he₁
    obtain ⟨hf', hitems, -, hframe⟩ := hf₁.layout hst
    exact ⟨_, hf', hitems.trans hitems₁, hframe.trans hframe₁⟩

/-- The views inside after a layout. -/
theorem views_eq (hst : c.step .layoutSubviews = some c') :
    c'.views = layoutSubviews c.prepare.settings c.frame c'.autoLayoutModelsArray
      c.prepare.views := by
  obtain rfl : c.sd_layoutSubviewsHandle = c' := Option.some.inj hst
  obtain ⟨-, hmodels, -, hviews, -, -⟩ := sd_layoutSubviewsHandle_spec c
  rw [hviews, hmodels, layoutModels, (prepare_spec c).frame]

theorem models_nodup (hf : FlowRun init h c) (hst : c.step .layoutSubviews = some c') :
    c'.autoLayoutModelsArray.Nodup :=
  (flowInv_of_run hf.fresh (hf.run.snoc hst)).nodup hf.nodup

theorem mem_models (hf : FlowRun init h c) (hst : c.step .layoutSubviews = some c') :
    ∀ v ∈ c.sd_categoryManager.flowItems, v ∈ c'.autoLayoutModelsArray := by
  obtain rfl : c.sd_layoutSubviewsHandle = c' := Option.some.inj hst
  intro v hv
  rw [(sd_layoutSubviewsHandle_spec c).2.1]
  exact ((flowInv_of_run hf.fresh hf.run).arranged_prepare hf.width_ne hf.distinct).mem v hv

end FlowRun

/-! ## Three items -/

/-- A view of width 100. Three views inside, of a height, were given layouts in an order. -/
def threeViews (models : List ℕ) : FlowView ℕ where
  frame := ⟨0, 0, 100, 60⟩
  contentSize := none
  sd_categoryManager := {}
  sd_equalWidthSubviews := []
  sd_bottomViewsArray := []
  sd_bottomViewBottomMargin := 0
  autoLayoutModelsArray := models
  settings _ := { model := { height := some 20 } }
  views _ := ⟨⟨0, 0, 0, 0⟩, none, none, none, none⟩

/-- They are set up, two in a row. -/
def threeItems (models : List ℕ) : FlowView ℕ :=
  (threeViews models).setupAutoWidthFlowItems [0, 1, 2] 2 5 10 0 0

theorem flowRun_threeItems {models : List ℕ} (hnd : models.Nodup)
    (hmem : ∀ v ∈ [0, 1, 2], v ∈ models) :
    FlowRun (threeViews models)
      [(threeViews models, .setupAutoWidthFlowItems [0, 1, 2] 2 5 10 0 0)] (threeItems models) where
  run := run_of_exec [FlowEvent.setupAutoWidthFlowItems [0, 1, 2] 2 5 10 0 0] rfl
  fresh := rfl
  nodup := hnd
  distinct := show [0, 1, 2].Nodup by decide
  perRow := Nat.two_pos
  width_ne := show (100 : ℚ) ≠ 0 by decide
  width_pos := show 0 < floatValue ((100 - 0 * 2 - ((2 : ℕ) - 1) * 10) / (2 : ℕ)) by decide +kernel
  isItem v hv := by
    rw [layoutOf_of_mem (hmem v hv)]
    refine ⟨rfl, rfl, rfl, ⟨rfl, rfl, rfl, rfl⟩, rfl, rfl, ⟨rfl, rfl⟩, ⟨rfl, rfl, rfl, rfl⟩,
      ⟨rfl, rfl, rfl, rfl⟩, Bool.noConfusion, fun z hz => ?_⟩
    obtain rfl : 20 = z := Option.some.inj hz
    norm_num
  edges v hv := by
    rw [layoutOf_of_mem (hmem v hv)]
    exact ⟨nofun, nofun, nofun, nofun⟩
  part idx v p hv := by
    rintro ⟨q, hq, vs, n, i, hsetup, hi, rfl⟩
    obtain rfl := List.mem_singleton.1 hq
    cases hsetup
    -- a view is one of the items only
    have hlt : i < [0, 1, 2].length := (List.getElem?_eq_some_iff.1 hi).1
    obtain rfl := (List.getElem?_inj hlt (by decide)).1 (hi.trans hv.symm)
    rfl

/-! ## Where a layout leaves them -/

/-- After a layout in their own order the items have their frames. -/
theorem FlowRun.frame_eq (hf : FlowRun init h c) (hst : c.step .layoutSubviews = some c')
    (horder : c.sd_categoryManager.flowItems.Sublist c'.autoLayoutModelsArray)
    (hv : c.sd_categoryManager.flowItems[idx]? = some v) :
    (c'.views v).frame = c.itemFrame idx := by
  obtain ⟨hrows, hheight⟩ := hf.rows
  have hin : InPlace c.sd_categoryManager c.frame.width c.prepare.settings v
      (layoutSubviews c.prepare.settings c.frame c'.autoLayoutModelsArray c.prepare.views v) :=
    hrows.pass (hf.models_nodup hst) horder (List.mem_of_getElem? hv)
  rw [FlowRun.views_eq hst, hin idx hv, hheight]
  rfl

/-- **Laid out in their own order, the items are where they belong**, whatever happened before:
other widths, other items, frames and texts set in between. Further layouts leave them there. -/
theorem flow_frames (hf : FlowRun init h c) {k : ℕ}
    (he : exec step c (List.replicate (k + 1) .layoutSubviews) = some c')
    (horder : c.sd_categoryManager.flowItems.Sublist c'.autoLayoutModelsArray)
    (hv : c.sd_categoryManager.flowItems[idx]? = some v) :
    (c'.views v).frame = c.itemFrame idx := by
  obtain ⟨c₁, he₁, hst⟩ := exec_replicate_succ he
  obtain ⟨h₁, hf₁, hitems, hframe⟩ := hf.layouts he₁
  rw [← hitems] at horder hv
  rw [hf₁.frame_eq hst horder hv, hframe]

theorem flow_frames_three :
    ∃ c, exec step (threeItems [0, 1, 2]) [.layoutSubviews, .layoutSubviews] = some c ∧
      (c.views 2).frame = ⟨0, 25, 45, 20⟩ :=
  ⟨_, rfl, (flow_frames (flowRun_threeItems (by decide) (by decide)) (k := 1) rfl
    (by decide +kernel) (show [0, 1, 2][2]? = some 2 from rfl)).trans (by decide +kernel)⟩

/-- The state after some layouts in a row. -/
structure LaidOut (init c : FlowView ι) (k : ℕ) (c' : FlowView ι) : Prop where
  run : ∃ h', FlowRun init h' c'
  flowItems : c'.sd_categoryManager.flowItems = c.sd_categoryManager.flowItems
  perRow : c'.sd_categoryManager.perRowItemsCount = c.sd_categoryManager.perRowItemsCount
  itemFrame : c'.itemFrame = c.itemFrame
  equalWidth : c'.sd_equalWidthSubviews = c.sd_equalWidthSubviews
  lastWidth : 0 < k → c.sd_categoryManager.flowItems ≠ [] →
    c'.sd_categoryManager.lastWidth = c'.frame.width
  frames : ∀ idx v, c.sd_categoryManager.flowItems[idx]? = some v →
    idx % c.sd_categoryManager.perRowItemsCount + idx / c.sd_categoryManager.perRowItemsCount < k →
    (c'.views v).frame = c.itemFrame idx

/-- One more layout puts the items of the next rank in place. -/
theorem LaidOut.succ {k : ℕ} {c₁ : FlowView ι} (hl : LaidOut init c k c₁)
    (hequal : ∀ v ∈ c.sd_categoryManager.flowItems, v ∉ c.sd_equalWidthSubviews)
    (hst : c₁.step .layoutSubviews = some c') : LaidOut init c (k + 1) c' := by
  obtain ⟨h₁, hf₁⟩ := hl.run
  obtain ⟨hf', hitems, hrow, hframe⟩ := hf₁.layout hst
  obtain ⟨hrows, hheight⟩ := hf₁.rows
  have hmem := hf₁.mem_models hst
  have hviews := FlowRun.views_eq hst
  obtain rfl : c₁.sd_layoutSubviewsHandle = c' := Option.some.inj hst
  obtain ⟨hmanager, -, -, -, hwidth, hequal'⟩ := sd_layoutSubviewsHandle_spec c₁
  refine ⟨⟨_, hf'⟩, hitems.trans hl.flowItems, hrow.trans hl.perRow, hframe.trans hl.itemFrame,
    hequal'.trans hl.equalWidth, fun _ hne => ?_, fun idx v hv hidx => ?_⟩
  · rw [hmanager, hwidth, (prepare_spec c₁).sd_categoryManager,
      managerAt_lastWidth (hl.flowItems ▸ hne)]
  · have hframes : ∀ idx v, c₁.sd_categoryManager.flowItems[idx]? = some v →
        idx % c₁.sd_categoryManager.perRowItemsCount +
          idx / c₁.sd_categoryManager.perRowItemsCount < k →
        (c₁.prepare.views v).frame = flowFrame c₁.sd_categoryManager c₁.frame.width
          (rowHeight c₁.sd_categoryManager c₁.frame.width c₁.prepare.settings) idx := by
      intro idx v hv hlt
      rw [hl.flowItems] at hv
      rw [hl.perRow] at hlt
      have hv' : v ∈ c.sd_categoryManager.flowItems := List.mem_of_getElem? hv
      -- nothing is arranged any more
      have hlast := hl.lastWidth (Nat.zero_lt_of_lt hlt) (List.ne_nil_of_mem hv')
      rw [((prepare_spec c₁).same hlast).2 v (hl.equalWidth ▸ hequal v hv'), hl.frames idx v hv hlt,
        hheight, ← hl.itemFrame]
      rfl
    rw [hviews, hrows.pass_rank hmem k hframes (hl.flowItems ▸ hv) (hl.perRow ▸ hidx), hheight,
      ← hl.itemFrame]
    rfl

/-- **In any order they get there**, each within as many layouts as its row and column. -/
theorem flow_settles (hf : FlowRun init h c)
    (hequal : ∀ v ∈ c.sd_categoryManager.flowItems, v ∉ c.sd_equalWidthSubviews) {k : ℕ}
    (he : exec step c (List.replicate k .layoutSubviews) = some c')
    (hv : c.sd_categoryManager.flowItems[idx]? = some v)
    (hk : idx % c.sd_categoryManager.perRowItemsCount +
      idx / c.sd_categoryManager.perRowItemsCount < k) :
    (c'.views v).frame = c.itemFrame idx := by
  suffices hl : LaidOut init c k c' from hl.frames idx v hv hk
  clear hk
  induction k generalizing c' with
  | zero =>
    obtain rfl : c = c' := Option.some.inj he
    exact ⟨⟨h, hf⟩, rfl, rfl, rfl, rfl, fun hlt => absurd hlt (Nat.lt_irrefl 0),
      fun _ _ _ hlt => absurd hlt (Nat.not_lt_zero _)⟩
  | succ k ih =>
    obtain ⟨c₁, he₁, hst⟩ := exec_replicate_succ he
    exact (ih he₁).succ hequal hst

/-- Laid out in the opposite order, the third is there after two layouts. -/
theorem flow_settles_three :
    ∃ c, exec step (threeItems [2, 1, 0]) [.layoutSubviews, .layoutSubviews] = some c ∧
      (c.views 2).frame = ⟨0, 25, 45, 20⟩ :=
  ⟨_, rfl, (flow_settles (flowRun_threeItems (by decide) (by decide)) (fun _ _ => List.not_mem_nil)
    (k := 2) rfl (show [0, 1, 2][2]? = some 2 from rfl) (by decide)).trans (by decide +kernel)⟩

/-! ## The items among one another -/

/-- What reading the lengths of a row as `float`s costs: one part in `2 ^ 24`, and half the least
`float` for each of them. -/
def rowError (m : SDUIViewCategoryManager ι) (width : ℚ) : ℚ :=
  (width - m.horizontalEdgeInset) / 2 ^ 24 + m.perRowItemsCount / 2 ^ 149

section Columns

variable {height : ℕ → ℚ} (hn : 0 < m.perRowItemsCount) (hwidth : 0 < floatValue (itemWidth m width))
  (hx : 0 < floatValue (horizontalMargin m width))

include hn hx

omit [DecidableEq ι] in
/-- A full row fills what is between the insets. -/
theorem rowWidth : m.perRowItemsCount * itemWidth m width +
    ((m.perRowItemsCount : ℚ) - 1) * horizontalMargin m width =
      width - m.horizontalEdgeInset * 2 := by
  have hn' : (m.perRowItemsCount : ℚ) ≠ 0 := Nat.cast_ne_zero.2 hn.ne'
  cases hauto : m.shouldShowAsAutoMarginViews with
  | false =>
    have hw : m.perRowItemsCount * itemWidth m width = width - m.horizontalEdgeInset * 2 -
        ((m.perRowItemsCount : ℚ) - 1) * horizontalMargin m width := by
      rw [itemWidth, hauto, if_neg Bool.false_ne_true, mul_div_cancel₀ _ hn']
    linarith
  | true =>
    have hmany : m.perRowItemsCount > 1 := by
      by_contra hone
      rw [horizontalMargin, hauto, if_pos rfl, if_neg hone, floatValue_zero] at hx
      exact lt_irrefl _ hx
    have hn₁ : ((m.perRowItemsCount : ℚ) - 1) ≠ 0 := by
      have : (1 : ℚ) < m.perRowItemsCount := by exact_mod_cast hmany
      linarith
    have hgap : ((m.perRowItemsCount : ℚ) - 1) * horizontalMargin m width =
        width - m.horizontalEdgeInset * 2 - m.perRowItemsCount * m.flowItemWidth := by
      rw [horizontalMargin, hauto, if_pos rfl, if_pos hmany, mul_div_cancel₀ _ hn₁]
    rw [hgap, itemWidth, hauto, if_pos rfl]
    ring

include hwidth

omit [DecidableEq ι] in
/-- A full row ends where the inset begins, up to what its lengths lose as `float`s. -/
theorem abs_rowEnd_sub_le (hinset : 0 ≤ m.horizontalEdgeInset) :
    |floatValue m.horizontalEdgeInset + m.perRowItemsCount * floatValue (itemWidth m width) +
      ((m.perRowItemsCount : ℚ) - 1) * floatValue (horizontalMargin m width) -
        (width - m.horizontalEdgeInset)| ≤ rowError m width := by
  have hrow := rowWidth hn hx
  have hinset' := abs_le.1 (abs_floatValue_sub_le m.horizontalEdgeInset)
  have hitem := abs_le.1 (abs_floatValue_sub_le (itemWidth m width))
  have hgap := abs_le.1 (abs_floatValue_sub_le (horizontalMargin m width))
  rw [abs_of_nonneg hinset] at hinset'
  rw [abs_of_pos (pos_of_floatValue_pos hwidth)] at hitem
  rw [abs_of_pos (pos_of_floatValue_pos hx)] at hgap
  have hn' : (1 : ℚ) ≤ m.perRowItemsCount := by exact_mod_cast hn
  have hn₀ : (0 : ℚ) ≤ m.perRowItemsCount := by linarith
  have hn₁ : (0 : ℚ) ≤ (m.perRowItemsCount : ℚ) - 1 := by linarith
  have h₁ := mul_le_mul_of_nonneg_left hitem.1 hn₀
  have h₂ := mul_le_mul_of_nonneg_left hitem.2 hn₀
  have h₃ := mul_le_mul_of_nonneg_left hgap.1 hn₁
  have h₄ := mul_le_mul_of_nonneg_left hgap.2 hn₁
  rw [rowError, abs_le]
  constructor <;> linarith

omit [DecidableEq ι] in
/-- An item is within the insets, and one of the last column ends where the inset begins, up to
rounding. -/
theorem flowFrame_between (hinset : 0 ≤ m.horizontalEdgeInset) (idx : ℕ) :
    floatValue m.horizontalEdgeInset ≤ (flowFrame m width height idx).x ∧
      right_sd (flowFrame m width height idx) ≤
        width - m.horizontalEdgeInset + rowError m width ∧
      (idx % m.perRowItemsCount + 1 = m.perRowItemsCount →
        |right_sd (flowFrame m width height idx) - (width - m.horizontalEdgeInset)| ≤
          rowError m width) := by
  have hend := abs_rowEnd_sub_le hn hwidth hx hinset
  have hmod : ((idx % m.perRowItemsCount : ℕ) : ℚ) + 1 ≤ m.perRowItemsCount := by
    exact_mod_cast Nat.mod_lt idx hn
  have hnonneg : (0 : ℚ) ≤ ((idx % m.perRowItemsCount : ℕ) : ℚ) := Nat.cast_nonneg _
  have hstep : 0 < floatValue (itemWidth m width) + floatValue (horizontalMargin m width) := by
    linarith
  simp only [flowFrame, right_sd]
  refine ⟨?_, ?_, fun hlast => ?_⟩
  · have := mul_nonneg hnonneg hstep.le
    linarith
  · have hcolumn := mul_le_mul_of_nonneg_right hmod hstep.le
    have := (abs_le.1 hend).2
    linarith
  · have hcast : ((idx % m.perRowItemsCount : ℕ) : ℚ) = (m.perRowItemsCount : ℚ) - 1 := by
      have : ((idx % m.perRowItemsCount : ℕ) : ℚ) + 1 = m.perRowItemsCount := by
        exact_mod_cast hlast
      linarith
    rw [hcast]
    refine le_of_eq_of_le (congrArg abs ?_) hend
    ring

omit [DecidableEq ι] hn in
/-- **The frames have no point in common.** -/
theorem flowFrame_disjoint (hheight : ∀ i, 0 ≤ height i) (hy : 0 < floatValue m.verticalMargin)
    {i j : ℕ} (hij : i ≠ j) :
    (flowFrame m width height i).Disjoint (flowFrame m width height j) := by
  -- an item further left, and one further up in the same column
  have hleft : ∀ i j : ℕ, i % m.perRowItemsCount < j % m.perRowItemsCount →
      (flowFrame m width height i).Disjoint (flowFrame m width height j) := by
    intro i j hlt
    refine Rect.disjoint_of_left ?_
    have hcast : ((i % m.perRowItemsCount : ℕ) : ℚ) + 1 ≤ ((j % m.perRowItemsCount : ℕ) : ℚ) := by
      exact_mod_cast hlt
    have hmul := mul_le_mul_of_nonneg_right hcast
      (show 0 ≤ floatValue (itemWidth m width) + floatValue (horizontalMargin m width) by linarith)
    simp only [flowFrame]
    linarith
  have habove : ∀ i j : ℕ, i % m.perRowItemsCount = j % m.perRowItemsCount →
      i / m.perRowItemsCount < j / m.perRowItemsCount →
      (flowFrame m width height i).Disjoint (flowFrame m width height j) := by
    intro i j hcolumn hlt
    refine Rect.disjoint_of_above ?_
    have hsum : ∑ k ∈ Finset.range (i / m.perRowItemsCount + 1),
          (height (i % m.perRowItemsCount + k * m.perRowItemsCount) + floatValue m.verticalMargin) ≤
        ∑ k ∈ Finset.range (j / m.perRowItemsCount),
          (height (i % m.perRowItemsCount + k * m.perRowItemsCount) + floatValue m.verticalMargin) :=
      Finset.sum_le_sum_of_subset_of_nonneg (Finset.range_mono hlt) fun k _ _ => by
        have := hheight (i % m.perRowItemsCount + k * m.perRowItemsCount)
        linarith
    rw [Finset.sum_range_succ, Nat.mod_add_div'] at hsum
    simp only [flowFrame]
    rw [← hcolumn]
    linarith
  rcases Nat.lt_trichotomy (i % m.perRowItemsCount) (j % m.perRowItemsCount) with hlt | heq | hlt
  · exact hleft i j hlt
  · rcases Nat.lt_trichotomy (i / m.perRowItemsCount) (j / m.perRowItemsCount) with
      hlt | hrow | hlt
    · exact habove i j heq hlt
    · have hi := Nat.mod_add_div' i m.perRowItemsCount
      rw [heq, hrow, Nat.mod_add_div'] at hi
      exact absurd hi.symm hij
    · exact (habove j i heq.symm hlt).symm
  · exact (hleft j i hlt).symm

end Columns

theorem itemHeight_nonneg (hf : FlowRun init h c) (idx : ℕ) : 0 ≤ c.itemHeight idx := by
  rw [itemHeight]
  cases hv : c.sd_categoryManager.flowItems[idx]? with
  | none => exact le_refl 0
  | some v =>
    have hitem := (flowInv_of_run hf.fresh hf.run).isItem v
      (hf.isItem v (List.mem_of_getElem? hv))
    rw [Option.elim_some, flowHeight]
    cases hz : (c.layoutOf v).model.height with
    | none => exact autoHeightOf_nonneg hf.width_pos
    | some z => exact floatValue_nonneg (hitem.height_nonneg z hz)

/-- **The items keep apart and fill their rows**: no two have a point in common, and all are within
the insets, the last column up to the right one, where the lengths of a row are exact to a
`float`. -/
theorem flow_apart (hf : FlowRun init h c) (hst : c.step .layoutSubviews = some c')
    (horder : c.sd_categoryManager.flowItems.Sublist c'.autoLayoutModelsArray)
    (hinset : 0 ≤ c.sd_categoryManager.horizontalEdgeInset)
    (hx : 0 < floatValue (horizontalMargin c.sd_categoryManager c.frame.width))
    (hy : 0 < floatValue c.sd_categoryManager.verticalMargin) :
    (c.sd_categoryManager.flowItems.Pairwise fun u v =>
      (c'.views u).frame.Disjoint (c'.views v).frame) ∧
    ∀ idx v, c.sd_categoryManager.flowItems[idx]? = some v →
      floatValue c.sd_categoryManager.horizontalEdgeInset ≤ left_sd (c'.views v).frame ∧
      right_sd (c'.views v).frame ≤ c.frame.width - c.sd_categoryManager.horizontalEdgeInset +
        rowError c.sd_categoryManager c.frame.width ∧
      (idx % c.sd_categoryManager.perRowItemsCount + 1 = c.sd_categoryManager.perRowItemsCount →
        |right_sd (c'.views v).frame -
          (c.frame.width - c.sd_categoryManager.horizontalEdgeInset)| ≤
            rowError c.sd_categoryManager c.frame.width) := by
  refine ⟨List.pairwise_iff_getElem.2 fun i j hi hj hij => ?_, fun idx v hv => ?_⟩
  · rw [hf.frame_eq hst horder (List.getElem?_eq_getElem hi),
      hf.frame_eq hst horder (List.getElem?_eq_getElem hj)]
    exact flowFrame_disjoint hf.width_pos hx (itemHeight_nonneg hf) hy hij.ne
  · rw [hf.frame_eq hst horder hv]
    exact flowFrame_between hf.perRow hf.width_pos hx hinset idx

theorem flow_apart_three :
    ((threeItems [0, 1, 2]).sd_layoutSubviewsHandle.views 1).frame.Disjoint
        ((threeItems [0, 1, 2]).sd_layoutSubviewsHandle.views 2).frame ∧
      |right_sd ((threeItems [0, 1, 2]).sd_layoutSubviewsHandle.views 1).frame - 100| < 1 / 1000 := by
  obtain ⟨hapart, hrow⟩ := flow_apart (@flowRun_threeItems [0, 1, 2] (by decide) (by decide)) rfl
    (by decide +kernel) (show (0 : ℚ) ≤ 0 by decide) (show 0 < floatValue 10 by decide +kernel)
    (show 0 < floatValue 5 by decide +kernel)
  have hcolumn := (hrow 1 1 rfl).2.2 rfl
  refine ⟨List.pairwise_iff_getElem.1 hapart 1 2 (by decide) (by decide) (by decide), ?_⟩
  refine lt_of_le_of_lt ?_ (show rowError (threeItems [0, 1, 2]).sd_categoryManager 100 < 1 / 1000 by
    decide +kernel)
  simpa [threeItems, threeViews, setupAutoWidthFlowItems, setupAutoHeight] using hcolumn

end FlowView

end RCSdk
