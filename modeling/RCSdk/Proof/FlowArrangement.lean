import RCSdk.Lib.Run
import RCSdk.Proof.AutoLayoutPass
import RCSdk.Spec.FlowItems

/-!
# The items are arranged for the width they are laid out at

The items are arranged anew only when the width is not the one they were last arranged for, and
setting up forgets that width. Whatever happens in between, the items are arranged for the width
they are laid out at (`arranged_of_run`).
-/

namespace RCSdk

open Grids Trans LayoutView Axis

variable {ι : Type} [DecidableEq ι]

/-- The part of an arrangement an item is in: its head, the rest of the first row, the rows below. -/
inductive FlowPart where
  | head
  | row
  | below
  deriving DecidableEq

def flowPart (perRowItemsCount idx : ℕ) : FlowPart :=
  if idx < perRowItemsCount then if idx = 0 then .head else .row else .below

/-- The items an event sets up, and how many are in a row. -/
def FlowEvent.setup : FlowEvent ι → Option (List ι × ℕ)
  | .setupAutoWidthFlowItems viewsArray perRowItemsCount _ _ _ _
  | .setupAutoMarginFlowItems viewsArray perRowItemsCount _ _ _ _ =>
    some (viewsArray, perRowItemsCount)
  | _ => none

namespace FlowView

variable {m : SDUIViewCategoryManager ι} {c c' : FlowView ι} {width : ℚ}

/-- A layout that a view has, or is given when it is asked for one. -/
def layoutOf (c : FlowView ι) (v : ι) : LayoutSettings ι :=
  if v ∈ c.autoLayoutModelsArray then c.settings v else { c.settings v with model := {} }

/-- The view the `idx`-th item refers to. -/
def itemRef (m : SDUIViewCategoryManager ι) (idx : ℕ) : RefView ι :=
  if idx < m.perRowItemsCount then
    if idx = 0 then .superview else refOf m.flowItems[idx - 1]?
  else refOf m.flowItems[idx - m.perRowItemsCount]?

/-- What the `idx`-th item is asked for. -/
def placeModel (m : SDUIViewCategoryManager ι) (width : ℚ) (idx : ℕ) (model : SDAutoLayoutModel ι) :
    SDAutoLayoutModel ι :=
  match flowPart m.perRowItemsCount idx with
  | .head =>
    { model with
      left := some ⟨.view (itemRef m idx), m.horizontalEdgeInset⟩
      top := some ⟨.view (itemRef m idx), m.verticalEdgeInset⟩
      width := some (itemWidth m width) }
  | .row =>
    { model with
      left := some ⟨.view (itemRef m idx), horizontalMargin m width⟩
      equalTop := some ⟨itemRef m idx, 0⟩
      width := some (itemWidth m width) }
  | .below =>
    { model with
      equalLeft := some ⟨itemRef m idx, 0⟩
      top := some ⟨.view (itemRef m idx), m.verticalMargin⟩
      width := some (itemWidth m width) }

def place (m : SDUIViewCategoryManager ι) (width : ℚ) (idx : ℕ) (s : LayoutSettings ι) :
    LayoutSettings ι :=
  { s with model := placeModel m width idx s.model }

/-- **The items are arranged for the width.** -/
structure Arranged (m : SDUIViewCategoryManager ι) (width : ℚ) (c : FlowView ι) : Prop where
  mem : ∀ v ∈ m.flowItems, v ∈ c.autoLayoutModelsArray
  placed : ∀ idx v, m.flowItems[idx]? = some v → place m width idx (c.layoutOf v) = c.layoutOf v

/-! ## One item -/

theorem layoutOf_of_mem {v : ι} (hv : v ∈ c.autoLayoutModelsArray) : c.layoutOf v = c.settings v :=
  if_pos hv

theorem layoutOf_of_notMem {v : ι} (hv : v ∉ c.autoLayoutModelsArray) :
    c.layoutOf v = { c.settings v with model := {} } := if_neg hv

/-- The views that have a layout, after one is asked for one. -/
def layoutsWith (models : List ι) (v : ι) : List ι := if v ∈ models then models else models ++ [v]

theorem mem_layoutsWith {models : List ι} {u v : ι} :
    u ∈ layoutsWith models v ↔ u ∈ models ∨ u = v := by
  unfold layoutsWith
  split_ifs with h
  · exact ⟨Or.inl, fun hu => hu.elim id fun hu => hu ▸ h⟩
  · simp

/-- **What asking for layouts does.** The rest of the view stays. -/
structure Asked (c c' : FlowView ι) : Prop where
  frame : c'.frame = c.frame
  contentSize : c'.contentSize = c.contentSize
  sd_categoryManager : c'.sd_categoryManager = c.sd_categoryManager
  sd_equalWidthSubviews : c'.sd_equalWidthSubviews = c.sd_equalWidthSubviews
  sd_bottomViewsArray : c'.sd_bottomViewsArray = c.sd_bottomViewsArray
  sd_bottomViewBottomMargin : c'.sd_bottomViewBottomMargin = c.sd_bottomViewBottomMargin

omit [DecidableEq ι] in
theorem Asked.refl (c : FlowView ι) : Asked c c := ⟨rfl, rfl, rfl, rfl, rfl, rfl⟩

omit [DecidableEq ι] in
theorem Asked.trans {c'' : FlowView ι} (h : Asked c c') (h' : Asked c' c'') : Asked c c'' where
  frame := h'.frame.trans h.frame
  contentSize := h'.contentSize.trans h.contentSize
  sd_categoryManager := h'.sd_categoryManager.trans h.sd_categoryManager
  sd_equalWidthSubviews := h'.sd_equalWidthSubviews.trans h.sd_equalWidthSubviews
  sd_bottomViewsArray := h'.sd_bottomViewsArray.trans h.sd_bottomViewsArray
  sd_bottomViewBottomMargin := h'.sd_bottomViewBottomMargin.trans h.sd_bottomViewBottomMargin

theorem sd_layout_spec (v : ι) (c : FlowView ι) :
    Asked c (c.sd_layout v) ∧
      (c.sd_layout v).autoLayoutModelsArray = layoutsWith c.autoLayoutModelsArray v ∧
      (c.sd_layout v).layoutOf = c.layoutOf ∧ (c.sd_layout v).settings v = c.layoutOf v ∧
      (c.sd_layout v).views = c.views := by
  unfold sd_layout layoutsWith
  split_ifs with hv
  · exact ⟨.refl c, rfl, rfl, (layoutOf_of_mem hv).symm, rfl⟩
  · refine ⟨⟨rfl, rfl, rfl, rfl, rfl, rfl⟩, rfl, funext fun u => ?_, ?_, rfl⟩
    · by_cases huv : u = v
      · subst huv
        simp [layoutOf, hv]
      · simp [layoutOf, huv]
    · simp [layoutOf_of_notMem hv]

/-- `set` asks a view that has a layout for more. -/
def AsksFor (v : ι) (f : SDAutoLayoutModel ι → SDAutoLayoutModel ι)
    (set : FlowView ι → FlowView ι) : Prop :=
  ∀ c : FlowView ι, v ∈ c.autoLayoutModelsArray →
    Asked c (set c) ∧ (set c).autoLayoutModelsArray = c.autoLayoutModelsArray ∧
      (set c).layoutOf =
        Function.update c.layoutOf v { c.layoutOf v with model := f (c.layoutOf v).model }

theorem asksFor_setModel (v : ι) (f : SDAutoLayoutModel ι → SDAutoLayoutModel ι) :
    AsksFor v f (setModel v f) := by
  intro c hv
  refine ⟨⟨rfl, rfl, rfl, rfl, rfl, rfl⟩, rfl, funext fun u => ?_⟩
  by_cases huv : u = v
  · subst huv
    simp [layoutOf, setModel, hv]
  · simp [layoutOf, setModel, huv]

theorem asksFor_widthIs (v : ι) (value : ℚ) :
    AsksFor v (fun m => { m with width := some value }) (widthIs v value) := by
  intro c hv
  obtain ⟨hasked, hmodels, hlayout⟩ :=
    asksFor_setModel v (fun m => { m with width := some value })
      { c with
        views :=
          Function.update c.views v ((c.views v).setFixedWidth (c.settings v) value) } hv
  exact ⟨⟨hasked.1, hasked.2, hasked.3, hasked.4, hasked.5, hasked.6⟩, hmodels, hlayout⟩

theorem AsksFor.comp {v : ι} {f g : SDAutoLayoutModel ι → SDAutoLayoutModel ι}
    {set set' : FlowView ι → FlowView ι} (h : AsksFor v f set) (h' : AsksFor v g set') :
    AsksFor v (fun m => g (f m)) fun c => set' (set c) := by
  intro c hv
  obtain ⟨hasked, hmodels, hlayout⟩ := h c hv
  obtain ⟨hasked', hmodels', hlayout'⟩ := h' (set c) (hmodels ▸ hv)
  refine ⟨hasked.trans hasked', hmodels'.trans hmodels, ?_⟩
  rw [hlayout', hlayout, Function.update_self, Function.update_idem]

/-- An item is asked for a layout first, and then for what its place takes. -/
theorem AsksFor.arrange {v : ι} {f : SDAutoLayoutModel ι → SDAutoLayoutModel ι}
    {set : FlowView ι → FlowView ι} (hf : AsksFor v f set) {idx : ℕ}
    (hplace : placeModel m width idx (c.layoutOf v).model = f (c.layoutOf v).model) :
    Asked c (set (c.sd_layout v)) ∧
      (set (c.sd_layout v)).autoLayoutModelsArray = layoutsWith c.autoLayoutModelsArray v ∧
      (set (c.sd_layout v)).layoutOf =
        Function.update c.layoutOf v (place m width idx (c.layoutOf v)) := by
  obtain ⟨hasked, hmodels, hlayout, -, -⟩ := sd_layout_spec v c
  have hv : v ∈ (c.sd_layout v).autoLayoutModelsArray := by
    rw [hmodels]
    exact mem_layoutsWith.2 (Or.inr rfl)
  obtain ⟨h₁, h₂, h₃⟩ := hf (c.sd_layout v) hv
  refine ⟨hasked.trans h₁, h₂.trans hmodels, ?_⟩
  rw [h₃, hlayout, place, hplace]

/-- An item is arranged, with the view it refers to at hand. -/
theorem arrangeItem_spec (width : ℚ) (c : FlowView ι) {ref : RefView ι} {v : ι} {idx : ℕ}
    (hitem : m.flowItems[idx]? = some v)
    (href : idx < m.perRowItemsCount → ref = itemRef m idx) :
    let r := arrangeItem m width (c, ref) (v, idx)
    Asked c r.1 ∧ r.1.autoLayoutModelsArray = layoutsWith c.autoLayoutModelsArray v ∧
      r.1.layoutOf = Function.update c.layoutOf v (place m width idx (c.layoutOf v)) ∧
      (idx + 1 < m.perRowItemsCount → r.2 = itemRef m (idx + 1)) := by
  have hwidth := asksFor_widthIs v (itemWidth m width)
  by_cases hidx : idx < m.perRowItemsCount
  · obtain rfl := href hidx
    have hnext : idx + 1 < m.perRowItemsCount → RefView.sibling v = itemRef m (idx + 1) := by
      intro hlt
      rw [itemRef, if_pos hlt, if_neg (Nat.succ_ne_zero idx), Nat.add_sub_cancel, hitem, refOf]
    by_cases hzero : idx = 0
    · have hplace : placeModel m width idx (c.layoutOf v).model =
          { (c.layoutOf v).model with
            left := some ⟨.view (itemRef m idx), m.horizontalEdgeInset⟩
            top := some ⟨.view (itemRef m idx), m.verticalEdgeInset⟩
            width := some (itemWidth m width) } := by
        simp only [placeModel, flowPart, if_pos hidx, if_pos hzero]
      have hleft := asksFor_setModel v fun s =>
        { s with left := some ⟨.view (itemRef m idx), m.horizontalEdgeInset⟩ }
      have htop := asksFor_setModel v fun s =>
        { s with top := some ⟨.view (itemRef m idx), m.verticalEdgeInset⟩ }
      obtain ⟨h₁, h₂, h₃⟩ := ((hleft.comp htop).comp hwidth).arrange hplace
      simp only [arrangeItem, if_pos hidx, if_pos hzero]
      exact ⟨h₁, h₂, h₃, hnext⟩
    · have hplace : placeModel m width idx (c.layoutOf v).model =
          { (c.layoutOf v).model with
            left := some ⟨.view (itemRef m idx), horizontalMargin m width⟩
            equalTop := some ⟨itemRef m idx, 0⟩
            width := some (itemWidth m width) } := by
        simp only [placeModel, flowPart, if_pos hidx, if_neg hzero]
      have hleft := asksFor_setModel v fun s =>
        { s with left := some ⟨.view (itemRef m idx), horizontalMargin m width⟩ }
      have htop := asksFor_setModel v fun s => { s with equalTop := some ⟨itemRef m idx, 0⟩ }
      obtain ⟨h₁, h₂, h₃⟩ := ((hleft.comp htop).comp hwidth).arrange hplace
      simp only [arrangeItem, if_pos hidx, if_neg hzero]
      exact ⟨h₁, h₂, h₃, hnext⟩
  · have hplace : placeModel m width idx (c.layoutOf v).model =
        { (c.layoutOf v).model with
          equalLeft := some ⟨itemRef m idx, 0⟩
          top := some ⟨.view (itemRef m idx), m.verticalMargin⟩
          width := some (itemWidth m width) } := by
      simp only [placeModel, flowPart, if_neg hidx]
    have hleft := asksFor_setModel v fun s => { s with equalLeft := some ⟨itemRef m idx, 0⟩ }
    have htop := asksFor_setModel v fun s =>
      { s with top := some ⟨.view (itemRef m idx), m.verticalMargin⟩ }
    obtain ⟨h₁, h₂, h₃⟩ := ((hleft.comp hwidth).comp htop).arrange hplace
    have href : refOf m.flowItems[idx - m.perRowItemsCount]? = itemRef m idx := by
      rw [itemRef, if_neg hidx]
    simp only [arrangeItem, if_neg hidx, href]
    exact ⟨h₁, h₂, h₃, fun hlt => absurd hlt (by omega)⟩

/-! ## All items -/

/-- The views that have a layout, after some are asked for one. -/
def layoutsWithAll (models vs : List ι) : List ι := vs.foldl layoutsWith models

theorem mem_layoutsWithAll {models vs : List ι} {u : ι} :
    u ∈ layoutsWithAll models vs ↔ u ∈ models ∨ u ∈ vs := by
  unfold layoutsWithAll
  induction vs generalizing models with
  | nil => simp
  | cons v vs ih => rw [List.foldl_cons, ih, mem_layoutsWith, List.mem_cons, or_assoc]

theorem nodup_layoutsWithAll {models : List ι} (h : models.Nodup) (vs : List ι) :
    (layoutsWithAll models vs).Nodup := by
  unfold layoutsWithAll
  induction vs generalizing models with
  | nil => exact h
  | cons v vs ih =>
    refine ih ?_
    unfold layoutsWith
    split_ifs with hv
    · exact h
    · exact List.nodup_append.2 ⟨h, List.nodup_singleton v, fun u hu w hw => by
        rintro rfl
        exact hv (List.mem_singleton.1 hw ▸ hu)⟩

/-- What placing an item keeps, arranging the items from the `k`-th on keeps. -/
theorem foldl_arrangeItem {P : ι → LayoutSettings ι → Prop} {vs : List ι} {k : ℕ} {ref : RefView ι}
    (hP : ∀ idx v s, m.flowItems[idx]? = some v → P v s → P v (place m width idx s))
    (hvs : ∀ i, vs[i]? = m.flowItems[k + i]?) (href : k < m.perRowItemsCount → ref = itemRef m k)
    {c : FlowView ι} (hc : ∀ v, P v (c.layoutOf v)) :
    let c' := ((vs.zipIdx k).foldl (arrangeItem m width) (c, ref)).1
    Asked c c' ∧ c'.autoLayoutModelsArray = layoutsWithAll c.autoLayoutModelsArray vs ∧
      ∀ v, P v (c'.layoutOf v) := by
  induction vs generalizing k ref c with
  | nil => exact ⟨.refl c, rfl, hc⟩
  | cons u vs ih =>
    have hitem : m.flowItems[k]? = some u := by
      rw [← Nat.add_zero k, ← hvs 0, List.getElem?_cons_zero]
    obtain ⟨hasked, hmodels, hlayout, hnext⟩ := arrangeItem_spec width c hitem href
    rw [List.zipIdx_cons, List.foldl_cons]
    generalize arrangeItem m width (c, ref) (u, k) = r at hasked hmodels hlayout hnext ⊢
    -- the items behind it are numbered from the next on
    have hrest : ∀ i, vs[i]? = m.flowItems[k + 1 + i]? := fun i => by
      rw [Nat.add_assoc, Nat.add_comm 1 i, ← hvs (i + 1), List.getElem?_cons_succ]
    have hr : ∀ v, P v (r.1.layoutOf v) := by
      intro v
      rw [hlayout]
      by_cases hv : v = u
      · subst hv
        rw [Function.update_self]
        exact hP k v _ hitem (hc v)
      · rw [Function.update_of_ne hv]
        exact hc v
    obtain ⟨hasked', hmodels', hkeep⟩ := ih hrest hnext hr
    refine ⟨hasked.trans hasked', ?_, hkeep⟩
    rw [hmodels', hmodels]
    rfl

/-- **Every item is placed**, from the `k`-th on, where no view is there twice. -/
theorem foldl_arrangeItem_placed (width : ℚ) {vs : List ι} (hnd : vs.Nodup) {k : ℕ} {ref : RefView ι}
    (hvs : ∀ i, vs[i]? = m.flowItems[k + i]?) (href : k < m.perRowItemsCount → ref = itemRef m k)
    (c : FlowView ι) :
    let c' := ((vs.zipIdx k).foldl (arrangeItem m width) (c, ref)).1
    (∀ v, v ∉ vs → c'.layoutOf v = c.layoutOf v) ∧
      ∀ i v, vs[i]? = some v → c'.layoutOf v = place m width (k + i) (c.layoutOf v) := by
  induction vs generalizing k ref c with
  | nil => exact ⟨fun _ _ => rfl, fun i v h => by simp at h⟩
  | cons u vs ih =>
    obtain ⟨hu, hnd⟩ := List.nodup_cons.1 hnd
    have hitem : m.flowItems[k]? = some u := by
      rw [← Nat.add_zero k, ← hvs 0, List.getElem?_cons_zero]
    obtain ⟨-, -, hlayout, hnext⟩ := arrangeItem_spec width c hitem href
    rw [List.zipIdx_cons, List.foldl_cons]
    generalize arrangeItem m width (c, ref) (u, k) = r at hlayout hnext ⊢
    have hrest : ∀ i, vs[i]? = m.flowItems[k + 1 + i]? := fun i => by
      rw [Nat.add_assoc, Nat.add_comm 1 i, ← hvs (i + 1), List.getElem?_cons_succ]
    obtain ⟨hsame, hplaced⟩ := ih hnd hrest hnext r.1
    refine ⟨fun v hv => ?_, fun i v hv => ?_⟩
    · rw [List.mem_cons, not_or] at hv
      rw [hsame v hv.2, hlayout, Function.update_of_ne hv.1]
    · cases i with
      | zero =>
        obtain rfl : u = v := by simpa using hv
        rw [hsame u hu, hlayout, Function.update_self, Nat.add_zero]
      | succ i =>
        rw [List.getElem?_cons_succ] at hv
        have hne : v ≠ u := by
          rintro rfl
          exact hu (List.mem_of_getElem? hv)
        rw [hplaced i v hv, hlayout, Function.update_of_ne hne]
        congr 1
        omega

theorem layoutOf_congr (hmodels : c'.autoLayoutModelsArray = c.autoLayoutModelsArray)
    (hsettings : c'.settings = c.settings) : c'.layoutOf = c.layoutOf := by
  funext v
  rw [layoutOf, layoutOf, hmodels, hsettings]

theorem foldl_sd_layout (vs : List ι) (c : FlowView ι) :
    let c' := vs.foldl (fun c view => c.sd_layout view) c
    Asked c c' ∧ c'.autoLayoutModelsArray = layoutsWithAll c.autoLayoutModelsArray vs ∧
      c'.layoutOf = c.layoutOf ∧ c'.views = c.views := by
  induction vs generalizing c with
  | nil => exact ⟨.refl c, rfl, rfl, rfl⟩
  | cons v vs ih =>
    obtain ⟨h₁, h₂, h₃, -, h₄⟩ := sd_layout_spec v c
    obtain ⟨h₁', h₂', h₃', h₄'⟩ := ih (c.sd_layout v)
    refine ⟨h₁.trans h₁', ?_, h₃'.trans h₃, h₄'.trans h₄⟩
    rw [List.foldl_cons, h₂', h₂]
    rfl

theorem foldl_takeWidth (width : ℚ) (vs : List ι) (c : FlowView ι) :
    let c' := vs.foldl (takeWidth width) c
    Asked c c' ∧ c'.autoLayoutModelsArray = c.autoLayoutModelsArray ∧ c'.settings = c.settings ∧
      ∀ u, u ∉ vs → c'.views u = c.views u := by
  induction vs generalizing c with
  | nil => exact ⟨.refl c, rfl, rfl, fun _ _ => rfl⟩
  | cons v vs ih =>
    obtain ⟨h₁, h₂, h₃, h₄⟩ := ih (takeWidth width c v)
    refine ⟨⟨h₁.1, h₁.2, h₁.3, h₁.4, h₁.5, h₁.6⟩, h₂, h₃, fun u hu => ?_⟩
    rw [List.mem_cons, not_or] at hu
    exact (h₄ u hu.2).trans (Function.update_of_ne hu.1 _ _)

/-- The views of equal width are asked for no more than a layout. -/
theorem shareWidth_spec (c : FlowView ι) :
    Asked c c.shareWidth ∧
      c.shareWidth.autoLayoutModelsArray =
        layoutsWithAll c.autoLayoutModelsArray c.sd_equalWidthSubviews ∧
      c.shareWidth.layoutOf = c.layoutOf ∧
      ∀ u, u ∉ c.sd_equalWidthSubviews → c.shareWidth.views u = c.views u := by
  obtain ⟨h₁, h₂, h₃, h₄⟩ := foldl_sd_layout c.sd_equalWidthSubviews c
  set c₁ := c.sd_equalWidthSubviews.foldl (fun c view => c.sd_layout view) c
  obtain ⟨h₁', h₂', h₃', h₄'⟩ :=
    foldl_takeWidth ((c₁.frame.width - c₁.totalMargin) / c₁.sd_equalWidthSubviews.length)
      c₁.sd_equalWidthSubviews c₁
  refine ⟨h₁.trans h₁', h₂'.trans h₂, (layoutOf_congr h₂' h₃').trans h₃, fun u hu => ?_⟩
  rw [← h₁.sd_equalWidthSubviews] at hu
  rw [← h₄]
  exact h₄' u hu

/-! ## One layout -/

/-- What a layout does in front of the loop over the layouts. -/
def prepare (c : FlowView ι) : FlowView ι :=
  (if c.sd_equalWidthSubviews = [] then c else c.shareWidth).arrangeFlowItems

theorem sd_layoutSubviewsHandle_eq (c : FlowView ι) :
    c.sd_layoutSubviewsHandle = c.prepare.layoutModels.fitHeight := rfl

/-- The width the items are arranged for afterwards. -/
def managerAt (m : SDUIViewCategoryManager ι) (width : ℚ) : SDUIViewCategoryManager ι :=
  if m.flowItems ≠ [] ∧ m.lastWidth ≠ width then { m with lastWidth := width } else m

/-- The items, if they have to be arranged. -/
def itemsToArrange (c : FlowView ι) : List ι :=
  if c.sd_categoryManager.lastWidth ≠ c.frame.width then c.sd_categoryManager.flowItems else []

/-- **What happens in front of the loop**, where the views `vs` are asked for a layout before the
items are. -/
structure Prepared (vs : List ι) (c c' : FlowView ι) : Prop where
  frame : c'.frame = c.frame
  contentSize : c'.contentSize = c.contentSize
  sd_categoryManager : c'.sd_categoryManager = managerAt c.sd_categoryManager c.frame.width
  sd_equalWidthSubviews : c'.sd_equalWidthSubviews = c.sd_equalWidthSubviews
  sd_bottomViewsArray : c'.sd_bottomViewsArray = c.sd_bottomViewsArray
  sd_bottomViewBottomMargin : c'.sd_bottomViewBottomMargin = c.sd_bottomViewBottomMargin
  models : c'.autoLayoutModelsArray =
    layoutsWithAll (layoutsWithAll c.autoLayoutModelsArray vs) c.itemsToArrange
  same : c.sd_categoryManager.lastWidth = c.frame.width →
    c'.layoutOf = c.layoutOf ∧ ∀ v, v ∉ vs → c'.views v = c.views v
  keeps : ∀ P : ι → LayoutSettings ι → Prop,
    (∀ idx v s, c.sd_categoryManager.flowItems[idx]? = some v → P v s →
      P v (place c.sd_categoryManager c.frame.width idx s)) →
    (∀ v, P v (c.layoutOf v)) → ∀ v, P v (c'.layoutOf v)
  placed : c.sd_categoryManager.flowItems.Nodup →
    c.sd_categoryManager.lastWidth ≠ c.frame.width →
    ∀ idx v, c.sd_categoryManager.flowItems[idx]? = some v →
      c'.layoutOf v = place c.sd_categoryManager c.frame.width idx (c.layoutOf v)

theorem arrangeFlowItems_spec (c : FlowView ι) : Prepared [] c c.arrangeFlowItems := by
  unfold arrangeFlowItems
  dsimp only
  by_cases harrange :
      c.sd_categoryManager.flowItems ≠ [] ∧ c.sd_categoryManager.lastWidth ≠ c.frame.width
  · rw [if_pos harrange]
    set c₁ : FlowView ι :=
      { c with sd_categoryManager := { c.sd_categoryManager with lastWidth := c.frame.width } }
    have hvs : ∀ i, c.sd_categoryManager.flowItems[i]? = c.sd_categoryManager.flowItems[0 + i]? :=
      fun i => by rw [Nat.zero_add]
    have href : 0 < c.sd_categoryManager.perRowItemsCount →
        RefView.superview = itemRef c.sd_categoryManager 0 := fun h => by
      rw [itemRef, if_pos h, if_pos rfl]
    obtain ⟨h₁, h₂, -⟩ := foldl_arrangeItem (P := fun _ _ => True)
      (fun idx v s (_ : c.sd_categoryManager.flowItems[idx]? = some v) (_ : True) =>
        (trivial : (fun _ _ => True) v (place c.sd_categoryManager c.frame.width idx s)))
      hvs href (c := c₁) fun _ => trivial
    refine ⟨h₁.1, h₁.2, ?_, h₁.4, h₁.5, h₁.6, ?_, fun h => absurd h harrange.2, ?_, ?_⟩
    · rw [h₁.3, managerAt, if_pos harrange]
    · rw [h₂, itemsToArrange, if_pos harrange.2]
      rfl
    · intro P hP hc
      exact (foldl_arrangeItem hP hvs href (c := c₁) hc).2.2
    · intro hnd _ idx v hv
      rw [(foldl_arrangeItem_placed c.frame.width hnd hvs href c₁).2 idx v hv,
        Nat.zero_add]
      rfl
  · rw [if_neg harrange]
    have hnone : c.itemsToArrange = [] := by
      unfold itemsToArrange
      by_contra hne
      exact harrange ⟨fun h => hne (by rw [h, ite_self]), fun h => hne (if_neg (not_not.2 h))⟩
    refine ⟨rfl, rfl, ?_, rfl, rfl, rfl, ?_, fun _ => ⟨rfl, fun _ _ => rfl⟩,
      fun P _ hc => hc, ?_⟩
    · rw [managerAt, if_neg harrange]
    · rw [hnone]
      rfl
    · intro _ hwidth idx v hv
      rw [itemsToArrange, if_pos hwidth] at hnone
      rw [hnone] at hv
      simp at hv

theorem prepare_spec (c : FlowView ι) : Prepared c.sd_equalWidthSubviews c c.prepare := by
  -- the views of equal width
  obtain ⟨hasked, hmodels, hlayout, hviews⟩ : Asked c
        (if c.sd_equalWidthSubviews = [] then c else c.shareWidth) ∧
      (if c.sd_equalWidthSubviews = [] then c else c.shareWidth).autoLayoutModelsArray =
        layoutsWithAll c.autoLayoutModelsArray c.sd_equalWidthSubviews ∧
      (if c.sd_equalWidthSubviews = [] then c else c.shareWidth).layoutOf = c.layoutOf ∧
      ∀ u, u ∉ c.sd_equalWidthSubviews →
        (if c.sd_equalWidthSubviews = [] then c else c.shareWidth).views u = c.views u := by
    split_ifs with h
    · exact ⟨.refl c, by rw [h]; rfl, rfl, fun _ _ => rfl⟩
    · exact shareWidth_spec c
  unfold prepare
  generalize (if c.sd_equalWidthSubviews = [] then c else c.shareWidth) = c₁
    at hasked hmodels hlayout hviews ⊢
  have h := arrangeFlowItems_spec c₁
  have hitems : c₁.itemsToArrange = c.itemsToArrange := by
    rw [itemsToArrange, itemsToArrange, hasked.3, hasked.1]
  obtain ⟨h₁, h₂, h₃, h₄, h₅, h₆, h₇, hsame, hkeeps, hplaced⟩ := h
  rw [hasked.3, hasked.1] at h₃
  rw [hitems, hmodels] at h₇
  rw [hasked.3, hasked.1] at hsame hkeeps hplaced
  rw [hlayout] at hsame hkeeps hplaced
  refine ⟨h₁.trans hasked.1, h₂.trans hasked.2, h₃, h₄.trans hasked.4, h₅.trans hasked.5,
    h₆.trans hasked.6, h₇, fun hwidth => ⟨(hsame hwidth).1, fun v hv => ?_⟩, hkeeps, hplaced⟩
  rw [(hsame hwidth).2 v List.not_mem_nil, hviews v hv]

/-- **A layout** leaves the preparations as they are, and the width of the view. -/
theorem sd_layoutSubviewsHandle_spec (c : FlowView ι) :
    c.sd_layoutSubviewsHandle.sd_categoryManager = c.prepare.sd_categoryManager ∧
      c.sd_layoutSubviewsHandle.autoLayoutModelsArray = c.prepare.autoLayoutModelsArray ∧
      c.sd_layoutSubviewsHandle.settings = c.prepare.settings ∧
      c.sd_layoutSubviewsHandle.views = c.prepare.layoutModels.views ∧
      c.sd_layoutSubviewsHandle.frame.width = c.frame.width ∧
      c.sd_layoutSubviewsHandle.sd_equalWidthSubviews = c.sd_equalWidthSubviews := by
  rw [sd_layoutSubviewsHandle_eq, ← (prepare_spec c).frame, ← (prepare_spec c).sd_equalWidthSubviews]
  unfold fitHeight
  split
  · exact ⟨rfl, rfl, rfl, rfl, rfl, rfl⟩
  · split
    · exact ⟨rfl, rfl, rfl, rfl, rfl, rfl⟩
    · split_ifs <;> exact ⟨rfl, rfl, rfl, rfl, rfl, rfl⟩

/-! ## Whole runs -/

/-- Setting up forgets the width, and leaves the layouts. -/
theorem setupAutoWidthFlowItems_spec (vs : List ι) (n : ℕ) (vm hm vI hI : ℚ) (c : FlowView ι) :
    let c' := c.setupAutoWidthFlowItems vs n vm hm vI hI
    c'.sd_categoryManager.flowItems = vs ∧ c'.sd_categoryManager.perRowItemsCount = n ∧
      c'.sd_categoryManager.lastWidth = 0 ∧
      c'.autoLayoutModelsArray = c.autoLayoutModelsArray ∧ c'.layoutOf = c.layoutOf := by
  unfold setupAutoWidthFlowItems
  dsimp only
  split <;> exact ⟨rfl, rfl, rfl, rfl, rfl⟩

/-- **What a step does**: it sets up items, lays out, or does neither. -/
theorem step_cases {a : FlowEvent ι} (h : c.step a = some c') :
    (∃ vs n, a.setup = some (vs, n) ∧ c'.sd_categoryManager.flowItems = vs ∧
      c'.sd_categoryManager.perRowItemsCount = n ∧ c'.sd_categoryManager.lastWidth = 0 ∧
      c'.autoLayoutModelsArray = c.autoLayoutModelsArray ∧ c'.layoutOf = c.layoutOf) ∨
    (a = .layoutSubviews ∧ c' = c.sd_layoutSubviewsHandle) ∨
    (a.setup = none ∧ c'.sd_categoryManager = c.sd_categoryManager ∧
      c'.autoLayoutModelsArray = c.autoLayoutModelsArray ∧
      ∀ v, ∃ label, c'.layoutOf v = { c.layoutOf v with label := label }) := by
  cases a with
  | setupAutoWidthFlowItems vs n vm hm vI hI =>
    obtain rfl := Option.some.inj h
    exact Or.inl ⟨vs, n, rfl, setupAutoWidthFlowItems_spec vs n vm hm vI hI c⟩
  | setupAutoMarginFlowItems vs n w vm vI hI =>
    obtain rfl := Option.some.inj h
    exact Or.inl ⟨vs, n, rfl, setupAutoWidthFlowItems_spec vs n vm 0 vI hI _⟩
  | setSd_equalWidthSubviews vs =>
    obtain rfl := Option.some.inj h
    exact Or.inr (Or.inr ⟨rfl, rfl, rfl, fun v => ⟨_, rfl⟩⟩)
  | setFrame frame =>
    obtain rfl := Option.some.inj h
    exact Or.inr (Or.inr ⟨rfl, rfl, rfl, fun v => ⟨_, rfl⟩⟩)
  | setSubviewFrame view frame =>
    obtain rfl := Option.some.inj h
    exact Or.inr (Or.inr ⟨rfl, rfl, rfl, fun v => ⟨_, rfl⟩⟩)
  | setText view text =>
    simp only [step] at h
    split_ifs at h
    obtain rfl := Option.some.inj h
    refine Or.inr (Or.inr ⟨rfl, rfl, rfl, fun v => ?_⟩)
    by_cases hv : v = view
    · subst hv
      refine ⟨some text, ?_⟩
      simp only [layoutOf, setText, Function.update_self]
      split_ifs <;> rfl
    · refine ⟨(c.layoutOf v).label, ?_⟩
      simp only [layoutOf, setText, Function.update_of_ne hv]
  | layoutSubviews =>
    exact Or.inr (Or.inl ⟨rfl, (Option.some.inj h).symm⟩)

/-- A view that may be an item: its height is asked for in one way, and nothing else is but what
arranging it asks for. -/
structure IsItem (s : LayoutSettings ι) : Prop where
  laidOut : s.sd_isClosingAutoLayout = false
  widthEqualHeight : s.model.widthEqualHeight = false
  heightEqualWidth : s.model.heightEqualWidth = false
  limits : s.model.maxWidth = none ∧ s.model.minWidth = none ∧ s.model.maxHeight = none ∧
    s.model.minHeight = none
  autoWidthRatio : s.autoWidthRatioValue = none
  maxWidth : s.sd_maxWidth = none
  ratios : s.model.ratio_width = none ∧ s.model.ratio_height = none
  far : s.model.right = none ∧ s.model.equalRight = none ∧ s.model.bottom = none ∧
    s.model.equalBottom = none
  center : s.model.centerX = none ∧ s.model.centerY = none ∧ s.model.equalCenterX = none ∧
    s.model.equalCenterY = none
  height : s.model.height.isSome ≠ s.autoHeightRatioValue.isSome
  height_nonneg : ∀ z, s.model.height = some z → 0 ≤ z

/-- The near edges are asked for in some of the parts `P` of an arrangement. -/
structure EdgesFrom (P : FlowPart → Prop) (model : SDAutoLayoutModel ι) : Prop where
  left : model.left.isSome → P .head ∨ P .row
  top : model.top.isSome → P .head ∨ P .below
  equalLeft : model.equalLeft.isSome → P .below
  equalTop : model.equalTop.isSome → P .row

omit [DecidableEq ι] in
theorem IsItem.place {s : LayoutSettings ι} (h : IsItem s) (m : SDUIViewCategoryManager ι)
    (width : ℚ) (idx : ℕ) : IsItem (place m width idx s) := by
  unfold FlowView.place placeModel
  split <;> exact ⟨h.1, h.2, h.3, h.4, h.5, h.6, h.7, h.8, h.9, h.10, h.11⟩

omit [DecidableEq ι] in
theorem IsItem.label {s : LayoutSettings ι} (h : IsItem s) (label : Option (Option LabelText)) :
    IsItem { s with label := label } :=
  ⟨h.1, h.2, h.3, h.4, h.5, h.6, h.7, h.8, h.9, h.10, h.11⟩

omit [DecidableEq ι] in
theorem EdgesFrom.mono {P Q : FlowPart → Prop} {model : SDAutoLayoutModel ι}
    (h : EdgesFrom P model) (hPQ : ∀ p, P p → Q p) : EdgesFrom Q model where
  left hs := (h.left hs).imp (hPQ _) (hPQ _)
  top hs := (h.top hs).imp (hPQ _) (hPQ _)
  equalLeft hs := hPQ _ (h.equalLeft hs)
  equalTop hs := hPQ _ (h.equalTop hs)

omit [DecidableEq ι] in
theorem EdgesFrom.place {P : FlowPart → Prop} {model : SDAutoLayoutModel ι} (h : EdgesFrom P model)
    (m : SDUIViewCategoryManager ι) (width : ℚ) {idx : ℕ} (hP : P (flowPart m.perRowItemsCount idx)) :
    EdgesFrom P (placeModel m width idx model) := by
  unfold placeModel
  split
  · rename_i hpart
    rw [hpart] at hP
    exact ⟨fun _ => Or.inl hP, fun _ => Or.inl hP, h.equalLeft, h.equalTop⟩
  · rename_i hpart
    rw [hpart] at hP
    exact ⟨fun _ => Or.inr hP, h.top, h.equalLeft, fun _ => hP⟩
  · rename_i hpart
    rw [hpart] at hP
    exact ⟨h.left, fun _ => Or.inr hP, fun _ => hP, h.equalTop⟩

/-- A view was put in a part of an arrangement. -/
def PutIn (h : List (FlowView ι × FlowEvent ι)) (v : ι) (p : FlowPart) : Prop :=
  ∃ q ∈ h, ∃ vs n idx, q.2.setup = some (vs, n) ∧ vs[idx]? = some v ∧ flowPart n idx = p

/-- **What holds in a run.** -/
structure FlowInv (init : FlowView ι) (h : List (FlowView ι × FlowEvent ι)) (c : FlowView ι) :
    Prop where
  nodup : init.autoLayoutModelsArray.Nodup → c.autoLayoutModelsArray.Nodup
  isItem : ∀ v, IsItem (init.layoutOf v) → IsItem (c.layoutOf v)
  setup : c.sd_categoryManager.flowItems ≠ [] → ∃ q ∈ h, q.2.setup =
    some (c.sd_categoryManager.flowItems, c.sd_categoryManager.perRowItemsCount)
  edges : ∀ v, EdgesFrom (fun _ => False) (init.layoutOf v).model →
    EdgesFrom (PutIn h v) (c.layoutOf v).model
  arranged : c.sd_categoryManager.lastWidth ≠ 0 → c.sd_categoryManager.flowItems.Nodup →
    Arranged c.sd_categoryManager c.sd_categoryManager.lastWidth c

section Steps

variable {init : FlowView ι} {h : List (FlowView ι × FlowEvent ι)} {a : FlowEvent ι}

omit [DecidableEq ι] in
theorem PutIn.snoc {v : ι} {p : FlowPart} (hp : PutIn h v p) (q : FlowView ι × FlowEvent ι) :
    PutIn (h ++ [q]) v p := by
  obtain ⟨q', hq', hput⟩ := hp
  exact ⟨q', List.mem_append_left _ hq', hput⟩

omit [DecidableEq ι] in
theorem managerAt_flowItems (m : SDUIViewCategoryManager ι) (width : ℚ) :
    (managerAt m width).flowItems = m.flowItems := by
  unfold managerAt
  split_ifs <;> rfl

omit [DecidableEq ι] in
theorem managerAt_perRowItemsCount (m : SDUIViewCategoryManager ι) (width : ℚ) :
    (managerAt m width).perRowItemsCount = m.perRowItemsCount := by
  unfold managerAt
  split_ifs <;> rfl

omit [DecidableEq ι] in
theorem managerAt_lastWidth (hitems : m.flowItems ≠ []) (width : ℚ) :
    (managerAt m width).lastWidth = width := by
  unfold managerAt
  split_ifs with hwidth
  · rfl
  · by_contra hne
    exact hwidth ⟨hitems, hne⟩

theorem arranged_managerAt {w : ℚ} :
    Arranged (managerAt m w) width c ↔ Arranged m width c := by
  unfold managerAt
  split_ifs
  · exact ⟨fun h => ⟨h.mem, h.placed⟩, fun h => ⟨h.mem, h.placed⟩⟩
  · rfl

theorem Arranged.congr (h : Arranged m width c)
    (hmodels : ∀ v, v ∈ c.autoLayoutModelsArray → v ∈ c'.autoLayoutModelsArray)
    (hlayout : c'.layoutOf = c.layoutOf) : Arranged m width c' where
  mem v hv := hmodels v (h.mem v hv)
  placed idx v hv := by
    rw [hlayout]
    exact h.placed idx v hv

omit [DecidableEq ι] in
theorem place_place (m : SDUIViewCategoryManager ι) (width : ℚ) (idx : ℕ) (s : LayoutSettings ι) :
    place m width idx (place m width idx s) = place m width idx s := by
  unfold FlowView.place placeModel
  split <;> rfl

omit [DecidableEq ι] in
theorem place_label (m : SDUIViewCategoryManager ι) (width : ℚ) (idx : ℕ) (s : LayoutSettings ι)
    (label : Option (Option LabelText)) :
    place m width idx { s with label := label } = { place m width idx s with label := label } := rfl

/-- **In front of the loop the items are arranged**, anew or still. -/
theorem FlowInv.arranged_prepare (hi : FlowInv init h c) (hwidth : c.frame.width ≠ 0)
    (hnd : c.sd_categoryManager.flowItems.Nodup) :
    Arranged c.sd_categoryManager c.frame.width c.prepare := by
  have hp := prepare_spec c
  by_cases hlast : c.sd_categoryManager.lastWidth = c.frame.width
  · have harr := hi.arranged (hlast ▸ hwidth) hnd
    rw [hlast] at harr
    refine harr.congr (fun v hv => ?_) (hp.same hlast).1
    rw [hp.models]
    exact mem_layoutsWithAll.2 (Or.inl (mem_layoutsWithAll.2 (Or.inl hv)))
  · refine ⟨fun v hv => ?_, fun idx v hv => ?_⟩
    · rw [hp.models, itemsToArrange, if_pos hlast]
      exact mem_layoutsWithAll.2 (Or.inr hv)
    · rw [hp.placed hnd hlast idx v hv, place_place]

theorem FlowInv.layout (hi : FlowInv init h c) (q : FlowView ι × FlowEvent ι) :
    FlowInv init (h ++ [q]) c.sd_layoutSubviewsHandle := by
  have hp := prepare_spec c
  obtain ⟨hmanager, hmodels, hsettings, -, -, -⟩ := sd_layoutSubviewsHandle_spec c
  have hlayout := layoutOf_congr hmodels hsettings
  rw [hp.sd_categoryManager] at hmanager
  refine ⟨fun hnd => ?_, fun v hv => ?_, fun hitems => ?_, fun v hv => ?_, fun hlast hnd => ?_⟩
  · rw [hmodels, hp.models]
    exact nodup_layoutsWithAll (nodup_layoutsWithAll (hi.nodup hnd) _) _
  · rw [hlayout]
    exact hp.keeps (fun v s => IsItem (init.layoutOf v) → IsItem s)
      (fun idx v s _ hs hv => (hs hv).place _ _ idx) hi.isItem v hv
  · rw [hmanager, managerAt_flowItems] at hitems
    obtain ⟨q', hq', hset⟩ := hi.setup hitems
    refine ⟨q', List.mem_append_left _ hq', ?_⟩
    rw [hmanager, managerAt_flowItems, managerAt_perRowItemsCount, hset]
  · rw [hlayout]
    refine hp.keeps (fun v s => EdgesFrom (fun _ => False) (init.layoutOf v).model →
      EdgesFrom (PutIn (h ++ [q]) v) s.model) (fun idx v s hitem hs hv => ?_)
      (fun v hv => (hi.edges v hv).mono fun _ hput => hput.snoc q) v hv
    -- the items were set up before
    have hne : c.sd_categoryManager.flowItems ≠ [] := by
      rintro hnil
      rw [hnil] at hitem
      simp at hitem
    obtain ⟨q', hq', hset⟩ := hi.setup hne
    exact (hs hv).place _ _ ⟨q', List.mem_append_left _ hq', _, _, idx, hset, hitem, rfl⟩
  · rw [hmanager, managerAt_flowItems] at hnd
    rw [hmanager, arranged_managerAt]
    by_cases hitems : c.sd_categoryManager.flowItems = []
    · exact ⟨fun v hv => by simp [hitems] at hv, fun idx v hv => by simp [hitems] at hv⟩
    · rw [hmanager, managerAt_lastWidth hitems] at hlast
      rw [managerAt_lastWidth hitems]
      exact (hi.arranged_prepare hlast hnd).congr (fun v hv => hmodels ▸ hv) hlayout

/-- **Every step keeps the invariant.** -/
theorem FlowInv.step (hi : FlowInv init h c) (hst : c.step a = some c') :
    FlowInv init (h ++ [(c, a)]) c' := by
  have hlast : (c, a) ∈ h ++ [(c, a)] := List.mem_append_right _ List.mem_cons_self
  rcases step_cases hst with ⟨vs, n, hset, hitems, hrow, hzero, hmodels, hlayout⟩ | ⟨rfl, rfl⟩ |
    ⟨-, hmanager, hmodels, hlabel⟩
  · refine ⟨fun hnd => hmodels ▸ hi.nodup hnd, fun v hv => ?_, fun _ => ⟨_, hlast, ?_⟩,
      fun v hv => ?_, fun hne => absurd hzero hne⟩
    · rw [hlayout]
      exact hi.isItem v hv
    · rw [hset, hitems, hrow]
    · rw [hlayout]
      exact (hi.edges v hv).mono fun _ hput => hput.snoc _
  · exact hi.layout _
  · refine ⟨fun hnd => hmodels ▸ hi.nodup hnd, fun v hv => ?_, fun hne => ?_, fun v hv => ?_,
      fun hne hnd => ?_⟩
    · obtain ⟨label, hl⟩ := hlabel v
      rw [hl]
      exact (hi.isItem v hv).label label
    · rw [hmanager] at hne ⊢
      obtain ⟨q, hq, hset⟩ := hi.setup hne
      exact ⟨q, List.mem_append_left _ hq, hset⟩
    · obtain ⟨label, hl⟩ := hlabel v
      rw [hl]
      exact (hi.edges v hv).mono fun _ hput => hput.snoc _
    · rw [hmanager] at hne hnd ⊢
      have harr := hi.arranged hne hnd
      refine ⟨fun v hv => hmodels ▸ harr.mem v hv, fun idx v hv => ?_⟩
      obtain ⟨label, hl⟩ := hlabel v
      rw [hl, place_label, harr.placed idx v hv]

theorem flowInv_of_run (hfresh : init.sd_categoryManager = {}) (hr : Run step init h c) :
    FlowInv init h c := by
  induction hr with
  | nil =>
    refine ⟨id, fun _ => id, fun hne => ?_, fun v hv => hv.mono fun _ => False.elim, fun hne => ?_⟩
    · exact absurd (by rw [hfresh]) hne
    · exact absurd (by rw [hfresh]) hne
  | snoc _ hst ih => exact ih.step hst

end Steps

end FlowView

end RCSdk
