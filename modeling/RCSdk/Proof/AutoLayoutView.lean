import Mathlib.Tactic.Linarith
import Mathlib.Tactic.Ring
import RCSdk.Spec.AutoLayout

/-!
# What a layout asks of one view

`Satisfies rd s f`: the frame `f` has the edges and the sizes the settings `s` ask for, where the
views they name have the frames `rd`. For settings that fix each axis once (`WellPosed`),
`resize` sets such a frame, whatever the view looked like before (`resize_satisfies`), and there is
only one (`satisfies_unique`).
-/

namespace RCSdk

open Grids LayoutView Axis

variable {ι : Type}

/-! ## What is asked for -/

/-- The views an item names. -/
def ViewOrViewsArray.refViews : ViewOrViewsArray ι → List (RefView ι)
  | .view refView => [refView]
  | .viewsArray refViewsArray => refViewsArray.map .sibling

namespace SDAutoLayoutModel

def marginItems (m : SDAutoLayoutModel ι) : List (Option (MarginItem ι)) :=
  [m.left, m.top, m.right, m.bottom]

def equalItems (m : SDAutoLayoutModel ι) : List (Option (EqualItem ι)) :=
  [m.equalLeft, m.equalRight, m.equalTop, m.equalBottom, m.equalCenterX, m.equalCenterY]

def ratioItems (m : SDAutoLayoutModel ι) : List (Option (RatioItem ι)) :=
  [m.ratio_width, m.ratio_height]

/-- The model names the view. -/
def Names (m : SDAutoLayoutModel ι) (ref : RefView ι) : Prop :=
  (∃ item, some item ∈ m.marginItems ∧ ref ∈ item.ref.refViews) ∨
    (∃ item, some item ∈ m.equalItems ∧ ref = item.refView) ∨
    ∃ item, some item ∈ m.ratioItems ∧ ref = item.refView

end SDAutoLayoutModel

/-- The edges, the center and the size asked for on an axis. -/
structure Asks where
  near : Option ℚ
  far : Option ℚ
  center : Option ℚ
  size : Option ℚ

/-- An origin and a size are as asked for, where the edges were laid out with the size `held`. -/
structure Asks.Met (k : Asks) (origin size held : ℚ) : Prop where
  near : ∀ e, k.near = some e → origin = e
  far : ∀ e, k.far = some e → origin + held = e
  center : ∀ c, k.center = some c → origin + held * (1 / 2) = c
  size : ∀ z, k.size = some z → size = z

section Edges

variable (a : Axis ι) (rd : RefView ι → Rect ℚ)

/-- The farthest of some edges, if any lies beyond zero. -/
def farthestEdge (refs : List ι) : ℚ :=
  refs.foldl (fun last ref => max last (a.far (rd (.sibling ref)))) 0

/-- An edge behind a view, by a margin. -/
def behind : MarginItem ι → ℚ
  | ⟨.view .superview, value⟩ => floatValue value
  | ⟨.view ref, value⟩ => a.far (rd ref) + floatValue value
  | ⟨.viewsArray refs, value⟩ => farthestEdge a rd refs + floatValue value

/-- An edge in front of a view, by a margin. -/
def inFront : MarginItem ι → ℚ
  | ⟨.view .superview, value⟩ => a.size (rd .superview) - floatValue value
  | ⟨.view ref, value⟩ => a.near (rd ref) - floatValue value
  | ⟨.viewsArray _, value⟩ => a.near (rd .none) - floatValue value

/-- An edge or a center that equals one of a view, which for the superview is `inside`. -/
def equalTo (edge inside : Rect ℚ → ℚ) (item : EqualItem ι) : ℚ :=
  (if item.refView.isSuperview then inside (rd item.refView) else edge (rd item.refView)) +
    item.offset

def nearEdge (item : Option (MarginItem ι)) (equal : Option (EqualItem ι)) : Option ℚ :=
  (item.map (behind a rd)).or (equal.map (equalTo rd a.near fun _ => 0))

def farEdge (item : Option (MarginItem ι)) (equal : Option (EqualItem ι)) : Option ℚ :=
  (item.map (inFront a rd)).or (equal.map (equalTo rd a.far a.size))

/-- The center, which a near edge goes before. -/
def centerAt (item : Option (MarginItem ι)) (equal equalCenter : Option (EqualItem ι))
    (center : Option ℚ) : Option ℚ :=
  if (nearEdge a rd item equal).isSome then none
  else (equalCenter.map (equalTo rd a.center fun f => a.size f * (1 / 2))).or
    (center.map floatValue)

variable (s : LayoutSettings ι)

/-- The width of a text on one line, of at most the width that is set. -/
def textWidth (text : LabelText) (maxWidth : ℚ) : ℚ :=
  (if floatValue maxWidth > 0 ∧ text.width > floatValue maxWidth then floatValue maxWidth
    else text.width) + 1 / 10

/-- A width that is set, by itself or as a ratio. -/
def setWidthOf : Option ℚ :=
  (s.model.width.map floatValue).or
    (s.model.ratio_width.map fun r => width_sd (rd r.refView) * floatValue r.value)

/-- The width of a label with a greatest width. -/
def textWidthOf : Option ℚ := s.sd_maxWidth.bind fun w => s.label.join.map fun text => textWidth text w

/-- A width that is set is a `float`, the one of a text is what the text measures. -/
def widthOf : Option ℚ := ((setWidthOf rd s).map floatValue).or (textWidthOf s)

def setHeightOf : Option ℚ :=
  (s.model.height.map floatValue).or
    (s.model.ratio_height.map fun r => floatValue r.value * height_sd (rd r.refView))

def heightOf : Option ℚ := (setHeightOf rd s).map floatValue

/-- The height a width leads to. -/
def autoHeightOf (width : ℚ) : ℚ :=
  if floatValue (s.autoHeightRatioValue.getD 0) > 0 then
    width * floatValue (s.autoHeightRatioValue.getD 0)
  else match s.label with
    | some (some text) => text.height width + 1 / 10
    | _ => 0

/-- The width while the edges are laid out. The one of a text is held as a `float` then. -/
def heldWidth (width : ℚ) : ℚ := if s.sd_maxWidth.isSome then floatValue width else width

/-- The height while the edges are laid out. One that follows from the width is held as a `float`
then. -/
def heldHeight (f : Rect ℚ) : ℚ :=
  if s.autoHeightRatioValue.isSome ∧ 0 < f.width then
    floatValue (autoHeightOf s (heldWidth s f.width))
  else f.height

def asksX : Asks where
  near := nearEdge horizontal rd s.model.left s.model.equalLeft
  far := farEdge horizontal rd s.model.right s.model.equalRight
  center := centerAt horizontal rd s.model.left s.model.equalLeft s.model.equalCenterX s.model.centerX
  size := widthOf rd s

def asksY : Asks where
  near := nearEdge vertical rd s.model.top s.model.equalTop
  far := farEdge vertical rd s.model.bottom s.model.equalBottom
  center := centerAt vertical rd s.model.top s.model.equalTop s.model.equalCenterY s.model.centerY
  size := heightOf rd s

/-- **The frame is as the settings ask.** -/
structure Satisfies (f : Rect ℚ) : Prop where
  horizontal : (asksX rd s).Met f.x f.width (heldWidth s f.width)
  vertical : (asksY rd s).Met f.y f.height (heldHeight s f)
  autoHeight : s.autoHeightRatioValue.isSome → 0 < f.width → f.height = autoHeightOf s f.width

/-- The edges leave no negative size. -/
def Asks.Extends (k : Asks) : Prop := ∀ e e', k.near = some e → k.far = some e' → e ≤ e'

/-- Some view of each array lies beyond zero, so that the array stands for a view, and no negative
size is asked for. -/
structure Definite : Prop where
  left : ∀ refs value, s.model.left = some ⟨.viewsArray refs, value⟩ →
    ∃ r ∈ refs, 0 < right_sd (rd (.sibling r))
  top : ∀ refs value, s.model.top = some ⟨.viewsArray refs, value⟩ →
    ∃ r ∈ refs, 0 < bottom_sd (rd (.sibling r))
  width : ∀ z, setWidthOf rd s = some z → 0 ≤ z
  height : ∀ z, setHeightOf rd s = some z → 0 ≤ z
  horizontal : (asksX rd s).Extends
  vertical : (asksY rd s).Extends

end Edges

/-- One of the edges or the center of an axis is asked for where the size is, both edges where it
is not. -/
def FixesAxis (near far center size : Bool) : Prop :=
  (near, far, center, size) ∈ [(true, false, false, true), (false, true, false, true),
    (false, false, true, true), (true, true, false, false)]

/-- **Settings that fix each axis once**, without limits and without sizes that equal one another. -/
structure WellPosed (s : LayoutSettings ι) : Prop where
  laidOut : s.sd_isClosingAutoLayout = false
  widthEqualHeight : s.model.widthEqualHeight = false
  heightEqualWidth : s.model.heightEqualWidth = false
  limits : s.model.maxWidth = none ∧ s.model.minWidth = none ∧ s.model.maxHeight = none ∧
    s.model.minHeight = none
  autoWidthRatio : s.autoWidthRatioValue = none
  text : s.sd_maxWidth.isSome → s.label.join.isSome ∧ s.model.width = none ∧
    s.model.ratio_width = none
  autoHeight : s.autoHeightRatioValue.isSome → s.model.height = none ∧ s.model.ratio_height = none
  axisX : FixesAxis (s.model.left.isSome || s.model.equalLeft.isSome)
    (s.model.right.isSome || s.model.equalRight.isSome)
    (!(s.model.left.isSome || s.model.equalLeft.isSome) &&
      (s.model.equalCenterX.isSome || s.model.centerX.isSome))
    (s.model.width.isSome || s.model.ratio_width.isSome || s.sd_maxWidth.isSome)
  axisY : FixesAxis (s.model.top.isSome || s.model.equalTop.isSome)
    (s.model.bottom.isSome || s.model.equalBottom.isSome)
    (!(s.model.top.isSome || s.model.equalTop.isSome) &&
      (s.model.equalCenterY.isSome || s.model.centerY.isSome))
    (s.model.height.isSome || s.model.ratio_height.isSome || s.autoHeightRatioValue.isSome)

/-! ## One axis -/

/-- What laying out the near edge or the center makes of an origin `p` and a size `z`. -/
structure PlacedNear (near center : Option ℚ) (fixed : Bool) (p z p' z' : ℚ) : Prop where
  edge : ∀ e, near = some e → p' = e ∧ (fixed = true → z' = z)
  middle : near = none → ∀ c, center = some c → p' + z' * (1 / 2) = c ∧ z' = z
  rest : near = none → center = none → p' = p ∧ z' = z

/-- What laying out the far edge makes of them. -/
structure PlacedFar (far : Option ℚ) (fixed : Bool) (p z p' z' : ℚ) : Prop where
  edge : ∀ e, far = some e → p' + z' = e ∧ (fixed = true → z' = z) ∧
    (fixed = false → p ≤ e → p' = p)
  rest : far = none → p' = p ∧ z' = z

/-- **An axis that is fixed once** has its edges and its center where they are asked for, and keeps
a size that is held on to. -/
theorem axis_placed {near far center : Option ℚ} {size fixed : Bool} {p₀ z₀ p₁ z₁ p₂ z₂ : ℚ}
    (hfix : FixesAxis near.isSome far.isSome center.isSome size)
    (hfree : size = false → fixed = false)
    (hext : ∀ e e', near = some e → far = some e' → e ≤ e')
    (hnear : PlacedNear near center fixed p₀ z₀ p₁ z₁)
    (hfar : PlacedFar far fixed p₁ z₁ p₂ z₂) :
    (Asks.mk near far center none).Met p₂ z₂ z₂ ∧ (fixed = true → z₂ = z₀) := by
  suffices h : (∀ e, near = some e → p₂ = e) ∧ (∀ e, far = some e → p₂ + z₂ = e) ∧
      (∀ c, center = some c → p₂ + z₂ * (1 / 2) = c) ∧ (fixed = true → z₂ = z₀) from
    ⟨⟨h.1, h.2.1, h.2.2.1, by simp⟩, h.2.2.2⟩
  simp only [FixesAxis, List.mem_cons, Prod.mk.injEq, List.not_mem_nil, or_false] at hfix
  rcases hfix with ⟨hn, hf, hc, -⟩ | ⟨hn, hf, hc, -⟩ | ⟨hn, hf, hc, -⟩ | ⟨hn, hf, hc, hsize⟩
  · obtain ⟨e, rfl⟩ := Option.isSome_iff_exists.1 hn
    obtain rfl := Option.isSome_eq_false_iff.1 hf |> Option.isNone_iff_eq_none.1
    obtain rfl := Option.isSome_eq_false_iff.1 hc |> Option.isNone_iff_eq_none.1
    obtain ⟨hp, hz⟩ := hfar.rest rfl
    obtain ⟨hp', hz'⟩ := hnear.edge e rfl
    refine ⟨fun e' he => ?_, by simp, by simp, fun h => hz.trans (hz' h)⟩
    rw [hp, hp', Option.some.inj he]
  · obtain rfl := Option.isSome_eq_false_iff.1 hn |> Option.isNone_iff_eq_none.1
    obtain ⟨e, rfl⟩ := Option.isSome_iff_exists.1 hf
    obtain rfl := Option.isSome_eq_false_iff.1 hc |> Option.isNone_iff_eq_none.1
    obtain ⟨hp, hz⟩ := hnear.rest rfl rfl
    obtain ⟨hsum, hz', -⟩ := hfar.edge e rfl
    refine ⟨by simp, fun e' he => ?_, by simp, fun h => (hz' h).trans hz⟩
    rw [hsum, Option.some.inj he]
  · obtain rfl := Option.isSome_eq_false_iff.1 hn |> Option.isNone_iff_eq_none.1
    obtain rfl := Option.isSome_eq_false_iff.1 hf |> Option.isNone_iff_eq_none.1
    obtain ⟨c, rfl⟩ := Option.isSome_iff_exists.1 hc
    obtain ⟨hp, hz⟩ := hfar.rest rfl
    obtain ⟨hsum, hz'⟩ := hnear.middle rfl c rfl
    refine ⟨by simp, by simp, fun c' he => ?_, fun _ => hz.trans hz'⟩
    rw [hp, hz, hsum, Option.some.inj he]
  · obtain ⟨e, rfl⟩ := Option.isSome_iff_exists.1 hn
    obtain ⟨e', rfl⟩ := Option.isSome_iff_exists.1 hf
    obtain rfl := Option.isSome_eq_false_iff.1 hc |> Option.isNone_iff_eq_none.1
    have hfixed := hfree hsize
    obtain ⟨hp', -⟩ := hnear.edge e rfl
    obtain ⟨hsum, -, hp⟩ := hfar.edge e' rfl
    refine ⟨fun e₁ he => ?_, fun e₁ he => ?_, by simp, fun h => ?_⟩
    · rw [hp hfixed (hp' ▸ hext e e' rfl rfl), hp', Option.some.inj he]
    · rw [hsum, Option.some.inj he]
    · rw [hfixed] at h
      cases h

/-- **There is one origin and one size for an axis that is fixed once**, where the size that is held
follows from the size. -/
theorem Asks.Met.unique {k : Asks} {p z q p' z' q' : ℚ}
    (hfix : FixesAxis k.near.isSome k.far.isSome k.center.isSome k.size.isSome) (h : k.Met p z q)
    (h' : k.Met p' z' q') (hheld : z = z' → q = q')
    (hfree : k.size = none → q = z ∧ q' = z') : p = p' ∧ z = z' := by
  have hsame : ∀ {r r' : ℚ} {o : Option ℚ}, o.isSome = true → (∀ e, o = some e → r = e) →
      (∀ e, o = some e → r' = e) → r = r' := by
    intro r r' o ho h h'
    obtain ⟨e, he⟩ := Option.isSome_iff_exists.1 ho
    exact (h e he).trans (h' e he).symm
  simp only [FixesAxis, List.mem_cons, Prod.mk.injEq, List.not_mem_nil, or_false] at hfix
  rcases hfix with ⟨hn, -, -, hs⟩ | ⟨-, hf, -, hs⟩ | ⟨-, -, hc, hs⟩ | ⟨hn, hf, -, hs⟩
  · exact ⟨hsame hn h.near h'.near, hsame hs h.size h'.size⟩
  · have hz := hsame hs h.size h'.size
    have hp := hsame hf h.far h'.far
    have hq := hheld hz
    exact ⟨by linarith, hz⟩
  · have hz := hsame hs h.size h'.size
    have hp := hsame hc h.center h'.center
    have hq := hheld hz
    exact ⟨by linarith, hz⟩
  · have hp := hsame hn h.near h'.near
    have hq := hsame hf h.far h'.far
    obtain ⟨hz, hz'⟩ := hfree (Option.isNone_iff_eq_none.1 (Option.isSome_eq_false_iff.1 hs))
    exact ⟨hp, by linarith⟩

/-- The pick from an array, from a start on. -/
theorem foldl_farthest (edge : ι → ℚ) (refs : List ι) (r : Option ι) (m : ℚ) :
    let last := refs.foldl (fun (last : Option ι × ℚ) ref =>
      if edge ref > last.2 then (some ref, edge ref) else last) (r, m)
    last.2 = refs.foldl (fun last ref => max last (edge ref)) m ∧ m ≤ last.2 ∧
      (last = (r, m) ∨ ∃ u ∈ refs, last.1 = some u ∧ edge u = last.2) := by
  induction refs generalizing r m with
  | nil => exact ⟨rfl, le_refl m, Or.inl rfl⟩
  | cons ref refs ih =>
    simp only [List.foldl_cons]
    by_cases h : edge ref > m
    · obtain ⟨h₁, h₂, h₃⟩ := ih (some ref) (edge ref)
      rw [if_pos h, max_eq_right h.le]
      refine ⟨h₁, h.le.trans h₂, Or.inr ?_⟩
      rcases h₃ with h₃ | ⟨u, hu, hlast, he⟩
      · rw [h₃]
        exact ⟨ref, List.mem_cons_self, rfl, rfl⟩
      · exact ⟨u, List.mem_cons_of_mem _ hu, hlast, he⟩
    · obtain ⟨h₁, h₂, h₃⟩ := ih r m
      rw [if_neg h, max_eq_left (not_lt.1 h)]
      refine ⟨h₁, h₂, ?_⟩
      rcases h₃ with h₃ | ⟨u, hu, hlast, he⟩
      · exact Or.inl h₃
      · exact Or.inr ⟨u, List.mem_cons_of_mem _ hu, hlast, he⟩

theorem le_foldl_max (edge : ι → ℚ) {refs : List ι} {u : ι} (hu : u ∈ refs) (m : ℚ) :
    edge u ≤ refs.foldl (fun last ref => max last (edge ref)) m := by
  induction refs generalizing m with
  | nil => exact absurd hu List.not_mem_nil
  | cons ref refs ih =>
    rcases List.mem_cons.1 hu with rfl | hu
    · exact (le_max_right m (edge u)).trans
        ((foldl_farthest edge refs none (max m (edge u))).1 ▸
          (foldl_farthest edge refs none (max m (edge u))).2.1)
    · exact ih hu _

/-- **An array with a view beyond zero stands for the farthest of its views.** -/
theorem farthest_eq (edge : ι → ℚ) {refs : List ι} (h : ∃ u ∈ refs, 0 < edge u) (r : Option ι) :
    ∃ u ∈ refs, farthest edge refs r = some u ∧
      edge u = refs.foldl (fun last ref => max last (edge ref)) 0 := by
  obtain ⟨u₀, hu₀, hpos⟩ := h
  obtain ⟨h₁, -, h₃⟩ := foldl_farthest edge refs r 0
  rcases h₃ with h₃ | ⟨u, hu, hlast, he⟩
  · -- then no view lies beyond zero
    have := le_foldl_max edge hu₀ 0
    rw [← h₁, h₃] at this
    exact absurd this (not_le.2 hpos)
  · exact ⟨u, hu, hlast, he.trans h₁⟩

theorem PlacedNear.of_edge {near center : Option ℚ} {fixed : Bool} {p z p' z' e : ℚ}
    (he : near = some e) (h : p' = e ∧ (fixed = true → z' = z)) :
    PlacedNear near center fixed p z p' z' := by
  subst he
  exact ⟨fun e' he' => Option.some.inj he' ▸ h, by simp, by simp⟩

theorem PlacedNear.of_center {near center : Option ℚ} {fixed : Bool} {p z p' z' c : ℚ}
    (hn : near = none) (hc : center = some c) (h : p' + z' * (1 / 2) = c ∧ z' = z) :
    PlacedNear near center fixed p z p' z' := by
  subst hn hc
  exact ⟨by simp, fun _ c' hc' => Option.some.inj hc' ▸ h, by simp⟩

theorem PlacedNear.of_none {near center : Option ℚ} {fixed : Bool} {p z : ℚ} (hn : near = none)
    (hc : center = none) : PlacedNear near center fixed p z p z := by
  subst hn hc
  exact ⟨by simp, by simp, fun _ _ => ⟨rfl, rfl⟩⟩

theorem PlacedFar.of_edge {far : Option ℚ} {fixed : Bool} {p z p' z' e : ℚ} (he : far = some e)
    (h : p' + z' = e ∧ (fixed = true → z' = z) ∧ (fixed = false → p ≤ e → p' = p)) :
    PlacedFar far fixed p z p' z' := by
  subst he
  exact ⟨fun e' he' => Option.some.inj he' ▸ h, by simp⟩

theorem PlacedFar.of_none {far : Option ℚ} {fixed : Bool} {p z : ℚ} (hf : far = none) :
    PlacedFar far fixed p z p z := by
  subst hf
  exact ⟨by simp, fun _ => ⟨rfl, rfl⟩⟩

/-! ## Setters -/

/-- The part of a view on an axis. -/
def LayoutView.Axis.state (a : Axis ι) (v : LayoutView ι) : ℚ × ℚ × Option ℚ :=
  (a.near v.frame, a.size v.frame, a.fixed v)

/-- What the setters of an axis do to it, and that they leave the other axis alone. -/
structure LayoutView.Axis.Lawful (a b : Axis ι) (s : LayoutSettings ι) : Prop where
  setNear : ∀ v e, a.state (a.setNear v e) = (e, a.size v.frame, a.fixed v) ∧
    b.state (a.setNear v e) = b.state v
  setSize : ∀ v z, a.state (a.setSize s v z) = (a.near v.frame + min z 0, |z|, a.fixed v) ∧
    b.state (a.setSize s v z) = b.state v
  setRefView : ∀ v ref, (a.setRefView v ref).frame = v.frame ∧
    a.fixed (a.setRefView v ref) = a.fixed v ∧ b.fixed (a.setRefView v ref) = b.fixed v ∧
    a.refView (a.setRefView v ref) = ref

variable {s : LayoutSettings ι} {read : Reading ι} {rd : RefView ι → Rect ℚ}

theorem WellPosed.setWidth_sd_eq (hp : WellPosed s) (v : LayoutView ι) (z : ℚ) :
    setWidth_sd s v z = v.setWidth z := by
  simp [setWidth_sd, hp.widthEqualHeight, hp.heightEqualWidth]

theorem WellPosed.setHeight_sd_eq (hp : WellPosed s) (v : LayoutView ι) (z : ℚ) :
    setHeight_sd s v z = v.setHeight z := by
  simp [setHeight_sd, hp.widthEqualHeight, hp.heightEqualWidth]

theorem WellPosed.lawful_horizontal (hp : WellPosed s) : Lawful horizontal vertical s where
  setNear _ _ := ⟨rfl, rfl⟩
  setSize v z := by
    change horizontal.state (setWidth_sd s v z) = _ ∧ vertical.state (setWidth_sd s v z) = _
    rw [hp.setWidth_sd_eq]
    exact ⟨rfl, rfl⟩
  setRefView _ _ := ⟨rfl, rfl, rfl, rfl⟩

theorem WellPosed.lawful_vertical (hp : WellPosed s) : Lawful vertical horizontal s where
  setNear _ _ := ⟨rfl, rfl⟩
  setSize v z := by
    change vertical.state (setHeight_sd s v z) = _ ∧ horizontal.state (setHeight_sd s v z) = _
    rw [hp.setHeight_sd_eq]
    exact ⟨rfl, rfl⟩
  setRefView _ _ := ⟨rfl, rfl, rfl, rfl⟩

/-! ## Edges -/

section Placed

variable {a b : Axis ι} (hl : Lawful a b s) (v : LayoutView ι)

include hl

theorem adjust_state (z : ℚ) :
    ((a.fixed v).isSome = true → a.state (a.adjust s v z) = a.state v) ∧
    ((a.fixed v).isSome = false →
      a.state (a.adjust s v z) = (a.near v.frame + min z 0, |z|, a.fixed v)) ∧
    a.fixed (a.adjust s v z) = a.fixed v ∧ b.state (a.adjust s v z) = b.state v := by
  unfold adjust
  by_cases hf : (a.fixed v).isNone = true
  · obtain ⟨h₁, h₂⟩ := hl.setSize v z
    rw [if_pos hf]
    exact ⟨fun h => absurd h (by simpa using hf), fun _ => h₁, congrArg (·.2.2) h₁, h₂⟩
  · rw [if_neg hf]
    exact ⟨fun _ => rfl, fun h => absurd h (by simpa using hf), rfl, rfl⟩

/-- A near edge set. -/
theorem setNear_adjust (z e : ℚ) :
    (a.near (a.setNear (a.adjust s v z) e).frame = e ∧ ((a.fixed v).isSome = true →
      a.size (a.setNear (a.adjust s v z) e).frame = a.size v.frame)) ∧
    a.fixed (a.setNear (a.adjust s v z) e) = a.fixed v ∧
    b.state (a.setNear (a.adjust s v z) e) = b.state v := by
  obtain ⟨hsome, -, hfixed, hb⟩ := adjust_state hl v z
  obtain ⟨h₃, h₄⟩ := hl.setNear (a.adjust s v z) e
  simp only [Axis.state, Prod.mk.injEq] at hsome h₃
  exact ⟨⟨h₃.1, fun hf => h₃.2.1.trans (hsome hf).2.1⟩, h₃.2.2.trans hfixed, h₄.trans hb⟩

/-- A far edge set. -/
theorem setFar_adjust {z e : ℚ} (hz : z = e - a.near v.frame) :
    (a.near (a.setFar (a.adjust s v z) e).frame + a.size (a.setFar (a.adjust s v z) e).frame = e ∧
      ((a.fixed v).isSome = true →
        a.size (a.setFar (a.adjust s v z) e).frame = a.size v.frame) ∧
      ((a.fixed v).isSome = false → a.near v.frame ≤ e →
        a.near (a.setFar (a.adjust s v z) e).frame = a.near v.frame)) ∧
    a.fixed (a.setFar (a.adjust s v z) e) = a.fixed v ∧
    b.state (a.setFar (a.adjust s v z) e) = b.state v := by
  obtain ⟨hsome, hnone, hfixed, hb⟩ := adjust_state hl v z
  obtain ⟨h₃, h₄⟩ := hl.setNear (a.adjust s v z) (e - a.size (a.adjust s v z).frame)
  simp only [Axis.state, Prod.mk.injEq] at hsome hnone h₃
  unfold setFar
  refine ⟨⟨?_, fun hf => h₃.2.1.trans (hsome hf).2.1, fun hf he => ?_⟩, h₃.2.2.trans hfixed,
    h₄.trans hb⟩
  · rw [h₃.1, h₃.2.1]
    ring
  · rw [h₃.1, (hnone hf).2.1, hz, abs_of_nonneg (sub_nonneg.2 he)]
    ring

/-- A center set. -/
theorem setCenter_state (c : ℚ) :
    (a.near (a.setCenter v c).frame + a.size (a.setCenter v c).frame * (1 / 2) = c ∧
      a.size (a.setCenter v c).frame = a.size v.frame) ∧
    a.fixed (a.setCenter v c) = a.fixed v ∧ b.state (a.setCenter v c) = b.state v := by
  obtain ⟨h₃, h₄⟩ := hl.setNear v (c - a.size v.frame * (1 / 2))
  simp only [Axis.state, Prod.mk.injEq] at h₃
  unfold setCenter
  refine ⟨⟨?_, h₃.2.1⟩, h₃.2.2, h₄⟩
  rw [h₃.1, h₃.2.1]
  ring

variable {item : Option (MarginItem ι)} {equal equalCenter : Option (EqualItem ι)}

/-- **The near edge and the center.** -/
theorem layoutNear_placed (center : Option ℚ)
    (hitem : ∀ i, item = some i → ∀ w, ∀ ref ∈ i.ref.refViews, read w ref = rd ref)
    (hequal : ∀ i, equal = some i → ∀ w, read w i.refView = rd i.refView)
    (hcenter : ∀ i, equalCenter = some i → ∀ w, read w i.refView = rd i.refView)
    (hd : ∀ refs value, item = some ⟨.viewsArray refs, value⟩ →
      ∃ r ∈ refs, 0 < a.far (rd (.sibling r))) :
    let v' := a.layoutNear s read item equal equalCenter center v
    PlacedNear (nearEdge a rd item equal) (centerAt a rd item equal equalCenter center)
      (a.fixed v).isSome (a.near v.frame) (a.size v.frame) (a.near v'.frame) (a.size v'.frame) ∧
    a.fixed v' = a.fixed v ∧ b.state v' = b.state v := by
  match item, equal, equalCenter, center with
  | some ⟨.view ref, value⟩, _, _, _ =>
    have hread := fun w => hitem _ rfl w ref (List.mem_singleton_self ref)
    cases ref with
    | superview =>
      obtain ⟨h₁, h₂⟩ := setNear_adjust hl v (a.far v.frame - floatValue value)
        (floatValue value)
      exact ⟨.of_edge rfl h₁, h₂⟩
    | none =>
      obtain ⟨h₁, h₂⟩ := setNear_adjust hl v (a.far v.frame - a.far (rd .none) - floatValue value)
        (a.far (rd .none) + floatValue value)
      simp only [layoutNear, layoutBehind, hread]
      exact ⟨.of_edge rfl h₁, h₂⟩
    | sibling u =>
      obtain ⟨h₁, h₂⟩ := setNear_adjust hl v
        (a.far v.frame - a.far (rd (.sibling u)) - floatValue value)
        (a.far (rd (.sibling u)) + floatValue value)
      simp only [layoutNear, layoutBehind, hread]
      exact ⟨.of_edge rfl h₁, h₂⟩
  | some ⟨.viewsArray refs, value⟩, _, _, _ =>
    have hread : ∀ u ∈ refs, ∀ w, read w (.sibling u) = rd (.sibling u) := fun u hu w =>
      hitem _ rfl w _ (List.mem_map_of_mem hu)
    obtain ⟨u₀, hu₀, hpos⟩ := hd refs value rfl
    obtain ⟨u, hu, hpick, he⟩ := farthest_eq
      (fun ref => a.far (read v (.sibling ref))) ⟨u₀, hu₀, by rwa [hread u₀ hu₀]⟩
      (a.refView v)
    have hfar : farthestEdge a rd refs = a.far (rd (.sibling u)) := by
      rw [← hread u hu v, he]
      exact List.foldl_ext _ _ _ fun m ref href => by rw [hread ref href v]
    obtain ⟨hframe, hfixed, hfixed', hpicked⟩ := hl.setRefView v (some u)
    obtain ⟨h₁, h₂, h₃⟩ := setNear_adjust hl (a.setRefView v (some u))
      (a.far (a.setRefView v (some u)).frame - a.far (rd (.sibling u)) - floatValue value)
      (a.far (rd (.sibling u)) + floatValue value)
    simp only [layoutNear, layoutBehind, hpick, hpicked, refOf, hread u hu]
    rw [hfixed] at h₁ h₂
    rw [hframe] at h₁ h₂ h₃ ⊢
    refine ⟨.of_edge (by simp [nearEdge, behind, hfar]) h₁, h₂,
      h₃.trans ?_⟩
    simp only [Axis.state, hframe, hfixed']
  | none, some i, _, _ =>
    have hread := fun w => hequal i rfl w
    simp only [layoutNear, hread]
    by_cases hsup : i.refView.isSuperview = true
    · obtain ⟨h₁, h₂⟩ := setNear_adjust hl v
        (a.far v.frame - (a.inside (rd i.refView) + i.offset)) (0 + i.offset)
      rw [if_pos hsup]
      exact ⟨.of_edge (by simp [nearEdge, equalTo, hsup]) h₁, h₂⟩
    · obtain ⟨h₁, h₂⟩ := setNear_adjust hl v
        (a.far v.frame - (a.near (rd i.refView) + i.offset)) (a.near (rd i.refView) + i.offset)
      rw [if_neg hsup]
      exact ⟨.of_edge (by simp [nearEdge, equalTo, hsup]) h₁, h₂⟩
  | none, none, some i, _ =>
    have hread := fun w => hcenter i rfl w
    simp only [layoutNear, hread]
    by_cases hsup : i.refView.isSuperview = true
    · obtain ⟨h₁, h₂⟩ := setCenter_state hl v (a.size (rd i.refView) * (1 / 2) + i.offset)
      rw [if_pos hsup]
      exact ⟨.of_center rfl (by simp [centerAt, nearEdge, equalTo, hsup]) h₁, h₂⟩
    · obtain ⟨h₁, h₂⟩ := setCenter_state hl v (a.center (rd i.refView) + i.offset)
      rw [if_neg hsup]
      exact ⟨.of_center rfl (by simp [centerAt, nearEdge, equalTo, hsup]) h₁, h₂⟩
  | none, none, none, some c =>
    obtain ⟨h₁, h₂⟩ := setCenter_state hl v (floatValue c)
    exact ⟨.of_center rfl rfl h₁, h₂⟩
  | none, none, none, none => exact ⟨.of_none rfl rfl, rfl, rfl⟩

/-- **The far edge.** -/
theorem layoutFar_placed
    (hitem : ∀ i, item = some i → ∀ w, ∀ ref ∈ i.ref.refViews, read w ref = rd ref)
    (hequal : ∀ i, equal = some i → ∀ w, read w i.refView = rd i.refView)
    (hnone : ∀ w, read w .none = rd .none) :
    let v' := a.layoutFar s read item equal v
    PlacedFar (farEdge a rd item equal) (a.fixed v).isSome (a.near v.frame) (a.size v.frame)
      (a.near v'.frame) (a.size v'.frame) ∧
    a.fixed v' = a.fixed v ∧ b.state v' = b.state v := by
  match item, equal with
  | some ⟨.view ref, value⟩, _ =>
    have hread := fun w => hitem _ rfl w ref (List.mem_singleton_self ref)
    cases ref with
    | superview =>
      obtain ⟨h₁, h₂⟩ := setFar_adjust hl v
        (z := a.size (rd .superview) - a.near v.frame - floatValue value)
        (e := a.size (rd .superview) - floatValue value) (by ring)
      simp only [layoutFar, hread]
      exact ⟨.of_edge rfl h₁, h₂⟩
    | none =>
      obtain ⟨h₁, h₂⟩ := setFar_adjust hl v
        (z := a.near (rd .none) - a.near v.frame - floatValue value)
        (e := a.near (rd .none) - floatValue value) (by ring)
      simp only [layoutFar, hread]
      exact ⟨.of_edge rfl h₁, h₂⟩
    | sibling u =>
      obtain ⟨h₁, h₂⟩ := setFar_adjust hl v
        (z := a.near (rd (.sibling u)) - a.near v.frame - floatValue value)
        (e := a.near (rd (.sibling u)) - floatValue value) (by ring)
      simp only [layoutFar, hread]
      exact ⟨.of_edge rfl h₁, h₂⟩
  | some ⟨.viewsArray refs, value⟩, _ =>
    obtain ⟨h₁, h₂⟩ := setFar_adjust hl v
      (z := a.near (rd .none) - a.near v.frame - floatValue value)
      (e := a.near (rd .none) - floatValue value) (by ring)
    simp only [layoutFar, hnone]
    exact ⟨.of_edge rfl h₁, h₂⟩
  | none, some i =>
    have hread := fun w => hequal i rfl w
    simp only [layoutFar, hread]
    by_cases hsup : i.refView.isSuperview = true
    · obtain ⟨h₁, h₂⟩ := setFar_adjust hl v
        (z := a.size (rd i.refView) - a.near v.frame + i.offset)
        (e := a.size (rd i.refView) + i.offset) (by ring)
      rw [if_pos hsup]
      exact ⟨.of_edge (by simp [farEdge, equalTo, hsup]) h₁, h₂⟩
    · obtain ⟨h₁, h₂⟩ := setFar_adjust hl v
        (z := a.far (rd i.refView) - a.near v.frame + i.offset)
        (e := a.far (rd i.refView) + i.offset) (by ring)
      rw [if_neg hsup]
      exact ⟨.of_edge (by simp [farEdge, equalTo, hsup]) h₁, h₂⟩
  | none, none => exact ⟨.of_none rfl, rfl, rfl⟩

end Placed

/-! ## Sizes -/

/-- A size set. -/
theorem WellPosed.setWidth_sd_frame (hp : WellPosed s) (v : LayoutView ι) {z : ℚ} (hz : 0 ≤ z) :
    setWidth_sd s v z = { v with frame := { v.frame with width := z } } := by
  simp [hp.setWidth_sd_eq, setWidth, abs_of_nonneg hz, min_eq_right hz]

theorem WellPosed.setHeight_sd_frame (hp : WellPosed s) (v : LayoutView ι) {z : ℚ} (hz : 0 ≤ z) :
    setHeight_sd s v z = { v with frame := { v.frame with height := z } } := by
  simp [hp.setHeight_sd_eq, setHeight, abs_of_nonneg hz, min_eq_right hz]

/-- A view takes a size and holds on to it, which reads it as a `float`. -/
theorem WellPosed.holdWidth (hp : WellPosed s) (v : LayoutView ι) {z : ℚ} (hz : 0 ≤ z) :
    setFixedWidth s (setWidth_sd s v z) (setWidth_sd s v z).frame.width =
      { v with frame := { v.frame with width := floatValue z }, fixedWidth := some z } := by
  simp [setFixedWidth, hp.setWidth_sd_frame _ hz, hp.setWidth_sd_frame _ (floatValue_nonneg hz)]

theorem WellPosed.holdHeight (hp : WellPosed s) (v : LayoutView ι) {z : ℚ} (hz : 0 ≤ z) :
    setFixedHeight s (setHeight_sd s v z) (setHeight_sd s v z).frame.height =
      { v with frame := { v.frame with height := floatValue z }, fixedHeight := some z } := by
  simp [setFixedHeight, hp.setHeight_sd_frame _ hz, hp.setHeight_sd_frame _ (floatValue_nonneg hz)]

theorem layoutAutoHeight_eq (v : LayoutView ι) :
    layoutAutoHeight s v = setHeight_sd s v (autoHeightOf s v.frame.width) := by
  unfold layoutAutoHeight autoHeightOf
  split_ifs
  · rfl
  · rcases s.label with - | - | text <;> rfl

theorem autoHeightOf_nonneg {width : ℚ} (h : 0 < width) : 0 ≤ autoHeightOf s width := by
  unfold autoHeightOf
  split_ifs with hratio
  · exact (mul_pos h hratio).le
  · split
    · rename_i text _
      have := text.height_nonneg width
      linarith
    · exact le_refl 0

theorem le_textWidth (text : LabelText) (w : ℚ) : 1 / 10 ≤ textWidth text w := by
  unfold textWidth
  split_ifs with h
  · linarith [h.1]
  · linarith [text.width_nonneg]

/-- The width of a text does not vanish when it is held. -/
theorem floatValue_textWidth_pos (text : LabelText) (w : ℚ) : 0 < floatValue (textWidth text w) := by
  refine floatValue_pos (le_trans ?_ (le_textWidth text w))
  norm_num

/-- The width of a label, in front of a right edge. -/
def widthFirst (s : LayoutSettings ι) (v : LayoutView ι) : LayoutView ι :=
  if s.sd_maxWidth.isSome then
    setFixedWidth s (layoutAutoWidth s v) (layoutAutoWidth s v).frame.width
  else v

/-- The height that follows from the width, in front of a bottom edge. -/
def heightFirst (s : LayoutSettings ι) (v : LayoutView ι) : LayoutView ι :=
  if s.autoHeightRatioValue.isSome ∧ v.frame.width > 0 then
    setFixedHeight s (layoutAutoHeight s v) (layoutAutoHeight s v).frame.height
  else v

/-- Both once more, behind the edges. -/
def sizesLast (s : LayoutSettings ι) (v : LayoutView ι) : LayoutView ι :=
  let v := if s.sd_maxWidth.isSome then layoutAutoWidth s v else v
  if s.autoHeightRatioValue.isSome ∧ v.frame.width > 0 then layoutAutoHeight s v else v

theorem WellPosed.resize_eq (hp : WellPosed s) (v : LayoutView ι) :
    resize s read v = sizesLast s (vertical.layoutFar s read s.model.bottom s.model.equalBottom
      (layoutTop s read (heightFirst s (layoutRight s read (layoutLeft s read
        (layoutHeight s read (layoutWidth s read (widthFirst s v)))))))) := by
  obtain ⟨h₁, h₂, h₃, h₄⟩ := hp.limits
  simp [resize, hp.laidOut, hp.autoWidthRatio, hp.widthEqualHeight, hp.heightEqualWidth, h₁, h₂,
    h₃, h₄, limitWidth, limitHeight, layoutBottom, sizesLast, heightFirst, widthFirst]

/-- What a label with a greatest width is set to. -/
theorem WellPosed.label_text (hp : WellPosed s) {w : ℚ} (hw : s.sd_maxWidth = some w) :
    ∃ text, textWidthOf s = some (textWidth text w) ∧
      ∀ v, layoutAutoWidth s v = setWidth_sd s v (textWidth text w) := by
  obtain ⟨hlabel, -, -⟩ := hp.text (by rw [hw]; rfl)
  obtain ⟨text, htext⟩ := Option.isSome_iff_exists.1 hlabel
  refine ⟨text, by simp [textWidthOf, hw, htext], fun v => ?_⟩
  simp only [layoutAutoWidth, Option.join_eq_some_iff.1 htext, hw, Option.getD_some, textWidth]

/-- Such a label has no other width. -/
theorem WellPosed.setWidthOf_eq_none (hp : WellPosed s) (rd : RefView ι → Rect ℚ)
    (h : s.sd_maxWidth.isSome = true) : setWidthOf rd s = none := by
  obtain ⟨-, hwidth, hratio⟩ := hp.text h
  simp [setWidthOf, hwidth, hratio]

/-- The width that is held on to, as a `float`. -/
def holdWidthOf (rd : RefView ι → Rect ℚ) (s : LayoutSettings ι) : Option ℚ :=
  (setWidthOf rd s).or (textWidthOf s)

theorem WellPosed.holdWidthOf_nonneg (hp : WellPosed s)
    (hz : ∀ z, setWidthOf rd s = some z → 0 ≤ z) : ∀ z, holdWidthOf rd s = some z → 0 ≤ z := by
  intro z h
  cases hw : s.sd_maxWidth with
  | none =>
    have htext : textWidthOf s = none := by simp [textWidthOf, hw]
    rw [holdWidthOf, htext, Option.or_none] at h
    exact hz z h
  | some w =>
    obtain ⟨text, htext, -⟩ := hp.label_text hw
    rw [holdWidthOf, hp.setWidthOf_eq_none rd (by rw [hw]; rfl), htext, Option.none_or] at h
    have := le_textWidth text w
    rw [← Option.some.inj h]
    linarith

/-- The named views have the frames `rd`, whatever the view laid out looks like. -/
def Reads (s : LayoutSettings ι) (read : Reading ι) (rd : RefView ι → Rect ℚ) : Prop :=
  ∀ w ref, s.model.Names ref ∨ ref = .none → read w ref = rd ref

/-- A view holds on to a size only where one is asked for. -/
structure HoldsAsked (s : LayoutSettings ι) (v : LayoutView ι) : Prop where
  width : s.model.width = none → s.model.ratio_width = none → s.sd_maxWidth = none →
    s.autoWidthRatioValue = none → v.fixedWidth = none
  height : s.model.height = none → s.model.ratio_height = none → s.autoHeightRatioValue = none →
    v.fixedHeight = none

/-- **The width is set first.** -/
theorem layoutWidth_spec (hp : WellPosed s) (hr : Reads s read rd)
    (hz : ∀ z, setWidthOf rd s = some z → 0 ≤ z) (v : LayoutView ι) :
    layoutWidth s read (widthFirst s v) =
      ((holdWidthOf rd s).map fun z =>
        { v with
          frame := { v.frame with width := floatValue z }
          fixedWidth := some z }).getD v := by
  have hpos := hp.holdWidthOf_nonneg hz
  cases hw : s.sd_maxWidth with
  | some w =>
    obtain ⟨-, hwidth, hratio⟩ := hp.text (by rw [hw]; rfl)
    obtain ⟨text, hsize, hset⟩ := hp.label_text hw
    have hhold : holdWidthOf rd s = some (textWidth text w) := by
      simp [holdWidthOf, setWidthOf, hwidth, hratio, hsize]
    simp [layoutWidth, hwidth, hratio, widthFirst, hw, hset, hhold, hp.holdWidth v (hpos _ hhold)]
  | none =>
    cases hwidth : s.model.width with
    | some z =>
      have hhold : holdWidthOf rd s = some (floatValue z) := by
        simp [holdWidthOf, setWidthOf, hwidth]
      simp [layoutWidth, hwidth, widthFirst, hw, hhold, hp.holdWidth v (hpos _ hhold)]
    | none =>
      cases hratio : s.model.ratio_width with
      | some r =>
        have hread : ∀ w, read w r.refView = rd r.refView := fun w =>
          hr w _ (Or.inl (Or.inr (Or.inr ⟨r, by simp [SDAutoLayoutModel.ratioItems, hratio], rfl⟩)))
        have hhold : holdWidthOf rd s = some (width_sd (rd r.refView) * floatValue r.value) := by
          simp [holdWidthOf, setWidthOf, hwidth, hratio]
        simp [layoutWidth, hwidth, hratio, widthFirst, hw, hhold, hread,
          hp.holdWidth v (hpos _ hhold)]
      | none =>
        simp [layoutWidth, holdWidthOf, setWidthOf, textWidthOf, hwidth, hratio, widthFirst, hw]

/-- **The height is set second.** -/
theorem layoutHeight_spec (hp : WellPosed s) (hr : Reads s read rd)
    (hz : ∀ z, setHeightOf rd s = some z → 0 ≤ z) (v : LayoutView ι) :
    layoutHeight s read v =
      ((setHeightOf rd s).map fun z =>
        { v with
          frame := { v.frame with height := floatValue z }
          fixedHeight := some z }).getD v := by
  cases hheight : s.model.height with
  | some z =>
    have hsize : setHeightOf rd s = some (floatValue z) := by simp [setHeightOf, hheight]
    simp [layoutHeight, hheight, hsize, hp.holdHeight v (hz _ hsize)]
  | none =>
    cases hratio : s.model.ratio_height with
    | some r =>
      have hread : ∀ w, read w r.refView = rd r.refView := fun w =>
        hr w _ (Or.inl (Or.inr (Or.inr ⟨r, by simp [SDAutoLayoutModel.ratioItems, hratio], rfl⟩)))
      have hsize : setHeightOf rd s = some (floatValue r.value * height_sd (rd r.refView)) := by
        simp [setHeightOf, hheight, hratio]
      simp [layoutHeight, hheight, hratio, hsize, hread, hp.holdHeight v (hz _ hsize)]
    | none => simp [layoutHeight, setHeightOf, hheight, hratio]

/-- **The height that follows from the width is set behind the horizontal edges.** -/
theorem heightFirst_spec (hp : WellPosed s) (v : LayoutView ι) :
    heightFirst s v =
      if s.autoHeightRatioValue.isSome ∧ 0 < v.frame.width then
        { v with
          frame := { v.frame with height := floatValue (autoHeightOf s v.frame.width) }
          fixedHeight := some (autoHeightOf s v.frame.width) }
      else v := by
  unfold heightFirst
  by_cases h : s.autoHeightRatioValue.isSome = true ∧ 0 < v.frame.width
  · rw [if_pos h, if_pos h, layoutAutoHeight_eq, hp.holdHeight v (autoHeightOf_nonneg h.2)]
  · rw [if_neg h, if_neg h]

/-- **Behind the edges the sizes are set exactly.** -/
theorem sizesLast_frame (hp : WellPosed s) (v : LayoutView ι) :
    let f := (sizesLast s v).frame
    f.x = v.frame.x ∧ f.y = v.frame.y ∧
    f.width = (if s.sd_maxWidth.isSome then (textWidthOf s).getD 0 else v.frame.width) ∧
    f.height = if s.autoHeightRatioValue.isSome ∧ 0 < f.width then autoHeightOf s f.width
      else v.frame.height := by
  have hauto : ∀ v : LayoutView ι,
      (if s.autoHeightRatioValue.isSome ∧ v.frame.width > 0 then layoutAutoHeight s v
        else v).frame =
      { v.frame with
        height := if s.autoHeightRatioValue.isSome ∧ 0 < v.frame.width then
          autoHeightOf s v.frame.width else v.frame.height } := by
    intro v
    by_cases h : s.autoHeightRatioValue.isSome = true ∧ 0 < v.frame.width
    · rw [if_pos h, if_pos h, layoutAutoHeight_eq, hp.setHeight_sd_frame v (autoHeightOf_nonneg h.2)]
    · rw [if_neg h, if_neg h]
  unfold sizesLast
  cases hw : s.sd_maxWidth with
  | none =>
    simp [hauto]
  | some w =>
    obtain ⟨text, hsize, hset⟩ := hp.label_text hw
    have hpos : 0 ≤ textWidth text w := by linarith [le_textWidth text w]
    simp [hset, hp.setWidth_sd_frame v hpos, hsize,
      hauto { v with frame := { v.frame with width := textWidth text w } }]

/-- The width behind the edges is the one asked for, and the one that was held before is the one
that is held for the frame left. -/
theorem width_last (hp : WellPosed s) {v : LayoutView ι}
    (hasked : ∀ z, holdWidthOf rd s = some z → v.frame.width = floatValue z) :
    let width := (sizesLast s v).frame.width
    (∀ z, widthOf rd s = some z → width = z) ∧ heldWidth s width = v.frame.width ∧
      (0 < width ↔ 0 < v.frame.width) := by
  simp only [sizesLast_frame hp]
  cases hw : s.sd_maxWidth with
  | none =>
    have htext : textWidthOf s = none := by simp [textWidthOf, hw]
    have hhold : holdWidthOf rd s = setWidthOf rd s := by rw [holdWidthOf, htext, Option.or_none]
    rw [hhold] at hasked
    refine ⟨fun z hz => ?_, by simp [heldWidth, hw], by simp⟩
    rw [widthOf, htext, Option.or_none, Option.map_eq_some_iff] at hz
    obtain ⟨z, hset, rfl⟩ := hz
    exact hasked z hset
  | some w =>
    obtain ⟨text, hsize, -⟩ := hp.label_text hw
    have hset := hp.setWidthOf_eq_none rd (by rw [hw]; rfl)
    have hheld := hasked (textWidth text w) (by rw [holdWidthOf, hset, hsize, Option.none_or])
    have hpos : 0 < textWidth text w := by linarith [le_textWidth text w]
    refine ⟨fun z hz => ?_, by simp [heldWidth, hw, hsize, hheld],
      by simp [hsize, hheld, hpos, floatValue_textWidth_pos]⟩
    rw [widthOf, hset, Option.map_none, Option.none_or] at hz
    simp [hz]

/-! ## Sizes that are held on to -/

/-- The sizes a view holds on to. -/
def LayoutView.held (v : LayoutView ι) : Option ℚ × Option ℚ := (v.fixedWidth, v.fixedHeight)

/-- The setters of an axis leave them alone. -/
structure LayoutView.Axis.KeepsHeld (a : Axis ι) (s : LayoutSettings ι) : Prop where
  setNear : ∀ v e, (a.setNear v e).held = v.held
  setSize : ∀ v z, (a.setSize s v z).held = v.held
  setRefView : ∀ v ref, (a.setRefView v ref).held = v.held

@[simp]
theorem setWidth_sd_held (v : LayoutView ι) (z : ℚ) : (setWidth_sd s v z).held = v.held := by
  unfold setWidth_sd
  split_ifs <;> rfl

@[simp]
theorem setHeight_sd_held (v : LayoutView ι) (z : ℚ) : (setHeight_sd s v z).held = v.held := by
  unfold setHeight_sd
  split_ifs <;> rfl

theorem keepsHeld_horizontal (s : LayoutSettings ι) : KeepsHeld horizontal s :=
  ⟨fun _ _ => rfl, setWidth_sd_held, fun _ _ => rfl⟩

theorem keepsHeld_vertical (s : LayoutSettings ι) : KeepsHeld vertical s :=
  ⟨fun _ _ => rfl, setHeight_sd_held, fun _ _ => rfl⟩

section Held

variable {a : Axis ι} (hk : KeepsHeld a s) (v : LayoutView ι)

include hk

theorem adjust_held (z : ℚ) : (a.adjust s v z).held = v.held := by
  unfold adjust
  split_ifs
  · exact hk.setSize v z
  · rfl

theorem layoutNear_held (item : Option (MarginItem ι)) (equal equalCenter : Option (EqualItem ι))
    (center : Option ℚ) : (a.layoutNear s read item equal equalCenter center v).held = v.held := by
  unfold layoutNear
  split <;> try split_ifs
  all_goals simp [layoutBehind, setCenter, hk.setNear, hk.setRefView, adjust_held hk]

theorem layoutFar_held (item : Option (MarginItem ι)) (equal : Option (EqualItem ι)) :
    (a.layoutFar s read item equal v).held = v.held := by
  unfold layoutFar
  split <;> try split_ifs
  all_goals simp [setFar, hk.setNear, adjust_held hk]

end Held

@[simp]
theorem layoutAutoWidth_held (v : LayoutView ι) : (layoutAutoWidth s v).held = v.held := by
  unfold layoutAutoWidth
  split
  · rfl
  · rfl
  · exact setWidth_sd_held v _

@[simp]
theorem layoutAutoHeight_held (v : LayoutView ι) : (layoutAutoHeight s v).held = v.held := by
  rw [layoutAutoHeight_eq]
  exact setHeight_sd_held v _

@[simp]
theorem limitWidth_held (v : LayoutView ι) : (limitWidth s v).held = v.held := by
  unfold limitWidth
  dsimp only
  split_ifs <;> simp

@[simp]
theorem limitHeight_held (v : LayoutView ι) : (limitHeight s v).held = v.held := by
  unfold limitHeight
  dsimp only
  split_ifs <;> simp

namespace HoldsAsked

variable {v : LayoutView ι}

theorem of_held {v' : LayoutView ι} (h : v'.held = v.held) (hv : HoldsAsked s v) :
    HoldsAsked s v' where
  width h₁ h₂ h₃ h₄ := (congrArg (·.1) h).trans (hv.width h₁ h₂ h₃ h₄)
  height h₁ h₂ h₃ := (congrArg (·.2) h).trans (hv.height h₁ h₂ h₃)

/-- A width is held on to where one is asked for. -/
theorem setFixedWidth (hv : HoldsAsked s v) (z : ℚ) (hask : s.model.width = none →
    s.model.ratio_width = none → s.sd_maxWidth = none → s.autoWidthRatioValue = none → False) :
    HoldsAsked s (setFixedWidth s v z) where
  width h₁ h₂ h₃ h₄ := (hask h₁ h₂ h₃ h₄).elim
  height h₁ h₂ h₃ := (congrArg (·.2) (setWidth_sd_held v _)).trans (hv.height h₁ h₂ h₃)

theorem setFixedHeight (hv : HoldsAsked s v) (z : ℚ) (hask : s.model.height = none →
    s.model.ratio_height = none → s.autoHeightRatioValue = none → False) :
    HoldsAsked s (setFixedHeight s v z) where
  width h₁ h₂ h₃ h₄ := (congrArg (·.1) (setHeight_sd_held v _)).trans (hv.width h₁ h₂ h₃ h₄)
  height h₁ h₂ h₃ := (hask h₁ h₂ h₃).elim

theorem ite {c : Prop} [Decidable c] {v' : LayoutView ι} (h : c → HoldsAsked s v')
    (h' : HoldsAsked s v) : HoldsAsked s (if c then v' else v) := by
  split_ifs with hc
  · exact h hc
  · exact h'

theorem layoutWidth (hv : HoldsAsked s v) : HoldsAsked s (layoutWidth s read v) := by
  unfold LayoutView.layoutWidth
  split
  · rename_i h
    exact (hv.of_held (setWidth_sd_held v _)).setFixedWidth _ fun h₁ => by simp [h] at h₁
  · rename_i h
    exact (hv.of_held (setWidth_sd_held v _)).setFixedWidth _ fun _ h₂ => by simp [h] at h₂
  · exact hv

theorem layoutHeight (hv : HoldsAsked s v) : HoldsAsked s (layoutHeight s read v) := by
  unfold LayoutView.layoutHeight
  split
  · rename_i h
    exact (hv.of_held (setHeight_sd_held v _)).setFixedHeight _ fun h₁ => by simp [h] at h₁
  · rename_i h
    exact (hv.of_held (setHeight_sd_held v _)).setFixedHeight _ fun _ h₂ => by simp [h] at h₂
  · exact hv

/-- **Every layout of a view keeps it so.** -/
theorem resize (hv : HoldsAsked s v) : HoldsAsked s (resize s read v) := by
  unfold LayoutView.resize
  refine ite (fun _ => hv) ?_
  extract_lets v₁ v₂ v₃ v₄ v₅ v₆ v₇ v₈ v₉ v₁₀ v₁₁ v₁₂ v₁₃ v₁₄ v₁₅ v₁₆
  have h₂ : HoldsAsked s v₂ := ite
    (fun h => (hv.of_held (layoutAutoWidth_held v)).setFixedWidth _ fun _ _ h₃ => by simp [h₃] at h)
    hv
  have h₆ : HoldsAsked s v₆ := (h₂.layoutWidth.layoutHeight.of_held
    (layoutNear_held (keepsHeld_horizontal s) v₄ _ _ _ _)).of_held
    (layoutFar_held (keepsHeld_horizontal s) v₅ _ _)
  have h₈ : HoldsAsked s v₈ := ite
    (fun h => (h₆.of_held (layoutAutoHeight_held v₆)).setFixedHeight _ fun _ _ h₃ => by
      simp [h₃] at h) h₆
  have h₉ : HoldsAsked s v₉ := by
    subst v₉
    split
    · rename_i h
      exact h₈.setFixedWidth _ fun _ _ _ h₄ => by simp [h] at h₄
    · exact h₈
  have h₁₁ : HoldsAsked s v₁₁ := by
    have htop : HoldsAsked s v₁₀ :=
      h₉.of_held (layoutNear_held (keepsHeld_vertical s) v₉ _ _ _ _)
    have hbottom : HoldsAsked s
        (vertical.layoutFar s read s.model.bottom s.model.equalBottom v₁₀) :=
      htop.of_held (layoutFar_held (keepsHeld_vertical s) v₁₀ _ _)
    exact ite (fun _ => hbottom.of_held (layoutFar_held (keepsHeld_horizontal s) _ _ _)) hbottom
  have h₁₃ : HoldsAsked s v₁₃ :=
    (ite (fun _ => h₁₁.of_held (layoutAutoWidth_held v₁₁)) h₁₁).of_held (limitWidth_held v₁₂)
  have h₁₅ : HoldsAsked s v₁₅ :=
    (ite (fun _ => h₁₃.of_held (layoutAutoHeight_held v₁₃)) h₁₃).of_held (limitHeight_held v₁₄)
  have h₁₆ : HoldsAsked s v₁₆ := ite (fun _ => h₁₅.of_held (setWidth_sd_held v₁₅ _)) h₁₅
  exact ite (fun _ => h₁₆.of_held (setHeight_sd_held v₁₆ _)) h₁₆

end HoldsAsked

/-! ## All edges -/

theorem Reads.margin (hr : Reads s read rd) {item : Option (MarginItem ι)}
    (hmem : item ∈ s.model.marginItems) :
    ∀ i, item = some i → ∀ w, ∀ ref ∈ i.ref.refViews, read w ref = rd ref := by
  rintro i rfl w ref href
  exact hr w ref (Or.inl (Or.inl ⟨i, hmem, href⟩))

theorem Reads.equal (hr : Reads s read rd) {item : Option (EqualItem ι)}
    (hmem : item ∈ s.model.equalItems) :
    ∀ i, item = some i → ∀ w, read w i.refView = rd i.refView := by
  rintro i rfl w
  exact hr w _ (Or.inl (Or.inr (Or.inl ⟨i, hmem, rfl⟩)))

theorem nearEdge_isSome (rd : RefView ι → Rect ℚ) (a : Axis ι) (item : Option (MarginItem ι))
    (equal : Option (EqualItem ι)) :
    (nearEdge a rd item equal).isSome = (item.isSome || equal.isSome) := by
  simp [nearEdge]

theorem farEdge_isSome (a : Axis ι) (item : Option (MarginItem ι))
    (equal : Option (EqualItem ι)) :
    (farEdge a rd item equal).isSome = (item.isSome || equal.isSome) := by
  simp [farEdge]

theorem centerAt_isSome (a : Axis ι) (item : Option (MarginItem ι))
    (equal equalCenter : Option (EqualItem ι)) (center : Option ℚ) :
    (centerAt a rd item equal equalCenter center).isSome =
      (!(item.isSome || equal.isSome) && (equalCenter.isSome || center.isSome)) := by
  rw [← nearEdge_isSome rd a]
  unfold centerAt
  cases (nearEdge a rd item equal).isSome <;> simp

theorem WellPosed.widthOf_isSome (hp : WellPosed s) :
    (widthOf rd s).isSome =
      (s.model.width.isSome || s.model.ratio_width.isSome || s.sd_maxWidth.isSome) := by
  cases hw : s.sd_maxWidth with
  | none => simp [widthOf, setWidthOf, textWidthOf, hw]
  | some w =>
    obtain ⟨text, hsize, -⟩ := hp.label_text hw
    simp [widthOf, hsize]

theorem WellPosed.fixesX (hp : WellPosed s) :
    FixesAxis (asksX rd s).near.isSome (asksX rd s).far.isSome (asksX rd s).center.isSome
      (widthOf rd s).isSome := by
  have := hp.axisX
  rwa [hp.widthOf_isSome, asksX, nearEdge_isSome, farEdge_isSome, centerAt_isSome]

theorem WellPosed.fixesY (hp : WellPosed s) (rd : RefView ι → Rect ℚ) :
    FixesAxis (asksY rd s).near.isSome (asksY rd s).far.isSome (asksY rd s).center.isSome
      ((heightOf rd s).isSome || s.autoHeightRatioValue.isSome) := by
  have := hp.axisY
  rw [asksY, nearEdge_isSome, farEdge_isSome, centerAt_isSome]
  simpa [heightOf, setHeightOf] using this

/-- **The edges of one axis**, near and then far. -/
theorem layoutAxis_spec {a b : Axis ι} (hl : Lawful a b s) (hr : Reads s read rd)
    {item item' : Option (MarginItem ι)} {equal equal' equalCenter : Option (EqualItem ι)}
    {center : Option ℚ} {size : Bool} (hitem : item ∈ s.model.marginItems)
    (hitem' : item' ∈ s.model.marginItems) (hequal : equal ∈ s.model.equalItems)
    (hequal' : equal' ∈ s.model.equalItems) (hcenter : equalCenter ∈ s.model.equalItems)
    (hd : ∀ refs value, item = some ⟨.viewsArray refs, value⟩ →
      ∃ r ∈ refs, 0 < a.far (rd (.sibling r)))
    (hfix : FixesAxis (nearEdge a rd item equal).isSome (farEdge a rd item' equal').isSome
      (centerAt a rd item equal equalCenter center).isSome size)
    (hext : ∀ e e', nearEdge a rd item equal = some e → farEdge a rd item' equal' = some e' →
      e ≤ e') (v : LayoutView ι) (hfree : size = false → a.fixed v = none) :
    let v' := a.layoutFar s read item' equal' (a.layoutNear s read item equal equalCenter center v)
    (Asks.mk (nearEdge a rd item equal) (farEdge a rd item' equal')
      (centerAt a rd item equal equalCenter center) none).Met (a.near v'.frame) (a.size v'.frame)
      (a.size v'.frame) ∧
    ((a.fixed v).isSome = true → a.size v'.frame = a.size v.frame) ∧ a.fixed v' = a.fixed v ∧
    b.state v' = b.state v := by
  obtain ⟨hnear, hfixed, hb⟩ := layoutNear_placed hl v center (hr.margin hitem)
    (hr.equal hequal) (hr.equal hcenter) hd
  obtain ⟨hfar, hfixed', hb'⟩ := layoutFar_placed hl
    (a.layoutNear s read item equal equalCenter center v) (hr.margin hitem') (hr.equal hequal')
    fun w => hr w .none (Or.inr rfl)
  rw [hfixed] at hfar
  obtain ⟨hmet, hsize⟩ := axis_placed hfix (fun h => by rw [hfree h]; rfl) hext hnear hfar
  exact ⟨hmet, hsize, hfixed'.trans hfixed, hb'.trans hb⟩

theorem layoutX_spec (hp : WellPosed s) (hr : Reads s read rd) (hd : Definite rd s)
    (v : LayoutView ι) (hfree : (widthOf rd s).isSome = false → v.fixedWidth = none) :
    let v' := layoutRight s read (layoutLeft s read v)
    ({ asksX rd s with size := none } : Asks).Met v'.frame.x v'.frame.width
      v'.frame.width ∧
    (v.fixedWidth.isSome = true → v'.frame.width = v.frame.width) ∧
    v'.fixedWidth = v.fixedWidth ∧ vertical.state v' = vertical.state v :=
  layoutAxis_spec hp.lawful_horizontal hr (by simp [SDAutoLayoutModel.marginItems])
    (by simp [SDAutoLayoutModel.marginItems]) (by simp [SDAutoLayoutModel.equalItems])
    (by simp [SDAutoLayoutModel.equalItems]) (by simp [SDAutoLayoutModel.equalItems])
    hd.left hp.fixesX hd.horizontal v hfree

theorem layoutY_spec (hp : WellPosed s) (hr : Reads s read rd) (hd : Definite rd s)
    (v : LayoutView ι)
    (hfree : ((heightOf rd s).isSome || s.autoHeightRatioValue.isSome) = false →
      v.fixedHeight = none) :
    let v' := vertical.layoutFar s read s.model.bottom s.model.equalBottom (layoutTop s read v)
    ({ asksY rd s with size := none } : Asks).Met v'.frame.y v'.frame.height
      v'.frame.height ∧
    (v.fixedHeight.isSome = true → v'.frame.height = v.frame.height) ∧
    v'.fixedHeight = v.fixedHeight ∧ horizontal.state v' = horizontal.state v :=
  layoutAxis_spec hp.lawful_vertical hr (by simp [SDAutoLayoutModel.marginItems])
    (by simp [SDAutoLayoutModel.marginItems]) (by simp [SDAutoLayoutModel.equalItems])
    (by simp [SDAutoLayoutModel.equalItems]) (by simp [SDAutoLayoutModel.equalItems])
    hd.top (hp.fixesY rd) hd.vertical v hfree

/-- The sizes after the first two steps. -/
theorem sized {v v₁ v₂ : LayoutView ι} {width height : Option ℚ}
    (h₁ : v₁ = (width.map fun z =>
      { v with
        frame := { v.frame with width := floatValue z }
        fixedWidth := some z }).getD v)
    (h₂ : v₂ = (height.map fun z =>
      { v₁ with
        frame := { v₁.frame with height := floatValue z }
        fixedHeight := some z }).getD v₁) :
    (∀ z, width = some z → v₂.frame.width = floatValue z ∧ v₂.fixedWidth = some z) ∧
    (width = none → v₂.fixedWidth = v.fixedWidth) ∧
    (∀ z, height = some z → v₂.frame.height = floatValue z ∧ v₂.fixedHeight = some z) ∧
    (height = none → v₂.fixedHeight = v.fixedHeight) := by
  subst h₁ h₂
  cases width <;> cases height <;> simp

/-- **A view is laid out as its settings ask**, whatever it looked like before. -/
theorem resize_satisfies (hp : WellPosed s) (hr : Reads s read rd) (hd : Definite rd s)
    {v : LayoutView ι} (hv : HoldsAsked s v) :
    Satisfies rd s (resize s read v).frame := by
  rw [hp.resize_eq]
  obtain ⟨hw, hw', hh, hh'⟩ := sized (layoutWidth_spec hp hr hd.width v)
    (layoutHeight_spec hp hr hd.height (layoutWidth s read (widthFirst s v)))
  set v₂ := layoutHeight s read (layoutWidth s read (widthFirst s v))
  have hhold : holdWidthOf rd s = none ↔ widthOf rd s = none := by
    simp [holdWidthOf, widthOf]
  have hfreeX : (widthOf rd s).isSome = false → v₂.fixedWidth = none := fun h => by
    have hnone := Option.isNone_iff_eq_none.1 (Option.isSome_eq_false_iff.1 h)
    rw [hp.widthOf_isSome] at h
    simp only [Bool.or_eq_false_iff, Option.isSome_eq_false_iff, Option.isNone_iff_eq_none] at h
    rw [hw' (hhold.2 hnone), hv.width h.1.1 h.1.2 h.2 hp.autoWidthRatio]
  obtain ⟨hmetX, hsizeX, -, hY⟩ := layoutX_spec hp hr hd v₂ hfreeX
  set v₄ := layoutRight s read (layoutLeft s read v₂)
  have h₅ := heightFirst_spec hp v₄
  set v₅ := heightFirst s v₄
  have hX₅ : horizontal.state v₅ = horizontal.state v₄ := by
    rw [h₅]
    split_ifs <;> rfl
  have hauto₅ : s.autoHeightRatioValue.isSome = true → 0 < v₄.frame.width →
      v₅.frame.height = floatValue (autoHeightOf s v₄.frame.width) ∧
        v₅.fixedHeight.isSome = true := by
    intro ha hpos
    rw [h₅, if_pos ⟨ha, hpos⟩]
    exact ⟨rfl, rfl⟩
  have hrest₅ : s.autoHeightRatioValue = none → v₅ = v₄ := by
    intro ha
    rw [h₅, if_neg (by simp [ha])]
  have hfreeY : ((heightOf rd s).isSome || s.autoHeightRatioValue.isSome) = false →
      v₅.fixedHeight = none := by
    intro h
    simp only [Bool.or_eq_false_iff, Option.isSome_eq_false_iff, Option.isNone_iff_eq_none] at h
    have hasked : s.model.height = none ∧ s.model.ratio_height = none := by
      simpa [heightOf, setHeightOf] using h.1
    rw [hrest₅ h.2, show v₄.fixedHeight = v₂.fixedHeight from congrArg (·.2.2) hY,
      hh' (by simpa [heightOf] using h.1), hv.height hasked.1 hasked.2 h.2]
  obtain ⟨hmetY, hsizeY, -, hX⟩ := layoutY_spec hp hr hd v₅ hfreeY
  set v₇ := vertical.layoutFar s read s.model.bottom s.model.equalBottom (layoutTop s read v₅)
  have hX₇ : horizontal.state v₇ = horizontal.state v₄ := hX.trans hX₅
  have hx : v₇.frame.x = v₄.frame.x := congrArg (·.1) hX₇
  have hwidth : v₇.frame.width = v₄.frame.width := congrArg (·.2.1) hX₇
  have hasked : ∀ z, holdWidthOf rd s = some z → v₇.frame.width = floatValue z := fun z hz => by
    obtain ⟨h, hfix⟩ := hw z hz
    rw [hwidth, hsizeX (by rw [hfix]; rfl), h]
  obtain ⟨hsize, hheld, hpos⟩ := width_last hp hasked
  obtain ⟨hfx, hfy, -, hfh⟩ := sizesLast_frame hp v₇
  set f := (sizesLast s v₇).frame
  have hheldY : heldHeight s f = v₇.frame.height := by
    unfold heldHeight
    split_ifs with hauto
    · obtain ⟨h, hfix⟩ := hauto₅ hauto.1 (hwidth ▸ hpos.1 hauto.2)
      rw [hheld, hwidth, hsizeY hfix, h]
    · rw [hfh, if_neg hauto]
  rw [← hwidth] at hmetX
  refine ⟨⟨?_, ?_, ?_, hsize⟩, ⟨?_, ?_, ?_, fun z hz => ?_⟩, fun ha h => ?_⟩
  · rw [hfx, hx]
    exact hmetX.near
  · rw [hfx, hx, hheld]
    exact hmetX.far
  · rw [hfx, hx, hheld]
    exact hmetX.center
  · rw [hfy]
    exact hmetY.near
  · rw [hfy, hheldY]
    exact hmetY.far
  · rw [hfy, hheldY]
    exact hmetY.center
  · -- a height that is asked for does not follow from the width
    have ha : s.autoHeightRatioValue = none := by
      by_contra hne
      obtain ⟨h₁, h₂⟩ := hp.autoHeight (Option.isSome_iff_ne_none.2 hne)
      simp [asksY, heightOf, setHeightOf, h₁, h₂] at hz
    obtain ⟨z, hset, rfl⟩ := Option.map_eq_some_iff.1 hz
    obtain ⟨h, hfix⟩ := hh z hset
    have hv₅ : v₅.frame.height = v₂.frame.height ∧ v₅.fixedHeight = v₂.fixedHeight := by
      rw [hrest₅ ha]
      exact ⟨congrArg (·.2.1) hY, congrArg (·.2.2) hY⟩
    rw [hfh, if_neg (by simp [ha]), hsizeY (by rw [hv₅.2, hfix]; rfl), hv₅.1, h]
  · rw [hfh, if_pos ⟨ha, h⟩]

end RCSdk
