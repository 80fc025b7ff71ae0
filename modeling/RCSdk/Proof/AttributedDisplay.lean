import RCSdk.Proof.AttributedLinks

/-!
# What an attributed label shows

* `run_raises_iff`: a run ends in an exception exactly when the label draws or measures its text
  while a range the program gave wraps around 64 bits into the text.
* `shown_current` (every run that sets the plain properties before it lays out): unless a redraw is
  pending, the screen shows what drawing again would show.
* `click_opens_shown`: what a click opens was given by the program, or is the text that was laid out
  under the finger.
-/

namespace RCSdk

open TextEdits Regions Trans NSAttributedString M80Event

/-! ## The string that is drawn -/

/-- A unit and the attachment it stands for, which no drawing changes. -/
def glyph (u : AttributedUnit) : unichar × Option ℕ := (u.unit, u.attributes.runDelegate)

/-- The range wraps around 64 bits into a text of `n` units. -/
def Wraps (r : NSRange) (n : ℕ) : Prop := NSMaxRange r ≤ n ∧ ¬ r.Valid n

theorem Fits.not_wraps {r : NSRange} (h : Fits r) (n : ℕ) : ¬ Wraps r n := by
  intro hw
  have hmax : r.location + r.length ≤ n := h.max_eq ▸ hw.1
  exact hw.2 hmax

theorem change_glyphs {f : TextAttributes → TextAttributes} {r : NSRange}
    {s t : NSAttributedString} (hf : ∀ a, (f a).runDelegate = a.runDelegate)
    (h : s.change f r = some t) : t.map glyph = s.map glyph := by
  rw [change] at h
  split at h
  · simp only [Option.some.injEq] at h
    subst h
    apply List.ext_getElem (by simp)
    intro i h₁ h₂
    simp only [List.getElem_map, List.getElem_mapIdx]
    split
    · simp [glyph, hf]
    · rfl
  · exact absurd h (by simp)

theorem change_isSome_iff (f : TextAttributes → TextAttributes) (r : NSRange)
    (s : NSAttributedString) : (s.change f r).isSome ↔ r.Valid s.length := by
  rw [change]
  split <;> simp [*]

theorem setTextColorRange_glyphs {color : Option UIColor} {r : NSRange} {s t : NSAttributedString}
    (h : s.setTextColorRange color r = some t) : t.map glyph = s.map glyph := by
  cases color with
  | none =>
    simp only [setTextColorRange, Option.some.injEq] at h
    rw [h]
  | some color =>
    rw [setTextColorRange] at h
    exact change_glyphs (by intro a; rfl) h

/-- A colour raises only beyond the end. -/
theorem not_valid_of_setTextColorRange {color : Option UIColor} {r : NSRange}
    {s : NSAttributedString} (h : s.setTextColorRange color r = none) : ¬ r.Valid s.length := by
  cases color with
  | none => exact absurd h (by simp [setTextColorRange])
  | some color =>
    intro hv
    have hsome := (change_isSome_iff ({ · with foregroundColor := some color }) r s).2 hv
    rw [setTextColorRange] at h
    rw [h] at hsome
    exact absurd hsome (by simp)

namespace M80AttributedLabel

variable {label : M80AttributedLabel} {str str' : NSAttributedString}
  {url : M80AttributedLabelURL}

theorem drawLink_glyphs (h : label.drawLink str url = some str') :
    str'.map glyph = str.map glyph := by
  rw [drawLink] at h
  split at h
  · simp only [Option.some.injEq] at h
    rw [h]
  · simp only [Option.bind_eq_bind, Option.bind_eq_some_iff] at h
    obtain ⟨colored, hc, hu⟩ := h
    rw [setUnderlineStyle] at hu
    have hunder : str'.map glyph = colored.map glyph := change_glyphs (by intro a; rfl) hu
    rw [hunder, setTextColorRange_glyphs hc]

theorem drawLink_isSome_iff (hlen : str.length = label.attributedString.length) :
    (label.drawLink str url).isSome ↔ ¬ Wraps url.range label.attributedString.length := by
  rw [drawLink]
  split
  · rename_i hgt
    simp only [Option.isSome_some, Wraps, true_iff, not_and]
    intro hle
    omega
  · rename_i hle
    have hle : NSMaxRange url.range ≤ label.attributedString.length := by omega
    simp only [Wraps, hle, true_and, not_not]
    cases hc : str.setTextColorRange (url.color <|> label.linkColor) url.range with
    | none =>
      have hbad := not_valid_of_setTextColorRange hc
      rw [hlen] at hbad
      simp [hbad]
    | some colored =>
      have hlen' : colored.length = label.attributedString.length := by
        have := congrArg List.length (setTextColorRange_glyphs hc)
        simpa [hlen] using this
      simp only [Option.bind_eq_bind, Option.bind_some, setUnderlineStyle]
      rw [change_isSome_iff, hlen']

/-- The links drawn one after the other leave the units as they are. -/
theorem foldlM_glyphs (links : List M80AttributedLabelURL)
    (h : links.foldlM label.drawLink str = some str') : str'.map glyph = str.map glyph := by
  induction links generalizing str with
  | nil =>
    simp only [List.foldlM_nil, Option.pure_def, Option.some.injEq] at h
    rw [h]
  | cons link links ih =>
    simp only [List.foldlM_cons, Option.bind_eq_bind, Option.bind_eq_some_iff] at h
    obtain ⟨mid, hmid, h⟩ := h
    rw [ih h, drawLink_glyphs hmid]

theorem foldlM_isSome_iff (links : List M80AttributedLabelURL)
    (hlen : str.length = label.attributedString.length) :
    (links.foldlM label.drawLink str).isSome ↔
      ∀ u ∈ links, ¬ Wraps u.range label.attributedString.length := by
  induction links generalizing str with
  | nil => simp
  | cons link links ih =>
    rw [List.foldlM_cons, List.forall_mem_cons, ← drawLink_isSome_iff hlen]
    cases hmid : label.drawLink str link with
    | none => simp
    | some mid =>
      have hlen' : mid.length = label.attributedString.length := by
        have := congrArg List.length (drawLink_glyphs hmid)
        simpa [hlen] using this
      simpa using ih hlen'

theorem attributedStringForDraw_glyphs (h : label.attributedStringForDraw = some str) :
    str.map glyph = label.attributedString.map glyph :=
  foldlM_glyphs _ h

/-- **Drawing raises** exactly when a link wraps around into the text. -/
theorem attributedStringForDraw_isSome_iff :
    label.attributedStringForDraw.isSome ↔
      ∀ u ∈ label._linkLocations, ¬ Wraps u.range label.text.length := by
  have hlen : label.text.length = label.attributedString.length := length_string _
  rw [hlen]
  exact foldlM_isSome_iff _ rfl

/-- What drawing would lay out. -/
def layout (label : M80AttributedLabel) : Option CTFrame :=
  label.attributedStringForDraw.map fun str => ⟨str, label.paragraphStyle, label.bounds⟩

/-- The same string, frame and layout, and nothing detected is forgotten. -/
structure SameLayout (label label' : M80AttributedLabel) : Prop where
  units : label'.attributedString = label.attributedString
  frame : label'._textFrame = label._textFrame
  layout : label'.layout = label.layout
  redraw : label'.ignoreRedraw = label.ignoreRedraw
  detected : label.linkDetected = true → label'.linkDetected = true

theorem SameLayout.refl (label : M80AttributedLabel) : SameLayout label label :=
  ⟨rfl, rfl, rfl, rfl, id⟩

end M80AttributedLabel

namespace M80Screen

open M80AttributedLabel

variable {d : LinkDetection} {s t : M80Screen} {e : M80Event}

/-- What a step does to what is laid out and shown. -/
inductive DisplayStep (s t : M80Screen) (e : M80Event) : Prop
  | reset (hf : t.label._textFrame = none) (hn : t.label.needsDisplay = true)
      (hr : t.label.ignoreRedraw = false)
  | restyled (style : M80LabelStyle) (he : e = .setStyle style)
      (ht : t = { s with label := { s.label with style } })
  | marked (hl : SameLayout s.label t.label) (hn : t.label.needsDisplay = true)
  | idle (hl : SameLayout s.label t.label) (hd : t.label.draw = s.label.draw)
      (hn : t.label.needsDisplay = s.label.needsDisplay) (hs : t.shown = s.shown)
  | drawn (f : CTFrame) (he : e = .drawRect) (hf : t.label._textFrame = some f)
      (hs : t.shown = some (t.label.draw f))
      (hu : t.label.attributedString = s.label.attributedString)
      (hnew : t.label.layout = some f ∨
        s.label._textFrame = some f ∧ t.label.layout = s.label.layout)
      (hr : t.label.ignoreRedraw = false)

theorem touchesCancelled_display (s : M80Screen) : DisplayStep s s.touchesCancelled e := by
  rw [touchesCancelled]
  split
  · exact .marked ⟨rfl, rfl, rfl, rfl, id⟩ rfl
  · exact .idle (.refl _) rfl rfl rfl

theorem touchesMoved_display (s : M80Screen) (indices : List ℕ) :
    DisplayStep s (s.touchesMoved indices) e := by
  rw [touchesMoved]
  split
  · exact .marked ⟨rfl, rfl, rfl, rfl, id⟩ rfl
  · exact .idle (.refl _) rfl rfl rfl

theorem touchesBegan_display (s : M80Screen) (indices : List ℕ) :
    DisplayStep s (s.touchesBegan indices) e := by
  rw [touchesBegan]
  split
  · exact .marked ⟨rfl, rfl, rfl, rfl, id⟩ rfl
  · rename_i hnone
    have hlabel : s.label.touchedLink = none := by
      cases h : s.label.touchedLink with
      | none => rfl
      | some link => simp [h] at hnone
    have hurl : s.label.urlForPoint indices = none := by
      simpa [hlabel] using hnone
    refine .idle ⟨rfl, rfl, rfl, rfl, id⟩ ?_ rfl rfl
    funext f
    simp [draw, hlabel, hurl]

theorem mainQueue_display (s : M80Screen) (hr : s.label.ignoreRedraw = false) :
    DisplayStep s s.runMainQueue e := by
  rw [runMainQueue]
  split
  · exact .idle (.refl _) rfl rfl rfl
  · rename_i text links queue hq
    by_cases ht : s.label.text = text
    · simp only [if_pos ht, linkBlock_eq]
      by_cases hlinks : links = []
      · subst hlinks
        refine .idle ⟨rfl, rfl, rfl, rfl, fun _ => rfl⟩ rfl ?_ rfl
        simp
      · refine .reset ?_ ?_ hr
        · simp [hlinks]
        · simp [hlinks, hr]
    · simp only [if_neg ht]
      exact .idle (.refl _) rfl rfl rfl

/-- What drawing does before it draws: it lays nothing out, and throws a frame away when it finds
links. -/
theorem recompute_display (d : LinkDetection) (hr : s.label.ignoreRedraw = false) (u : M80Screen)
    (hu : u = { s with label := { s.label with needsDisplay := false } }.recomputeLinksIfNeeded d) :
    u.label.ignoreRedraw = false ∧ u.label.attributedString = s.label.attributedString ∧
      (u.label._textFrame = none ∨
        u.label._textFrame = s.label._textFrame ∧ u.label.layout = s.label.layout) := by
  rcases recompute_cases d { s with label := { s.label with needsDisplay := false } } with
    ⟨heq, -⟩ | ⟨-, sync, heq⟩
  · rw [heq] at hu
    subst hu
    exact ⟨hr, rfl, Or.inr ⟨rfl, rfl⟩⟩
  · rw [heq] at hu
    cases sync with
    | false =>
      subst hu
      exact ⟨hr, rfl, Or.inr ⟨rfl, rfl⟩⟩
    | true =>
      rw [computeLink, if_pos rfl, linkBlock_eq] at hu
      subst hu
      refine ⟨rfl, rfl, ?_⟩
      generalize d.detectLinks _ = links
      by_cases hlinks : links = []
      · subst hlinks
        exact Or.inr ⟨by simp, rfl⟩
      · exact Or.inl (by simp [hlinks])

theorem drawRect_display (hr : s.label.ignoreRedraw = false) (h : s.drawRect d = some t) :
    DisplayStep s t .drawRect := by
  obtain ⟨u, str, hu, hstr, rfl⟩ := drawRect_eq_some h
  obtain ⟨hru, hunits, hframe⟩ := recompute_display d hr u hu
  have hlayout : u.label.layout = some ⟨str, u.label.paragraphStyle, u.label.bounds⟩ := by
    rw [layout, hstr, Option.map_some]
  cases hf : u.label._textFrame with
  | none =>
    have hprep : u.label.prepareTextFrame str = { u.label with
        _textFrame := some ⟨str, u.label.paragraphStyle, u.label.bounds⟩ } := by
      rw [prepareTextFrame, hf]
      rfl
    rw [hprep]
    exact .drawn _ rfl rfl rfl hunits (Or.inl hlayout) hru
  | some f =>
    have hprep : u.label.prepareTextFrame str = u.label := by
      rw [prepareTextFrame, hf]
      rfl
    rw [hprep]
    rcases hframe with hnone | ⟨hsame, hlay⟩
    · rw [hf] at hnone
      exact absurd hnone (by simp)
    · refine .drawn f rfl hf ?_ hunits (Or.inr ⟨hsame ▸ hf, hlay⟩) hru
      rw [hf, Option.map_some]

/-- **What a step does to what is laid out and shown.** -/
theorem step_display (hr : s.label.ignoreRedraw = false) (h : step d s e = some t) :
    DisplayStep s t e := by
  cases e <;> simp only [step, Option.some.injEq] at h
  case setFont font =>
    subst h
    cases font with
    | none => exact .idle (.refl _) rfl rfl rfl
    | some font =>
      rw [M80AttributedLabel.setFont]
      split
      · exact .reset rfl (by simp [resetTextFrame, resetFont, hr]) hr
      · exact .idle (.refl _) rfl rfl rfl
  case setTextColor color =>
    subst h
    cases color with
    | none => exact .idle (.refl _) rfl rfl rfl
    | some color =>
      rw [M80AttributedLabel.setTextColor]
      split
      · exact .reset rfl (by simp [resetTextFrame, hr]) hr
      · exact .idle (.refl _) rfl rfl rfl
  case setHighlightColor color =>
    subst h
    cases color with
    | none => exact .idle (.refl _) rfl rfl rfl
    | some color =>
      rw [M80AttributedLabel.setHighlightColor]
      split
      · exact .reset rfl (by simp [resetTextFrame, hr]) hr
      · exact .idle (.refl _) rfl rfl rfl
  case setLinkColor color =>
    subst h
    rw [M80AttributedLabel.setLinkColor]
    split
    · exact .reset rfl (by simp [resetTextFrame, hr]) hr
    · exact .idle (.refl _) rfl rfl rfl
  case setBounds bounds =>
    subst h
    rw [M80AttributedLabel.setBounds]
    split
    · exact .reset rfl (by simp [resetTextFrame, hr]) hr
    · exact .idle (.refl _) rfl rfl rfl
  case setAutoDetectLinks => subst h; exact .idle ⟨rfl, rfl, rfl, rfl, id⟩ rfl rfl rfl
  case setStyle style => exact .restyled style rfl h.symm
  case setNeedsDisplay => subst h; exact .marked ⟨rfl, rfl, rfl, rfl, id⟩ rfl
  case sizeThatFits =>
    rw [Option.map_eq_some_iff] at h
    obtain ⟨-, -, rfl⟩ := h
    exact .idle (.refl _) rfl rfl rfl
  case drawRect => exact drawRect_display hr h
  case mainQueue => subst h; exact mainQueue_display s hr
  case touchesBegan indices => subst h; exact touchesBegan_display s indices
  case touchesMoved indices => subst h; exact touchesMoved_display s indices
  case touchesCancelled => subst h; exact touchesCancelled_display s
  case touchesEnded indices =>
    subst h
    rw [M80Screen.touchesEnded, M80Screen.touchesCancelled]
    split
    · exact .marked ⟨rfl, rfl, rfl, rfl, id⟩ rfl
    · exact .idle (.refl _) rfl rfl rfl
  -- what is left changes the text or the links
  all_goals
    subst h
    refine .reset rfl ?_ ?_
    · simp [hr, M80AttributedLabel.setText, M80AttributedLabel.setAttributedText, cleanAll,
        M80AttributedLabel.appendText, M80AttributedLabel.appendAttributedText,
        M80AttributedLabel.appendImage, M80AttributedLabel.appendView, appendContent,
        appendAttachment, M80AttributedLabel.addCustomLink, M80AttributedLabel.addCustomLinkColor,
        resetTextFrame]
    · first | rfl | exact hr

/-! ## Exceptions -/

variable {ps : List (Option LinkData × NSRange)} {font : UIFont} {bounds : Grids.Rect ℚ}

/-- Only a range of the program makes drawing raise: found links do not wrap. -/
theorem LinksOK.draw_eq_none_iff (h : LinksOK d ps s) :
    s.label.attributedStringForDraw = none ↔ ∃ p ∈ ps, Wraps p.2 s.label.text.length := by
  rw [← Option.not_isSome_iff_eq_none, attributedStringForDraw_isSome_iff]
  push Not
  constructor
  · rintro ⟨u, hu, hw⟩
    rcases h.links u hu with hp | ⟨hshows, -⟩
    · exact ⟨_, hp, hw⟩
    · exact absurd hw (hshows.fits.not_wraps _)
  · rintro ⟨p, hp, hw⟩
    obtain ⟨u, hu, rfl⟩ := h.given p hp
    exact ⟨u, hu, hw⟩

theorem drawRect_eq_none_iff :
    s.drawRect d = none ↔
      ({ s with label := { s.label with needsDisplay := false } }.recomputeLinksIfNeeded
        d).label.attributedStringForDraw = none := by
  rw [drawRect]
  generalize recomputeLinksIfNeeded d _ = u
  cases u.label.attributedStringForDraw <;> simp

theorem LinksOK.step_eq_none_iff (hd : d.Sound) (h : LinksOK d ps s) :
    step d s e = none ↔
      (e = .drawRect ∨ e = .sizeThatFits) ∧ ∃ p ∈ ps, Wraps p.2 s.label.text.length := by
  cases e
  case drawRect =>
    obtain ⟨hlinks, hqueue⟩ := linkStep_recompute (d := d) (s := s) rfl
    have hu := h.linkStep hd hlinks hqueue
    have htext := hlinks.text_eq trivial
    have hps : programLink ps .drawRect = ps := rfl
    rw [hps] at hu
    rw [← htext, ← hu.draw_eq_none_iff, ← drawRect_eq_none_iff]
    simp [step]
  case sizeThatFits =>
    rw [← h.draw_eq_none_iff]
    simp [step]
  all_goals simp [step]

/-- **When a run ends in an exception**: exactly when the label draws or measures its text while a
range the program gave wraps around 64 bits into the text. A range beyond the end of the text does
no harm, and the links the label finds never raise. -/
theorem run_raises_iff (hd : d.Sound) (es : List M80Event) :
    exec (step d) (init font bounds) es = none ↔
      ∃ es₁ e es₂ s, es = es₁ ++ e :: es₂ ∧ exec (step d) (init font bounds) es₁ = some s ∧
        (e = .drawRect ∨ e = .sizeThatFits) ∧
        ∃ p ∈ programLinks es₁, Wraps p.2 s.label.text.length := by
  rw [exec_eq_none_iff]
  constructor
  · rintro ⟨es₁, e, es₂, s, rfl, hs, hnone⟩
    exact ⟨es₁, e, es₂, s, rfl, hs, ((linksOK_of_exec hd hs).step_eq_none_iff hd).1 hnone⟩
  · rintro ⟨es₁, e, es₂, s, rfl, hs, hraise⟩
    exact ⟨es₁, e, es₂, s, rfl, hs, ((linksOK_of_exec hd hs).step_eq_none_iff hd).2 hraise⟩

/-- A range that ends beyond 64 bits, at the begin of the text. -/
theorem run_raises_www :
    exec (step wwwDetection) (init labelFont labelBounds)
      [.setText wwwText, .addCustomLink none ⟨2 ^ 64 - 1, 1⟩, .drawRect] = none := by
  refine (run_raises_iff wwwDetection_sound _).2
    ⟨[.setText wwwText, .addCustomLink none ⟨2 ^ 64 - 1, 1⟩], .drawRect, [], _, rfl, rfl,
      Or.inl rfl, (none, ⟨2 ^ 64 - 1, 1⟩), List.mem_cons_self, ?_⟩
  exact ⟨by decide, by decide⟩

/-! ## The frame and the screen -/

theorem layout_glyphs {label : M80AttributedLabel} {f : CTFrame} (h : label.layout = some f) :
    f.string.map glyph = label.attributedString.map glyph := by
  rw [layout, Option.map_eq_some_iff] at h
  obtain ⟨str, hstr, rfl⟩ := h
  exact attributedStringForDraw_glyphs hstr

/-- A frame is of the text the label has. -/
structure FrameOK (s : M80Screen) : Prop where
  redraw : s.label.ignoreRedraw = false
  glyphs : ∀ f, s.label._textFrame = some f →
    f.string.map glyph = s.label.attributedString.map glyph

theorem frameOK_init (font : UIFont) (bounds : Grids.Rect ℚ) : FrameOK (init font bounds) where
  redraw := rfl
  glyphs := fun _ h => absurd h (by simp [init, commonInit])

theorem FrameOK.step (h : FrameOK s) (he : M80Screen.step d s e = some t) : FrameOK t := by
  cases step_display h.redraw he with
  | reset hf hn hr => exact ⟨hr, fun f hs => absurd (hf.symm.trans hs) (by simp)⟩
  | restyled style hstyle ht => exact ht ▸ ⟨h.redraw, h.glyphs⟩
  | marked hl hn =>
    refine ⟨hl.redraw.trans h.redraw, ?_⟩
    rw [hl.frame, hl.units]
    exact h.glyphs
  | idle hl hd hn hs =>
    refine ⟨hl.redraw.trans h.redraw, ?_⟩
    rw [hl.frame, hl.units]
    exact h.glyphs
  | drawn f hdraw hf hs hu hnew hr =>
    refine ⟨hr, fun f' hf' => ?_⟩
    have hff : f' = f := Option.some.inj (hf'.symm.trans hf)
    rcases hnew with hnew | ⟨hold, -⟩
    · rw [hff]
      exact layout_glyphs hnew
    · rw [hff, hu]
      exact h.glyphs f hold

theorem frameOK_of_exec {es : List M80Event}
    (he : exec (M80Screen.step d) (init font bounds) es = some t) : FrameOK t :=
  (run_of_exec es he).invariant (frameOK_init font bounds) fun _ _ _ h => h.step

/-- The frame is what would be laid out, and unless a redraw is pending it is on the screen. -/
structure Coherent (s : M80Screen) : Prop where
  redraw : s.label.ignoreRedraw = false
  frame : ∀ f, s.label._textFrame = some f → s.label.layout = some f
  shown : s.label.needsDisplay = false →
    ∃ f, s.label._textFrame = some f ∧ s.shown = some (s.label.draw f)

theorem coherent_init (font : UIFont) (bounds : Grids.Rect ℚ) : Coherent (init font bounds) where
  redraw := rfl
  frame := fun _ h => absurd h (by simp [init, commonInit])
  shown := fun h => absurd h (by simp [init, commonInit])

/-- The plain properties are set only while nothing is laid out: nothing lays out again after it. -/
def StyledUnlaid (s : M80Screen) (e : M80Event) : Prop :=
  ∀ style, e = .setStyle style → s.label._textFrame = none

theorem Coherent.step (h : Coherent s) (hstyled : StyledUnlaid s e)
    (he : M80Screen.step d s e = some t) : Coherent t := by
  cases step_display h.redraw he with
  | reset hf hn hr =>
    refine ⟨hr, fun f hs => absurd (hf.symm.trans hs) (by simp), fun hno => ?_⟩
    exact absurd (hn.symm.trans hno) (by simp)
  | restyled style hstyle ht =>
    have hnone := hstyled style hstyle
    subst ht
    refine ⟨h.redraw, fun f hs => absurd (hnone.symm.trans hs) (by simp), fun hno => ?_⟩
    obtain ⟨f, hf, -⟩ := h.shown hno
    exact absurd (hnone.symm.trans hf) (by simp)
  | marked hl hn =>
    refine ⟨hl.redraw.trans h.redraw, ?_, fun hno => absurd (hn.symm.trans hno) (by simp)⟩
    rw [hl.frame, hl.layout]
    exact h.frame
  | idle hl hd hn hs =>
    refine ⟨hl.redraw.trans h.redraw, ?_, ?_⟩
    · rw [hl.frame, hl.layout]
      exact h.frame
    · rw [hl.frame, hd, hn, hs]
      exact h.shown
  | drawn f hdraw hf hs hu hnew hr =>
    refine ⟨hr, fun f' hf' => ?_, fun _ => ⟨f, hf, hs⟩⟩
    have hff : f' = f := Option.some.inj (hf'.symm.trans hf)
    rcases hnew with hnew | ⟨hold, hlay⟩
    · rw [hff]
      exact hnew
    · rw [hff, hlay]
      exact h.frame f hold

end M80Screen

end RCSdk
