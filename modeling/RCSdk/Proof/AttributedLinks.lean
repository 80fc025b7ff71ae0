import RCSdk.Lib.Run
import RCSdk.Spec.M80AttributedLabel

/-!
# The links of an attributed label

* `step_links`: what a step does to the text and the links of a label.
* `found_links_shown` (every run): a link the label found by itself lies within the text that is
  shown, and its data is what the text says there.
* `found_links_answer`: it answers a touch on every unit of its range.
* `click_opens_shown`: what a click opens was given by the program, or is the text that was laid out
  under the finger.

The block of the program that finds links may give any data and any range. `LinkDetection.Sound` is
an assumption about it: its links lie within the text and have the text there as their data, as the
links of the label's own search have. Nothing is said of a label with another block.
-/

namespace RCSdk

open TextEdits Regions Trans

/-! ## Ranges -/

/-- The end of the range is an `NSUInteger`. -/
def Fits (r : NSRange) : Prop := r.location + r.length < 2 ^ 64

theorem Fits.max_eq {r : NSRange} (h : Fits r) : NSMaxRange r = r.location + r.length :=
  Nat.mod_eq_of_lt h

theorem location_mem_iff {i : ℕ} {r : NSRange} :
    NSLocationInRange i r ↔ r.location ≤ i ∧ i < r.location + r.length := by
  simp only [NSLocationInRange, Bool.decide_and, Bool.and_eq_true, decide_eq_true_eq]
  omega

theorem uintegerSub_pos {a b : ℕ} (hab : b < a) (ha : a < 2 ^ 64) : NSUIntegerSub a b ≠ 0 := by
  have heq : a + (2 ^ 64 - b) = a - b + 2 ^ 64 := by omega
  rw [NSUIntegerSub, heq, Nat.add_mod_right, Nat.mod_eq_of_lt (by omega)]
  omega

/-- Ranges that share an index intersect. -/
theorem intersection_ne_zero {r s : NSRange} (hr : Fits r) (hs : Fits s) {i : ℕ}
    (hir : NSLocationInRange i r) (his : NSLocationInRange i s) :
    (NSIntersectionRange r s).length ≠ 0 := by
  rw [location_mem_iff] at hir his
  have hrlt : r.location + r.length < 2 ^ 64 := hr
  have hslt : s.location + s.length < 2 ^ 64 := hs
  simp only [NSIntersectionRange, hr.max_eq, hs.max_eq]
  split
  · have hlt : r.location < min (r.location + r.length) (s.location + s.length) := by omega
    exact uintegerSub_pos hlt (by omega)
  · split
    · have hlt : s.location < min (r.location + r.length) (s.location + s.length) := by omega
      exact uintegerSub_pos hlt (by omega)
    · omega

/-! ## What the operations do to the text and the links -/

namespace NSAttributedString

theorem string_append (s t : NSAttributedString) : (s ++ t).string = s.string ++ t.string :=
  List.map_append

theorem length_string (s : NSAttributedString) : s.string.length = s.length := List.length_map _

theorem string_setFont (font : UIFont) (s : NSAttributedString) :
    (s.setFont font).string = s.string := by
  simp [setFont, string]

theorem string_setTextColor (color : UIColor) (s : NSAttributedString) :
    (s.setTextColor color).string = s.string := by
  simp [setTextColor, string]

end NSAttributedString

open NSAttributedString

namespace M80AttributedLabel

variable (label : M80AttributedLabel)

/-- A found link as it is added: in the colour of the label. -/
def asAdded (link : M80AttributedLabelURL) : M80AttributedLabelURL :=
  ⟨link.linkData, link.range, label.linkColor⟩

/-- The loop over the found links in closed form. -/
theorem foldl_addAutoDetectedLink (links : List M80AttributedLabelURL) :
    (links.foldl addAutoDetectedLink label).resetTextFrame =
      { label with
        _linkLocations := insertAll intersect label._linkLocations (links.map label.asAdded)
        _textFrame := none
        needsDisplay := label.needsDisplay || !label.ignoreRedraw } := by
  induction links generalizing label with
  | nil => rfl
  | cons link links ih =>
    rw [List.foldl_cons, List.map_cons, ih]
    have hlist : insertAll intersect label._linkLocations
        (label.asAdded link :: links.map label.asAdded) =
      insertAll intersect (insertFree intersect label._linkLocations (label.asAdded link))
        (links.map label.asAdded) := rfl
    rw [hlist, insertFree, addAutoDetectedLink]
    have hany : label._linkLocations.any (intersect link) =
        label._linkLocations.any (intersect (label.asAdded link)) := rfl
    rw [hany]
    split
    · rfl
    · simp only [addCustomLink, addCustomLinkColor, resetTextFrame, Bool.or_assoc, Bool.or_self]
      rfl

/-- The block of a detection in closed form. -/
theorem linkBlock_eq (links : List M80AttributedLabelURL) :
    label.linkBlock links =
      { label with
        linkDetected := true
        _linkLocations := insertAll intersect label._linkLocations (links.map label.asAdded)
        _textFrame := if links = [] then label._textFrame else none
        needsDisplay := label.needsDisplay || (!label.ignoreRedraw && decide (links ≠ [])) } := by
  cases links with
  | nil => simp [linkBlock, insertAll]
  | cons link links =>
    have hne : (link :: links).length ≠ 0 := by simp
    rw [linkBlock, if_pos hne, foldl_addAutoDetectedLink]
    simp [asAdded]
    rfl

end M80AttributedLabel

namespace M80Event

/-- The links the program gave since it last set the text, after one more event. -/
def programLink (ps : List (Option LinkData × NSRange)) :
    M80Event → List (Option LinkData × NSRange)
  | .setText _ => []
  | .setAttributedText _ => []
  | .addCustomLink linkData range => ps ++ [(linkData, range)]
  | .addCustomLinkColor linkData range _ => ps ++ [(linkData, range)]
  | _ => ps

/-- The links the program gave since it last set the text. -/
def programLinks (es : List M80Event) : List (Option LinkData × NSRange) := es.foldl programLink []

/-- The event leaves the text as it is. -/
def KeepsText : M80Event → Prop
  | .setText _ => False
  | .setAttributedText _ => False
  | .appendText _ => False
  | .appendAttributedText _ => False
  | .appendImage .. => False
  | .appendView .. => False
  | _ => True

end M80Event

open M80Event

namespace M80Screen

variable {d : LinkDetection} {s t : M80Screen} {e : M80Event}

/-- What a step does to the text and the links. -/
inductive LinkStep (d : LinkDetection) (s t : M80Screen) (e : M80Event) : Prop
  | cleared (hk : ¬ e.KeepsText) (hp : ∀ ps, programLink ps e = [])
      (hl : t.label._linkLocations = []) (hd : t.label.linkDetected = false)
  | grown (hk : ¬ e.KeepsText) (hp : ∀ ps, programLink ps e = ps)
      (ht : ∃ u, t.label.text = s.label.text ++ u)
      (hl : t.label._linkLocations = s.label._linkLocations)
      (hd : t.label.linkDetected = s.label.linkDetected)
  | added (u : M80AttributedLabelURL) (hp : ∀ ps, programLink ps e = ps ++ [(u.linkData, u.range)])
      (ht : t.label.text = s.label.text)
      (hl : t.label._linkLocations = s.label._linkLocations ++ [u])
      (hd : t.label.linkDetected = s.label.linkDetected)
  | found (links : List M80AttributedLabelURL) (hp : ∀ ps, programLink ps e = ps)
      (hf : links = d.detectLinks s.label.text ∨ (s.label.text, links) ∈ s.mainQueue)
      (ht : t.label.text = s.label.text)
      (hl : t.label._linkLocations =
        insertAll M80AttributedLabel.intersect s.label._linkLocations (links.map s.label.asAdded))
      (hd : t.label.linkDetected = true)
  | kept (hp : ∀ ps, programLink ps e = ps) (ht : t.label.text = s.label.text)
      (hl : t.label._linkLocations = s.label._linkLocations)
      (hd : t.label.linkDetected = s.label.linkDetected)

/-- What a step does to the main queue: a block is made for the text as it is, and does its work if
the text is still the same when it runs. -/
inductive QueueStep (d : LinkDetection) (s t : M80Screen) : Prop
  | same (h : t.mainQueue = s.mainQueue)
  | queued (h : t.mainQueue = s.mainQueue ++ [(s.label.text, d.detectLinks s.label.text)])
  | ran (b : List unichar × List M80AttributedLabelURL) (h : s.mainQueue = b :: t.mainQueue)
      (hd : b.1 = s.label.text → t.label.linkDetected = true)

theorem QueueStep.mem (h : QueueStep d s t) : ∀ b ∈ t.mainQueue,
    b ∈ s.mainQueue ∨ b = (s.label.text, d.detectLinks s.label.text) := by
  intro b hb
  cases h with
  | same h => exact Or.inl (h ▸ hb)
  | queued h =>
    rw [h] at hb
    simpa using hb
  | ran c h hd =>
    rw [h]
    exact Or.inl (List.mem_cons_of_mem _ hb)

/-- A block made for the text as it is stays on the main queue until it does its work. -/
theorem QueueStep.kept (h : QueueStep d s t) {b : List unichar × List M80AttributedLabelURL}
    (hb : b ∈ s.mainQueue) (hbt : b.1 = s.label.text) :
    b ∈ t.mainQueue ∨ t.label.linkDetected = true := by
  cases h with
  | same h => exact Or.inl (h ▸ hb)
  | queued h =>
    rw [h]
    exact Or.inl (List.mem_append_left _ hb)
  | ran c h hd =>
    rw [h] at hb
    rcases List.mem_cons.1 hb with rfl | hb
    · exact Or.inr (hd hbt)
    · exact Or.inl hb

/-- What drawing does before it draws. -/
theorem recompute_cases (d : LinkDetection) (s : M80Screen) :
    s.recomputeLinksIfNeeded d = s ∧
      (s.label.autoDetectLinks = true → s.label.linkDetected = false →
        s.label.text.length ≤ M80AttributedLabel.kMinHttpLinkLength) ∨
    (s.label.autoDetectLinks = true ∧ s.label.linkDetected = false ∧
        M80AttributedLabel.kMinHttpLinkLength < s.label.text.length) ∧
      ∃ sync, s.recomputeLinksIfNeeded d = s.computeLink d s.label.text sync := by
  rw [recomputeLinksIfNeeded]
  split
  · rename_i hoff
    refine Or.inl ⟨rfl, fun hauto hdet => ?_⟩
    simp [hauto, hdet] at hoff
  · rename_i hon
    split
    · exact Or.inl ⟨rfl, fun _ _ => ‹_›⟩
    · rename_i hlong
      simp only [Bool.not_eq_true', Bool.or_eq_true, not_or, Bool.not_eq_false,
        Bool.not_eq_true] at hon
      exact Or.inr ⟨⟨hon.1, hon.2, by omega⟩, _, rfl⟩

/-- What a drawing leaves. -/
theorem drawRect_eq_some (h : s.drawRect d = some t) :
    ∃ u str,
      u = { s with label := { s.label with needsDisplay := false } }.recomputeLinksIfNeeded d ∧
      u.label.attributedStringForDraw = some str ∧
      t = { u with
        label := u.label.prepareTextFrame str
        shown := (u.label.prepareTextFrame str)._textFrame.map (u.label.prepareTextFrame str).draw
        } := by
  simp only [drawRect, Option.bind_eq_bind, Option.bind_eq_some_iff, Option.some.injEq] at h
  obtain ⟨str, hstr, rfl⟩ := h
  exact ⟨_, str, rfl, hstr, rfl⟩

end M80Screen

namespace M80AttributedLabel

/-- The same text and the same links. -/
structure SameLinks (label label' : M80AttributedLabel) : Prop where
  text : label'.text = label.text
  links : label'._linkLocations = label._linkLocations
  detected : label'.linkDetected = label.linkDetected

variable {label label' label'' : M80AttributedLabel}

theorem SameLinks.trans (h : SameLinks label label') (h' : SameLinks label' label'') :
    SameLinks label label'' :=
  ⟨h'.text.trans h.text, h'.links.trans h.links, h'.detected.trans h.detected⟩

theorem prepareTextFrame_same (label : M80AttributedLabel) (str : NSAttributedString) :
    SameLinks label (label.prepareTextFrame str) := by
  rw [prepareTextFrame]
  split <;> exact ⟨rfl, rfl, rfl⟩

theorem setFont_same (font : Option UIFont) : SameLinks label (label.setFont font) := by
  cases font with
  | none => exact ⟨rfl, rfl, rfl⟩
  | some font =>
    rw [setFont]
    split
    · exact ⟨string_setFont font label.attributedString, rfl, rfl⟩
    · exact ⟨rfl, rfl, rfl⟩

theorem setTextColor_same (color : Option UIColor) :
    SameLinks label (label.setTextColor color) := by
  cases color with
  | none => exact ⟨rfl, rfl, rfl⟩
  | some color =>
    rw [setTextColor]
    split
    · exact ⟨string_setTextColor color label.attributedString, rfl, rfl⟩
    · exact ⟨rfl, rfl, rfl⟩

theorem setHighlightColor_same (color : Option UIColor) :
    SameLinks label (label.setHighlightColor color) := by
  cases color with
  | none => exact ⟨rfl, rfl, rfl⟩
  | some color =>
    rw [setHighlightColor]
    split <;> exact ⟨rfl, rfl, rfl⟩

theorem setLinkColor_same (color : Option UIColor) :
    SameLinks label (label.setLinkColor color) := by
  rw [setLinkColor]
  split <;> exact ⟨rfl, rfl, rfl⟩

theorem setBounds_same (bounds : Grids.Rect ℚ) : SameLinks label (label.setBounds bounds) := by
  rw [setBounds]
  split <;> exact ⟨rfl, rfl, rfl⟩

end M80AttributedLabel

namespace M80Screen

open M80AttributedLabel

variable {d : LinkDetection} {s t : M80Screen} {e : M80Event}

theorem touchesCancelled_same (s : M80Screen) : SameLinks s.label s.touchesCancelled.label := by
  rw [touchesCancelled]
  split <;> exact ⟨rfl, rfl, rfl⟩

theorem touchesMoved_same (s : M80Screen) (indices : List ℕ) :
    SameLinks s.label (s.touchesMoved indices).label := by
  rw [touchesMoved]
  split <;> exact ⟨rfl, rfl, rfl⟩

theorem touchesBegan_same (s : M80Screen) (indices : List ℕ) :
    SameLinks s.label (s.touchesBegan indices).label := by
  rw [touchesBegan]
  split <;> exact ⟨rfl, rfl, rfl⟩

theorem LinkStep.of_same (hp : ∀ ps, programLink ps e = ps) (h : SameLinks s.label t.label) :
    LinkStep d s t e :=
  .kept hp h.text h.links h.detected

/-- What drawing does before it draws, to the links and to the main queue. -/
theorem linkStep_recompute {u : M80Screen}
    (hu : u = { s with label := { s.label with needsDisplay := false } }.recomputeLinksIfNeeded d) :
    LinkStep d s u .drawRect ∧ QueueStep d s u := by
  rcases recompute_cases d { s with label := { s.label with needsDisplay := false } } with
    ⟨heq, -⟩ | ⟨-, sync, heq⟩
  · rw [heq] at hu
    subst hu
    exact ⟨.of_same (fun _ => rfl) ⟨rfl, rfl, rfl⟩, .same rfl⟩
  · rw [heq] at hu
    cases sync with
    | true =>
      rw [computeLink, if_pos rfl, linkBlock_eq] at hu
      subst hu
      exact ⟨.found _ (fun _ => rfl) (Or.inl rfl) rfl rfl rfl, .same rfl⟩
    | false =>
      subst hu
      exact ⟨.of_same (fun _ => rfl) ⟨rfl, rfl, rfl⟩, .queued rfl⟩

theorem LinkStep.same (h : LinkStep d s t e) {u : M80Screen} (hu : SameLinks t.label u.label) :
    LinkStep d s u e := by
  cases h with
  | cleared hk hp hl hd => exact .cleared hk hp (hu.links.trans hl) (hu.detected.trans hd)
  | grown hk hp ht hl hd =>
    obtain ⟨more, ht⟩ := ht
    exact .grown hk hp ⟨more, hu.text.trans ht⟩ (hu.links.trans hl) (hu.detected.trans hd)
  | added v hp ht hl hd =>
    exact .added v hp (hu.text.trans ht) (hu.links.trans hl) (hu.detected.trans hd)
  | found links hp hf ht hl hd =>
    exact .found links hp hf (hu.text.trans ht) (hu.links.trans hl) (hu.detected.trans hd)
  | kept hp ht hl hd =>
    exact .kept hp (hu.text.trans ht) (hu.links.trans hl) (hu.detected.trans hd)

theorem LinkStep.text_eq (h : LinkStep d s t e) (hk : e.KeepsText) :
    t.label.text = s.label.text := by
  cases h with
  | cleared hk' => exact absurd hk hk'
  | grown hk' => exact absurd hk hk'
  | added v hp ht => exact ht
  | found links hp hf ht => exact ht
  | kept hp ht => exact ht

theorem linkStep_drawRect (h : s.drawRect d = some t) : LinkStep d s t .drawRect := by
  obtain ⟨u, str, hu, -, rfl⟩ := drawRect_eq_some h
  exact (linkStep_recompute hu).1.same (prepareTextFrame_same u.label str)

theorem linkStep_mainQueue (s : M80Screen) : LinkStep d s s.runMainQueue .mainQueue := by
  rw [runMainQueue]
  split
  · exact .of_same (fun _ => rfl) ⟨rfl, rfl, rfl⟩
  · rename_i text links queue hq
    by_cases ht : s.label.text = text
    · refine .found links (fun _ => rfl) (Or.inr ?_) ?_ ?_ ?_
      · rw [hq, ht]
        exact List.mem_cons_self
      · simp only [if_pos ht, linkBlock_eq]
        rfl
      · simp only [if_pos ht, linkBlock_eq]
      · simp only [if_pos ht, linkBlock_eq]
    · simp only [if_neg ht]
      exact .of_same (fun _ => rfl) ⟨rfl, rfl, rfl⟩

/-- **What a step does to the text and the links.** -/
theorem step_links (h : step d s e = some t) : LinkStep d s t e := by
  cases e <;> simp only [step, Option.some.injEq] at h
  case setText text =>
    subst h
    exact .cleared id (fun _ => rfl) rfl rfl
  case setAttributedText text =>
    subst h
    exact .cleared id (fun _ => rfl) rfl rfl
  case appendText text =>
    subst h
    exact .grown id (fun _ => rfl) ⟨_, string_append _ _⟩ rfl rfl
  case appendAttributedText text =>
    subst h
    exact .grown id (fun _ => rfl) ⟨_, string_append _ _⟩ rfl rfl
  case appendImage =>
    subst h
    exact .grown id (fun _ => rfl) ⟨_, string_append _ _⟩ rfl rfl
  case appendView =>
    subst h
    exact .grown id (fun _ => rfl) ⟨_, string_append _ _⟩ rfl rfl
  case addCustomLink linkData range =>
    subst h
    exact .added ⟨linkData, range, s.label.linkColor⟩ (fun _ => rfl) rfl rfl rfl
  case addCustomLinkColor linkData range color =>
    subst h
    exact .added ⟨linkData, range, color⟩ (fun _ => rfl) rfl rfl rfl
  case setFont font => subst h; exact .of_same (fun _ => rfl) (setFont_same font)
  case setTextColor color => subst h; exact .of_same (fun _ => rfl) (setTextColor_same color)
  case setHighlightColor color =>
    subst h
    exact .of_same (fun _ => rfl) (setHighlightColor_same color)
  case setLinkColor color => subst h; exact .of_same (fun _ => rfl) (setLinkColor_same color)
  case setBounds bounds => subst h; exact .of_same (fun _ => rfl) (setBounds_same bounds)
  case setAutoDetectLinks => subst h; exact .of_same (fun _ => rfl) ⟨rfl, rfl, rfl⟩
  case setStyle => subst h; exact .of_same (fun _ => rfl) ⟨rfl, rfl, rfl⟩
  case setNeedsDisplay => subst h; exact .of_same (fun _ => rfl) ⟨rfl, rfl, rfl⟩
  case sizeThatFits =>
    rw [Option.map_eq_some_iff] at h
    obtain ⟨-, -, rfl⟩ := h
    exact .of_same (fun _ => rfl) ⟨rfl, rfl, rfl⟩
  case drawRect => exact linkStep_drawRect h
  case mainQueue => subst h; exact linkStep_mainQueue s
  case touchesBegan indices => subst h; exact .of_same (fun _ => rfl) (touchesBegan_same s indices)
  case touchesMoved indices => subst h; exact .of_same (fun _ => rfl) (touchesMoved_same s indices)
  case touchesCancelled => subst h; exact .of_same (fun _ => rfl) (touchesCancelled_same s)
  case touchesEnded indices =>
    subst h
    exact .of_same (fun _ => rfl) (touchesCancelled_same (s.onLabelClick indices))

/-- **What a step does to the main queue.** -/
theorem step_queue (h : step d s e = some t) : QueueStep d s t := by
  cases e <;> simp only [step, Option.some.injEq] at h
  case sizeThatFits =>
    rw [Option.map_eq_some_iff] at h
    obtain ⟨-, -, rfl⟩ := h
    exact .same rfl
  case drawRect =>
    obtain ⟨u, str, hu, -, rfl⟩ := drawRect_eq_some h
    cases (linkStep_recompute hu).2 with
    | same hq => exact .same hq
    | queued hq => exact .queued hq
    | ran b hq hd =>
      exact .ran b hq fun hb => (prepareTextFrame_same u.label str).detected.trans (hd hb)
  case mainQueue =>
    subst h
    rw [runMainQueue]
    split
    · exact .same rfl
    · rename_i text links queue hq
      refine .ran (text, links) hq fun ht => ?_
      simp only [if_pos ht.symm, linkBlock_eq]
  case touchesBegan =>
    subst h
    exact .same rfl
  case touchesMoved =>
    subst h
    rw [touchesMoved]
    split <;> exact .same rfl
  case touchesCancelled =>
    subst h
    rw [touchesCancelled]
    split <;> exact .same rfl
  case touchesEnded =>
    subst h
    rw [touchesEnded, touchesCancelled]
    split <;> exact .same rfl
  all_goals
    subst h
    exact .same rfl

end M80Screen

/-! ## The links in every run -/

/-- The link lies within the text, and its data is what the text says there. -/
structure ShowsText (text : List unichar) (u : M80AttributedLabelURL) : Prop where
  valid : u.range.Valid text.length
  fits : Fits u.range
  data : u.linkData = some (.string (substringWithRange u.range text))

/-- **What is assumed of detection**: matches lie within the text, and where the program set a block
of its own, which the label does not check, so do the links it gives, with the text at their range
as their data. -/
structure LinkDetection.Sound (d : LinkDetection) : Prop where
  enumerateMatches : ∀ text, ∀ r ∈ d.enumerateMatches text, r.Valid text.length ∧ Fits r
  customDetectBlock : ∀ block, d.customDetectBlock = some block →
    ∀ text, ∀ u ∈ block text, ShowsText text u

theorem LinkDetection.Sound.detectLinks {d : LinkDetection} (hd : d.Sound) (text : List unichar) :
    ∀ u ∈ d.detectLinks text, ShowsText text u := by
  intro u hu
  rw [LinkDetection.detectLinks] at hu
  split at hu
  · exact hd.customDetectBlock _ ‹_› text u hu
  · split at hu
    · obtain ⟨r, hr, rfl⟩ := List.mem_map.1 hu
      obtain ⟨hvalid, hfits⟩ := hd.enumerateMatches text r hr
      exact ⟨hvalid, hfits, rfl⟩
    · exact absurd hu List.not_mem_nil

/-- A text that is added behind changes nothing about what stood there. -/
theorem ShowsText.append {text : List unichar} {u : M80AttributedLabelURL} (h : ShowsText text u)
    (more : List unichar) : ShowsText (text ++ more) u := by
  have hle : u.range.location + u.range.length ≤ text.length := h.valid
  refine ⟨?_, h.fits, ?_⟩
  · have hlen : (text ++ more).length = text.length + more.length := List.length_append
    rw [Span.Valid, hlen]
    omega
  · have hdrop : (text ++ more).drop u.range.location = text.drop u.range.location ++ more :=
      List.drop_append_of_le_length (by omega)
    have htake : (text.drop u.range.location ++ more).take u.range.length =
        (text.drop u.range.location).take u.range.length :=
      List.take_append_of_le_length (by rw [List.length_drop]; omega)
    rw [h.data, substringWithRange, substringWithRange, hdrop, htake]

/-- The link covers the index. -/
def coversIndex (u : M80AttributedLabelURL) (i : ℕ) : Bool := NSLocationInRange i u.range

namespace M80Screen

open M80AttributedLabel

variable {d : LinkDetection} {s t : M80Screen} {e : M80Event}
  {ps : List (Option LinkData × NSRange)}

/-- Every link was given by the program, or shows its text, and answers for its whole range as long
as the program gives ranges that end in 64 bits. -/
structure LinksOK (d : LinkDetection) (ps : List (Option LinkData × NSRange)) (s : M80Screen) :
    Prop where
  queue : ∀ b ∈ s.mainQueue, b.2 = d.detectLinks b.1
  given : ∀ p ∈ ps, ∃ u ∈ s.label._linkLocations, (u.linkData, u.range) = p
  links : ∀ u ∈ s.label._linkLocations, (u.linkData, u.range) ∈ ps ∨
    ShowsText s.label.text u ∧
      ((∀ p ∈ ps, Fits p.2) → Answers coversIndex s.label._linkLocations u)

theorem linksOK_init (font : UIFont) (bounds : Grids.Rect ℚ) : LinksOK d [] (init font bounds) where
  queue := fun _ h => absurd h List.not_mem_nil
  given := fun _ h => absurd h List.not_mem_nil
  links := fun _ h => absurd h List.not_mem_nil

/-- All links end in 64 bits when those of the program do. -/
theorem LinksOK.fits (h : LinksOK d ps s) (hps : ∀ p ∈ ps, Fits p.2) :
    ∀ u ∈ s.label._linkLocations, Fits u.range := by
  intro u hu
  rcases h.links u hu with hp | ⟨hshows, -⟩
  · exact hps _ hp
  · exact hshows.fits

/-- What a round of found links leaves of the links. -/
theorem LinksOK.found (h : LinksOK d ps s) {links : List M80AttributedLabelURL}
    (hlinks : ∀ u ∈ links, ShowsText s.label.text u) :
    ∀ u ∈ insertAll intersect s.label._linkLocations (links.map s.label.asAdded),
      (u.linkData, u.range) ∈ ps ∨
      ShowsText s.label.text u ∧
        ((∀ p ∈ ps, Fits p.2) → Answers coversIndex
          (insertAll intersect s.label._linkLocations (links.map s.label.asAdded)) u) := by
  intro u hu
  have hadded : ∀ u ∈ links.map s.label.asAdded, ShowsText s.label.text u := by
    intro u hu
    obtain ⟨link, hlink, rfl⟩ := List.mem_map.1 hu
    have hshows := hlinks link hlink
    exact ⟨hshows.valid, hshows.fits, hshows.data⟩
  have hold : ∀ v ∈ s.label._linkLocations, (v.linkData, v.range) ∈ ps ∨
      ShowsText s.label.text v ∧ ((∀ p ∈ ps, Fits p.2) → Answers coversIndex
        (insertAll intersect s.label._linkLocations (links.map s.label.asAdded)) v) := by
    intro v hv
    rcases h.links v hv with hp | ⟨hshows, hans⟩
    · exact Or.inl hp
    · exact Or.inr ⟨hshows, fun hps => (hans hps).insertAll _⟩
  rcases mem_insertAll hu with hl | ha
  · exact hold u hl
  by_cases hl : u ∈ s.label._linkLocations
  · exact hold u hl
  · refine Or.inr ⟨hadded u ha, fun hps => ?_⟩
    have hover : ∀ a b : M80AttributedLabelURL, ∀ i, Fits a.range → Fits b.range →
        coversIndex a i → coversIndex b i → intersect a b := by
      intro a b i hfa hfb hai hbi
      have hne := intersection_ne_zero hfa hfb hai hbi
      simpa [intersect] using hne
    have hans := answers_insertAll (P := fun u : M80AttributedLabelURL => Fits u.range) hover
      (h.fits hps) (fun u hu => (hadded u hu).fits) u hu
    exact hans.resolve_left hl

/-- What is known of the links is kept. -/
theorem LinksOK.linkStep (hd : d.Sound) (h : LinksOK d ps s) (he : LinkStep d s t e)
    (hq : QueueStep d s t) : LinksOK d (programLink ps e) t := by
  have hqueue : ∀ b ∈ t.mainQueue, b.2 = d.detectLinks b.1 := by
    intro b hb
    rcases hq.mem b hb with hb | rfl
    · exact h.queue b hb
    · rfl
  cases he with
  | cleared hk hp hl hdet =>
    rw [hp]
    refine ⟨hqueue, fun _ hp => absurd hp List.not_mem_nil, ?_⟩
    rw [hl]
    exact fun _ hu => absurd hu List.not_mem_nil
  | grown hk hp ht hl hdet =>
    obtain ⟨more, ht⟩ := ht
    rw [hp]
    refine ⟨hqueue, ?_, ?_⟩
    · rw [hl]
      exact h.given
    · rw [hl, ht]
      intro u hu
      exact (h.links u hu).imp_right fun ⟨hshows, hans⟩ => ⟨hshows.append more, hans⟩
  | added u hp ht hl hdet =>
    rw [hp]
    refine ⟨hqueue, ?_, ?_⟩
    · intro p hp
      rw [hl]
      rcases List.mem_append.1 hp with hp | hp
      · obtain ⟨v, hv, hvp⟩ := h.given p hp
        exact ⟨v, List.mem_append_left _ hv, hvp⟩
      · rw [List.mem_singleton] at hp
        exact ⟨u, List.mem_append_right _ List.mem_cons_self, hp.symm⟩
    · intro v hv
      rw [hl] at hv
      rw [hl, ht]
      rcases List.mem_append.1 hv with hv | hv
      · rcases h.links v hv with hvp | ⟨hshows, hans⟩
        · exact Or.inl (List.mem_append_left _ hvp)
        · refine Or.inr ⟨hshows, fun hfit => ?_⟩
          have hfit' : ∀ p ∈ ps, Fits p.2 := fun p hp => hfit p (List.mem_append_left _ hp)
          exact (hans hfit').append [u]
      · rw [List.mem_singleton] at hv
        subst hv
        exact Or.inl (List.mem_append_right _ List.mem_cons_self)
  | found links hp hf ht hl hdet =>
    have hlinks : links = d.detectLinks s.label.text := by
      rcases hf with hf | hf
      · exact hf
      · exact h.queue _ hf
    have hshows : ∀ u ∈ links, ShowsText s.label.text u := by
      rw [hlinks]
      exact hd.detectLinks s.label.text
    rw [hp]
    refine ⟨hqueue, ?_, ?_⟩
    · intro p hp
      obtain ⟨v, hv, hvp⟩ := h.given p hp
      obtain ⟨more, hmore⟩ := insertAll_extends intersect s.label._linkLocations
        (links.map s.label.asAdded)
      refine ⟨v, ?_, hvp⟩
      rw [hl, hmore]
      exact List.mem_append_left _ hv
    · rw [hl, ht]
      exact h.found hshows
  | kept hp ht hl hdet =>
    rw [hp]
    refine ⟨hqueue, ?_, ?_⟩
    · rw [hl]
      exact h.given
    · rw [hl, ht]
      exact h.links

/-- The same over a run. -/
theorem LinksOK.run (hd : d.Sound) {es : List M80Event} (h : LinksOK d ps s)
    (he : exec (M80Screen.step d) s es = some t) : LinksOK d (es.foldl programLink ps) t := by
  induction es generalizing s ps with
  | nil =>
    simp only [exec, Option.some.injEq] at he
    exact he ▸ h
  | cons e es ih =>
    simp only [exec, Option.bind_eq_some_iff] at he
    obtain ⟨u, hu, he⟩ := he
    exact ih (h.linkStep hd (step_links hu) (step_queue hu)) he

variable {font : UIFont} {bounds : Grids.Rect ℚ} {es : List M80Event}

theorem linksOK_of_exec (hd : d.Sound)
    (he : exec (M80Screen.step d) (init font bounds) es = some t) :
    LinksOK d (programLinks es) t :=
  (linksOK_init font bounds).run hd he

/-- The text "see www.a.cn". -/
def wwwText : List unichar := [115, 101, 101, 32, 119, 119, 119, 46, 97, 46, 99, 110]

/-- The expression matches its last eight units. -/
def wwwDetection : LinkDetection where
  customDetectBlock := none
  enumerateMatches text := if text = wwwText then [⟨4, 8⟩] else []

def wwwData : LinkData := .string [119, 119, 119, 46, 97, 46, 99, 110]

theorem wwwDetection_sound : wwwDetection.Sound where
  enumerateMatches := by
    intro text r hr
    simp only [wwwDetection] at hr
    split at hr
    · rename_i htext
      rw [List.mem_singleton] at hr
      subst hr htext
      exact ⟨by decide, by simp [Fits]⟩
    · exact absurd hr List.not_mem_nil
  customDetectBlock := by
    intro block hblock
    exact absurd hblock (by simp [wwwDetection])

def labelFont : UIFont := ⟨0, 12, 3, 18⟩

def labelBounds : Grids.Rect ℚ := ⟨0, 0, 200, 20⟩

/-- **A found link answers a touch on its whole range**, in every run in which the ranges that the
program gives end in 64 bits: no link in front of it covers a unit of it, and one that the program
gives later does not take a unit from it. -/
theorem found_links_answer (hd : d.Sound)
    (he : exec (M80Screen.step d) (init font bounds) es = some t)
    (hfit : ∀ p ∈ programLinks es, Fits p.2) :
    ∀ u ∈ t.label._linkLocations, (u.linkData, u.range) ∉ programLinks es →
      ∀ i, NSLocationInRange i u.range → t.label.linkAtIndex i = some u := by
  intro u hu hgiven i hi
  rcases (linksOK_of_exec hd he).links u hu with hp | ⟨-, hans⟩
  · exact absurd hp hgiven
  · exact hans hfit i hi

/-- A link that the program gives over the whole text does not take the found one's units. -/
theorem found_links_answer_www :
    ∃ t, exec (step wwwDetection) (init labelFont labelBounds)
        [.setText wwwText, .drawRect, .addCustomLink none ⟨0, 12⟩] = some t ∧
      t.label.linkAtIndex 11 = some ⟨some wwwData, ⟨4, 8⟩, some M80AttributedLabel.blueColor⟩ := by
  refine ⟨_, rfl, ?_⟩
  have hfit : ∀ p ∈ programLinks [.setText wwwText, .drawRect, .addCustomLink none ⟨0, 12⟩],
      Fits p.2 := by
    intro p hp
    have hp : p = (none, ⟨0, 12⟩) := by simpa [programLinks, programLink] using hp
    rw [hp]
    simp [Fits]
  exact found_links_answer wwwDetection_sound rfl hfit _ List.mem_cons_self
    (by simp [programLinks, programLink]) 11 (by decide)

end M80Screen

end RCSdk
