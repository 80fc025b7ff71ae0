import Mathlib.Tactic.FieldSimp
import Mathlib.Tactic.Linarith
import Mathlib.Tactic.Positivity
import Mathlib.Tactic.Ring
import RCSdk.Proof.AttributedDisplay

/-!
# The attachments of an attributed label

A run delegate holds no reference to its attachment: the label has to keep it for as long as a frame
may ask for its size.

* `frame_attachments_held` (every run): each run delegate of what is laid out has one attachment
  that the label keeps, measured with the font of the label, and the box laid out for it has the
  height of its content and margins.
* `scaled`: a content with a largest size is scaled down to it and keeps its shape.
-/

namespace RCSdk

open TextEdits Regions Trans NSAttributedString M80Event M80AttributedLabel

/-! ## Boxes -/

namespace M80AttributedLabelAttachment

variable (a : M80AttributedLabelAttachment)

/-- Whatever the alignment, the box is as high as the content with its margins. -/
theorem ascent_add_descent : a.ascentCallback + a.descentCallback = a.boxSize.height := by
  rw [ascentCallback, descentCallback]
  cases a.alignment <;> ring

/-- A content with a largest size is scaled down to it, is never scaled up, and keeps its shape. -/
def Scaled : Prop :=
  0 < a.maxSize.width → 0 < a.maxSize.height →
    0 < a.attachmentSize.width → 0 < a.attachmentSize.height →
    (a.contentSize.width ≤ a.maxSize.width ∧ a.contentSize.height ≤ a.maxSize.height) ∧
      (0 < a.contentSize.width ∧ a.contentSize.width ≤ a.attachmentSize.width) ∧
      a.contentSize.width * a.attachmentSize.height =
        a.contentSize.height * a.attachmentSize.width

theorem scaled : a.Scaled := by
  intro hw hh haw hah
  rw [contentSize, if_pos ⟨hw, hh, haw, hah⟩, calculateContentSize]
  set w := a.attachmentSize.width
  set h := a.attachmentSize.height
  set nw := a.maxSize.width
  set nh := a.maxSize.height
  by_cases hin : w ≤ nw ∧ h ≤ nh
  · rw [if_pos hin]
    exact ⟨hin, ⟨haw, le_rfl⟩, mul_comm w h⟩
  rw [if_neg hin]
  by_cases hwide : w / h > nw / nh
  · rw [if_pos hwide]
    have hcross : nw * h < w * nh := (div_lt_div_iff₀ hh hah).1 hwide
    have hheight : nw * h / w ≤ nh := by
      rw [div_le_iff₀ haw]
      linarith
    have hwidth : nw ≤ w := by
      -- else the height would be too large, and the content even wider
      by_contra hlt
      have hlt : w < nw := not_le.1 hlt
      have hnh : nh < h := by
        by_contra hle
        exact hin ⟨hlt.le, not_lt.1 hle⟩
      have hmul : w * nh < nw * h := mul_lt_mul'' hlt hnh haw.le hh.le
      linarith
    refine ⟨⟨le_rfl, hheight⟩, ⟨hw, hwidth⟩, ?_⟩
    field_simp
  · rw [if_neg hwide]
    have hcross : w * nh ≤ nw * h := by
      have hle : w / h ≤ nw / nh := not_lt.1 hwide
      exact (div_le_div_iff₀ hah hh).1 hle
    have hwidth : nh * w / h ≤ nw := by
      rw [div_le_iff₀ hah]
      linarith
    have hheight : nh ≤ h := by
      by_contra hlt
      have hlt : h < nh := not_le.1 hlt
      have hnw : nw < w := by
        by_contra hle
        exact hin ⟨not_lt.1 hle, hlt.le⟩
      have hmul : nw * h < w * nh := mul_lt_mul'' hnw hlt hw.le hah.le
      linarith
    have hle : nh * w / h ≤ w := by
      rw [div_le_iff₀ hah]
      have hmul : nh * w ≤ h * w := mul_le_mul_of_nonneg_right hheight haw.le
      linarith
    refine ⟨⟨hwidth, le_rfl⟩, ⟨by positivity, hle⟩, ?_⟩
    field_simp

end M80AttributedLabelAttachment

/-! ## Attachments are kept -/

namespace M80Event

/-- A text from the program has no run delegates of its own. -/
def Plain : M80Event → Prop
  | .setAttributedText attributedText => ∀ u ∈ attributedText, u.attributes.runDelegate = none
  | .appendAttributedText attributedText => ∀ u ∈ attributedText, u.attributes.runDelegate = none
  | _ => True

end M80Event

/-- Every run delegate of the text has its attachment, and every attachment is measured with the
font of the label. -/
structure AttachmentsOK (label : M80AttributedLabel) : Prop where
  made : ∀ a ∈ label._attachments, a.identity < label.made
  nodup : (label._attachments.map (·.identity)).Nodup
  held : ∀ g ∈ label.attributedString.map glyph, ∀ i, g.2 = some i →
    ∃ a ∈ label._attachments, a.identity = i
  font : label._fontAscent = label.font.ascent ∧ label._fontDescent = label.font.descent
  measured : ∀ a ∈ label._attachments,
    a.fontAscent = label._fontAscent ∧ a.fontDescent = label._fontDescent

namespace AttachmentsOK

variable {label label' : M80AttributedLabel}

theorem commonInit (font : UIFont) (bounds : Grids.Rect ℚ) :
    AttachmentsOK (commonInit font bounds) where
  made := fun _ h => absurd h List.not_mem_nil
  nodup := List.nodup_nil
  held := fun _ h => absurd h List.not_mem_nil
  font := ⟨rfl, rfl⟩
  measured := fun _ h => absurd h List.not_mem_nil

/-- What is kept when attachments, font and units stay. -/
theorem same (h : AttachmentsOK label) (ha : label'._attachments = label._attachments)
    (hm : label'.made = label.made)
    (hg : label'.attributedString.map glyph = label.attributedString.map glyph)
    (hf : label'.font = label.font) (hfa : label'._fontAscent = label._fontAscent)
    (hfd : label'._fontDescent = label._fontDescent) : AttachmentsOK label' := by
  refine ⟨?_, ?_, ?_, ?_, ?_⟩
  · rw [ha, hm]; exact h.made
  · rw [ha]; exact h.nodup
  · rw [ha, hg]; exact h.held
  · rw [hf, hfa, hfd]; exact h.font
  · rw [ha, hfa, hfd]; exact h.measured

theorem glyphs_attributed (label : M80AttributedLabel) (text : List unichar) :
    ∀ g ∈ (label.attributed text).map glyph, g.2 = none := by
  intro g hg
  obtain ⟨u, hu, rfl⟩ := List.mem_map.1 hg
  obtain ⟨unit, -, rfl⟩ := List.mem_map.1 hu
  rfl

theorem setAttributedText (h : AttachmentsOK label) {text : NSAttributedString}
    (ht : ∀ g ∈ text.map glyph, g.2 = none) : AttachmentsOK (label.setAttributedText text) where
  made := fun _ h => absurd h List.not_mem_nil
  nodup := List.nodup_nil
  held := by
    intro g hg i hi
    exact absurd ((ht g hg).symm.trans hi) (by simp)
  font := h.font
  measured := fun _ h => absurd h List.not_mem_nil

theorem appendAttributedText (h : AttachmentsOK label) {text : NSAttributedString}
    (ht : ∀ g ∈ text.map glyph, g.2 = none) : AttachmentsOK (label.appendAttributedText text) where
  made := h.made
  nodup := h.nodup
  held := by
    intro g hg i hi
    have hsplit : g ∈ label.attributedString.map glyph ++ text.map glyph := List.map_append ▸ hg
    rcases List.mem_append.1 hsplit with hold | hnew
    · exact h.held g hold i hi
    · exact absurd ((ht g hnew).symm.trans hi) (by simp)
  font := h.font
  measured := h.measured

theorem appendContent (h : AttachmentsOK label) (content : AttachmentContent)
    (margin : UIEdgeInsets) (alignment : M80ImageAlignment) (maxSize : CGSize) :
    AttachmentsOK (label.appendContent content margin alignment maxSize) := by
  set a : M80AttributedLabelAttachment := ⟨label.made, content, margin, alignment, maxSize,
    label._fontAscent, label._fontDescent⟩ with ha
  have hatt : (label.appendContent content margin alignment maxSize)._attachments =
      label._attachments ++ [a] := rfl
  have hglyphs : (label.appendContent content margin alignment maxSize).attributedString.map glyph =
      label.attributedString.map glyph ++ [(objectReplacementChar, some label.made)] :=
    List.map_append
  refine ⟨?_, ?_, ?_, h.font, ?_⟩
  · intro b hb
    have hmade : (label.appendContent content margin alignment maxSize).made = label.made + 1 := rfl
    rw [hatt] at hb
    rw [hmade]
    rcases List.mem_append.1 hb with hb | hb
    · have := h.made b hb
      omega
    · rw [List.mem_singleton.1 hb]
      exact Nat.lt_succ_self _
  · rw [hatt, List.map_append, List.nodup_append]
    refine ⟨h.nodup, List.nodup_singleton _, ?_⟩
    intro i hi j hj
    obtain ⟨b, hb, rfl⟩ := List.mem_map.1 hi
    have hj : j = label.made := by simpa [ha] using hj
    have := h.made b hb
    omega
  · intro g hg i hi
    rw [hglyphs] at hg
    rw [hatt]
    rcases List.mem_append.1 hg with hg | hg
    · obtain ⟨b, hb, hbi⟩ := h.held g hg i hi
      exact ⟨b, List.mem_append_left _ hb, hbi⟩
    · rw [List.mem_singleton.1 hg] at hi
      exact ⟨a, List.mem_append_right _ List.mem_cons_self, Option.some.inj hi⟩
  · intro b hb
    rw [hatt] at hb
    rcases List.mem_append.1 hb with hb | hb
    · exact h.measured b hb
    · rw [List.mem_singleton.1 hb]
      exact ⟨rfl, rfl⟩

theorem setFont (h : AttachmentsOK label) (font : Option UIFont) :
    AttachmentsOK (label.setFont font) := by
  cases font with
  | none => exact h
  | some font =>
    rw [M80AttributedLabel.setFont]
    split
    · refine ⟨?_, ?_, ?_, ⟨rfl, rfl⟩, ?_⟩
      · intro a ha
        obtain ⟨b, hb, rfl⟩ := List.mem_map.1 ha
        exact h.made b hb
      · have hids : (label._attachments.map fun a => { a with
            fontAscent := font.ascent, fontDescent := font.descent }).map (·.identity) =
            label._attachments.map (·.identity) := by
          rw [List.map_map]
          rfl
        exact hids ▸ h.nodup
      · intro g hg i hi
        have hglyphs : (label.attributedString.setFont font).map glyph =
            label.attributedString.map glyph := by
          rw [NSAttributedString.setFont, List.map_map]
          rfl
        obtain ⟨b, hb, hbi⟩ := h.held g (hglyphs ▸ hg) i hi
        exact ⟨_, List.mem_map_of_mem hb, hbi⟩
      · intro a ha
        obtain ⟨b, -, rfl⟩ := List.mem_map.1 ha
        exact ⟨rfl, rfl⟩
    · exact h

theorem setTextColor (h : AttachmentsOK label) (color : Option UIColor) :
    AttachmentsOK (label.setTextColor color) := by
  cases color with
  | none => exact h
  | some color =>
    rw [M80AttributedLabel.setTextColor]
    split
    · refine h.same rfl rfl ?_ rfl rfl rfl
      have hglyphs : (label.attributedString.setTextColor color).map glyph =
          label.attributedString.map glyph := by
        rw [NSAttributedString.setTextColor, List.map_map]
        rfl
      exact hglyphs
    · exact h

theorem linkBlock (h : AttachmentsOK label) (links : List M80AttributedLabelURL) :
    AttachmentsOK (label.linkBlock links) := by
  rw [linkBlock_eq]
  exact h.same rfl rfl rfl rfl rfl rfl

theorem prepareTextFrame (h : AttachmentsOK label) (str : NSAttributedString) :
    AttachmentsOK (label.prepareTextFrame str) := by
  rw [M80AttributedLabel.prepareTextFrame]
  split
  · exact h.same rfl rfl rfl rfl rfl rfl
  · exact h

end AttachmentsOK

namespace M80Screen

variable {d : LinkDetection} {s t : M80Screen} {e : M80Event} {font : UIFont}
  {bounds : Grids.Rect ℚ}

theorem attachments_drawRect (h : AttachmentsOK s.label) (he : s.drawRect d = some t) :
    AttachmentsOK t.label := by
  obtain ⟨u, str, hu, -, rfl⟩ := drawRect_eq_some he
  have hs : AttachmentsOK { s.label with needsDisplay := false } :=
    h.same rfl rfl rfl rfl rfl rfl
  have hlabel : AttachmentsOK u.label := by
    rcases recompute_cases d { s with label := { s.label with needsDisplay := false } } with
      ⟨heq, -⟩ | ⟨-, sync, heq⟩
    · rw [hu, heq]
      exact hs
    · rw [hu, heq]
      cases sync with
      | true =>
        rw [computeLink, if_pos rfl]
        have hredraw : AttachmentsOK { s.label with needsDisplay := false, ignoreRedraw := true } :=
          h.same rfl rfl rfl rfl rfl rfl
        exact (hredraw.linkBlock _).same rfl rfl rfl rfl rfl rfl
      | false => exact hs
  exact hlabel.prepareTextFrame str

theorem attachments_touchesCancelled (h : AttachmentsOK s.label) :
    AttachmentsOK s.touchesCancelled.label := by
  rw [touchesCancelled]
  split
  · exact h.same rfl rfl rfl rfl rfl rfl
  · exact h

/-- One step keeps the attachments of the text. -/
theorem attachments_step (h : AttachmentsOK s.label) (hplain : e.Plain)
    (he : step d s e = some t) : AttachmentsOK t.label := by
  cases e <;> simp only [step, Option.some.injEq] at he
  case setText text => subst he; exact h.setAttributedText (AttachmentsOK.glyphs_attributed _ _)
  case setAttributedText text =>
    subst he
    exact h.setAttributedText (List.forall_mem_map.2 hplain)
  case appendText text =>
    subst he
    exact h.appendAttributedText (AttachmentsOK.glyphs_attributed _ _)
  case appendAttributedText text =>
    subst he
    exact h.appendAttributedText (List.forall_mem_map.2 hplain)
  case appendImage => subst he; exact h.appendContent _ _ _ _
  case appendView => subst he; exact h.appendContent _ _ _ _
  case setFont font => subst he; exact h.setFont font
  case setTextColor color => subst he; exact h.setTextColor color
  case setHighlightColor color =>
    subst he
    cases color with
    | none => exact h
    | some color =>
      rw [M80AttributedLabel.setHighlightColor]
      split
      · exact h.same rfl rfl rfl rfl rfl rfl
      · exact h
  case setLinkColor =>
    subst he
    rw [M80AttributedLabel.setLinkColor]
    split
    · exact h.same rfl rfl rfl rfl rfl rfl
    · exact h
  case setBounds =>
    subst he
    rw [M80AttributedLabel.setBounds]
    split
    · exact h.same rfl rfl rfl rfl rfl rfl
    · exact h
  case sizeThatFits =>
    rw [Option.map_eq_some_iff] at he
    obtain ⟨-, -, rfl⟩ := he
    exact h
  case drawRect => exact attachments_drawRect h he
  case mainQueue =>
    subst he
    rw [runMainQueue]
    split
    · exact h
    · rename_i text links queue hq
      by_cases ht : s.label.text = text
      · simp only [if_pos ht]
        exact h.linkBlock links
      · simp only [if_neg ht]
        exact h
  case touchesBegan =>
    subst he
    rw [touchesBegan]
    split <;> exact h.same rfl rfl rfl rfl rfl rfl
  case touchesMoved =>
    subst he
    rw [touchesMoved]
    split
    · exact h.same rfl rfl rfl rfl rfl rfl
    · exact h
  case touchesCancelled => subst he; exact attachments_touchesCancelled h
  case touchesEnded indices =>
    subst he
    exact attachments_touchesCancelled (s := s.onLabelClick indices) h
  all_goals
    subst he
    exact h.same rfl rfl rfl rfl rfl rfl

/-- **What is laid out has its attachments**, in every run in which the texts of the program have no
run delegates of their own: for each run delegate of the frame the label keeps exactly one
attachment, measured with the font of the label, the ascent and the descent that Core Text is told
are the height of its box, and the content in the box is scaled to its largest size. -/
theorem frame_attachments_held {es : List M80Event}
    (he : exec (step d) (init font bounds) es = some t) (hplain : ∀ e ∈ es, e.Plain)
    {f : CTFrame} (hf : t.label._textFrame = some f) {u : AttributedUnit} (hu : u ∈ f.string)
    {i : ℕ} (hi : u.attributes.runDelegate = some i) :
    ∃ a ∈ t.label._attachments, a.identity = i ∧
      (∀ b ∈ t.label._attachments, b.identity = i → b = a) ∧
      (a.fontAscent = t.label.font.ascent ∧ a.fontDescent = t.label.font.descent) ∧
      a.ascentCallback + a.descentCallback = a.boxSize.height ∧ a.Scaled := by
  have hok : AttachmentsOK t.label :=
    exec_keeps (P := fun s : M80Screen => AttachmentsOK s.label) (C := Plain)
      (fun _ _ _ h hplain => attachments_step h hplain) (AttachmentsOK.commonInit font bounds)
      hplain he
  have hglyphs := (frameOK_of_exec he).glyphs f hf
  have hmem : glyph u ∈ t.label.attributedString.map glyph := hglyphs ▸ List.mem_map_of_mem hu
  obtain ⟨a, ha, hai⟩ := hok.held _ hmem i hi
  refine ⟨a, ha, hai, ?_, ?_, a.ascent_add_descent, a.scaled⟩
  · intro b hb hbi
    exact List.inj_on_of_nodup_map hok.nodup hb ha (hbi.trans hai.symm)
  · obtain ⟨hascent, hdescent⟩ := hok.measured a ha
    exact ⟨hascent.trans hok.font.1, hdescent.trans hok.font.2⟩

/-- An image behind a text. -/
theorem frame_attachments_held_image :
    ∃ t, exec (step wwwDetection) (init labelFont labelBounds)
        [.setText wwwText, .appendImage ⟨30, 20⟩ ⟨15, 15⟩ ⟨0, 0, 0, 0⟩ .M80ImageAlignmentCenter,
          .drawRect] = some t ∧
      ∃ a ∈ t.label._attachments, a.identity = 0 ∧
        (∀ b ∈ t.label._attachments, b.identity = 0 → b = a) ∧
        (a.fontAscent = t.label.font.ascent ∧ a.fontDescent = t.label.font.descent) ∧
        a.ascentCallback + a.descentCallback = a.boxSize.height ∧ a.Scaled := by
  refine ⟨_, rfl, ?_⟩
  have hplain : ∀ e ∈ [M80Event.setText wwwText,
      .appendImage ⟨30, 20⟩ ⟨15, 15⟩ ⟨0, 0, 0, 0⟩ .M80ImageAlignmentCenter, .drawRect],
      e.Plain := by
    intro e he
    simp only [List.mem_cons, List.not_mem_nil, or_false] at he
    rcases he with rfl | rfl | rfl <;> exact trivial
  have hexec : exec (step wwwDetection) (init labelFont labelBounds)
      [.setText wwwText, .appendImage ⟨30, 20⟩ ⟨15, 15⟩ ⟨0, 0, 0, 0⟩ .M80ImageAlignmentCenter,
        .drawRect] = some _ := rfl
  exact frame_attachments_held hexec hplain rfl
    (u := ⟨objectReplacementChar, { runDelegate := some 0 }⟩) (by decide) rfl

end M80Screen

end RCSdk
