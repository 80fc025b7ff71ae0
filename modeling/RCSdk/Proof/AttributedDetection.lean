import RCSdk.Proof.AttributedDisplay

/-!
# What an attributed label finds in its text

* `quiet_finds` (every order of the steps): when a label that has not looked for links yet comes to
  rest with its text unchanged, every link of the text is there or gave way to one that overlaps it.
* `comes_to_rest`: from every state of a run, a drawing, the blocks on the main queue and one more
  drawing bring the label to rest.
-/

namespace RCSdk

open TextEdits Regions Trans M80Event M80AttributedLabel

/-- The link is there, or another one has units of the text in common with it. -/
def Linked (label : M80AttributedLabel) (u : M80AttributedLabelURL) : Prop :=
  ∃ v ∈ label._linkLocations, v.linkData = u.linkData ∧ v.range = u.range ∨ intersect u v

namespace M80Screen

variable {d : LinkDetection} {s t : M80Screen} {e : M80Event} {font : UIFont}
  {bounds : Grids.Rect ℚ}

/-- Nothing is to be drawn and nothing is on the main queue. -/
def Quiet (s : M80Screen) : Prop := s.label.needsDisplay = false ∧ s.mainQueue = []

/-! ## A text that was not searched is waited for -/

/-- After a drawing, a text that was not searched has a block on the main queue, unless it is short
or is not to be searched. -/
theorem drawRect_queued (h : s.drawRect d = some t) (hauto : t.label.autoDetectLinks = true)
    (hdet : t.label.linkDetected = false)
    (hlen : kMinHttpLinkLength < t.label.text.length) :
    ∃ b ∈ t.mainQueue, b.1 = t.label.text := by
  obtain ⟨u, str, hu, -, rfl⟩ := drawRect_eq_some h
  have hsame := prepareTextFrame_same u.label str
  have hdetu : u.label.linkDetected = false := hsame.detected.symm.trans hdet
  have hautou : u.label.autoDetectLinks = true := by
    rw [← hauto, prepareTextFrame]
    split <;> rfl
  rw [hsame.text] at hlen ⊢
  rcases recompute_cases d { s with label := { s.label with needsDisplay := false } } with
    ⟨heq, hshort⟩ | ⟨-, sync, heq⟩
  · rw [heq] at hu
    subst hu
    have hle := hshort hautou hdetu
    omega
  · rw [heq] at hu
    cases sync with
    | true =>
      rw [computeLink, if_pos rfl, linkBlock_eq] at hu
      rw [hu] at hdetu
      exact absurd hdetu (by simp)
    | false =>
      subst hu
      exact ⟨_, List.mem_append_right _ List.mem_cons_self, rfl⟩

/-- A drawing is the answer to every redraw that was asked for. -/
theorem drawRect_needsDisplay (h : s.drawRect d = some t) :
    t.label.needsDisplay = false := by
  obtain ⟨u, str, hu, -, rfl⟩ := drawRect_eq_some h
  have hn : u.label.needsDisplay = false := by
    rcases recompute_cases d { s with label := { s.label with needsDisplay := false } } with
      ⟨heq, -⟩ | ⟨-, sync, heq⟩
    · rw [hu, heq]
    · rw [hu, heq]
      cases sync with
      | true =>
        rw [computeLink, if_pos rfl, linkBlock_eq]
        simp
      | false => rfl
  rw [← hn, prepareTextFrame]
  split <;> rfl

/-- Only its setter switches the detection. -/
theorem step_autoDetectLinks (h : step d s e = some t) :
    t.label.autoDetectLinks = s.label.autoDetectLinks ∨
      ∃ on, e = .setAutoDetectLinks on ∧ t.label.autoDetectLinks = on := by
  cases e <;> simp only [step, Option.some.injEq] at h
  case setAutoDetectLinks on =>
    subst h
    exact Or.inr ⟨on, rfl, rfl⟩
  all_goals left
  case sizeThatFits =>
    rw [Option.map_eq_some_iff] at h
    obtain ⟨-, -, rfl⟩ := h
    rfl
  case drawRect =>
    obtain ⟨u, str, hu, -, rfl⟩ := drawRect_eq_some h
    have hprep : (u.label.prepareTextFrame str).autoDetectLinks = u.label.autoDetectLinks := by
      rw [prepareTextFrame]
      split <;> rfl
    refine hprep.trans ?_
    rcases recompute_cases d { s with label := { s.label with needsDisplay := false } } with
      ⟨heq, -⟩ | ⟨-, sync, heq⟩
    · rw [hu, heq]
    · rw [hu, heq]
      cases sync with
      | true => rw [computeLink, if_pos rfl, linkBlock_eq]
      | false => rfl
  case mainQueue =>
    subst h
    rw [runMainQueue]
    split
    · rfl
    · split
      · rw [linkBlock_eq]
      · rfl
  case setFont font =>
    subst h
    cases font <;> rw [M80AttributedLabel.setFont]
    split <;> rfl
  case setTextColor color =>
    subst h
    cases color <;> rw [M80AttributedLabel.setTextColor]
    split <;> rfl
  case setHighlightColor color =>
    subst h
    cases color <;> rw [M80AttributedLabel.setHighlightColor]
    split <;> rfl
  case setLinkColor =>
    subst h
    rw [M80AttributedLabel.setLinkColor]
    split <;> rfl
  case setBounds =>
    subst h
    rw [M80AttributedLabel.setBounds]
    split <;> rfl
  case touchesBegan =>
    subst h
    rw [touchesBegan]
    split <;> rfl
  case touchesMoved =>
    subst h
    rw [touchesMoved]
    split <;> rfl
  case touchesCancelled =>
    subst h
    rw [touchesCancelled]
    split <;> rfl
  case touchesEnded =>
    subst h
    rw [touchesEnded, touchesCancelled]
    split <;> rfl
  all_goals
    subst h
    rfl

/-- A text that was not searched is waited for: a redraw is pending, or a block for it is on the
main queue. -/
structure Awaited (d : LinkDetection) (s : M80Screen) : Prop where
  redraw : s.label.ignoreRedraw = false
  auto : s.label.autoDetectLinks = true
  queue : ∀ b ∈ s.mainQueue, b.2 = d.detectLinks b.1
  pending : s.label.linkDetected = false → kMinHttpLinkLength < s.label.text.length →
    s.label.needsDisplay = true ∨ ∃ b ∈ s.mainQueue, b.1 = s.label.text

theorem Awaited.step (h : Awaited d s) (hon : e ≠ .setAutoDetectLinks false)
    (he : M80Screen.step d s e = some t) : Awaited d t := by
  have hqueue : ∀ b ∈ t.mainQueue, b.2 = d.detectLinks b.1 := by
    intro b hb
    rcases (step_queue he).mem b hb with hb | rfl
    · exact h.queue b hb
    · rfl
  have hauto : t.label.autoDetectLinks = true := by
    rcases step_autoDetectLinks he with hsame | ⟨on, rfl, hset⟩
    · exact hsame.trans h.auto
    · cases on with
      | true => exact hset
      | false => exact absurd rfl hon
  have hdisplay := step_display h.redraw he
  have hredraw : t.label.ignoreRedraw = false := by
    cases hdisplay with
    | reset hf hn hr => exact hr
    | restyled style hstyle ht => exact ht ▸ h.redraw
    | marked hl hn => exact hl.redraw.trans h.redraw
    | idle hl hd hn hs => exact hl.redraw.trans h.redraw
    | drawn f hdraw hf hs hu hnew hr => exact hr
  refine ⟨hredraw, hauto, hqueue, fun hdet hlen => ?_⟩
  cases hdisplay with
  | reset hf hn hr => exact Or.inl hn
  | restyled style hstyle ht =>
    subst ht
    exact h.pending hdet hlen
  | marked hl hn => exact Or.inl hn
  | idle hl hd hn hs =>
    have htext : t.label.text = s.label.text := congrArg NSAttributedString.string hl.units
    have hdets : s.label.linkDetected = false := by
      cases hdets : s.label.linkDetected with
      | false => rfl
      | true => exact absurd ((hl.detected hdets).symm.trans hdet) (by simp)
    rw [htext] at hlen ⊢
    rw [hn]
    refine (h.pending hdets hlen).imp_right fun ⟨b, hb, hbt⟩ => ?_
    rcases (step_queue he).kept hb hbt with hb | hdone
    · exact ⟨b, hb, hbt⟩
    · exact absurd (hdone.symm.trans hdet) (by simp)
  | drawn f hdraw hf hs hu hnew hr =>
    subst hdraw
    exact Or.inr (drawRect_queued he hauto hdet hlen)

theorem Awaited.run {es : List M80Event} (h : Awaited d s)
    (hon : .setAutoDetectLinks false ∉ es) (he : exec (M80Screen.step d) s es = some t) :
    Awaited d t := by
  have hne : ∀ e ∈ es, e ≠ .setAutoDetectLinks false := by
    intro e he heq
    exact hon (heq ▸ he)
  exact exec_keeps (C := (· ≠ .setAutoDetectLinks false)) (fun _ _ _ h hne => h.step hne) h hne he

/-! ## What was found -/

theorem Linked.of_append {label label' : M80AttributedLabel} {u : M80AttributedLabelURL}
    {more : List M80AttributedLabelURL} (h : Linked label u)
    (hl : label'._linkLocations = label._linkLocations ++ more) : Linked label' u := by
  obtain ⟨v, hv, huv⟩ := h
  exact ⟨v, hl ▸ List.mem_append_left _ hv, huv⟩

/-- A round of found links leaves none of them out. -/
theorem linked_of_insertAll {label label' : M80AttributedLabel}
    {links : List M80AttributedLabelURL}
    (hl : label'._linkLocations =
      insertAll intersect label._linkLocations (links.map label.asAdded)) :
    ∀ u ∈ links, Linked label' u := by
  intro u hu
  have htaken : Taken intersect label'._linkLocations (label.asAdded u) := by
    rw [hl]
    exact insertAll_covered _ (List.mem_map_of_mem hu)
  rcases htaken with hmem | ⟨v, hv, huv⟩
  · exact ⟨_, hmem, Or.inl ⟨rfl, rfl⟩⟩
  · exact ⟨v, hv, Or.inr huv⟩

/-- If the text was searched, every link found in it is there or gave way. -/
def Searched (d : LinkDetection) (s : M80Screen) : Prop :=
  s.label.linkDetected = true → ∀ u ∈ d.detectLinks s.label.text, Linked s.label u

theorem Searched.step (h : Searched d s) (hq : ∀ b ∈ s.mainQueue, b.2 = d.detectLinks b.1)
    (hk : e.KeepsText) (he : M80Screen.step d s e = some t) :
    t.label.text = s.label.text ∧ Searched d t := by
  cases step_links he with
  | cleared hk' => exact absurd hk hk'
  | grown hk' => exact absurd hk hk'
  | added v hp ht hl hd =>
    refine ⟨ht, fun hdet u hu => ?_⟩
    rw [ht] at hu
    exact Linked.of_append (h (hd.symm.trans hdet) u hu) hl
  | found links hp hf ht hl hd =>
    refine ⟨ht, fun _ u hu => ?_⟩
    have hlinks : links = d.detectLinks s.label.text := by
      rcases hf with hf | hf
      · exact hf
      · exact hq _ hf
    rw [ht, ← hlinks] at hu
    exact linked_of_insertAll hl u hu
  | kept hp ht hl hd =>
    refine ⟨ht, fun hdet u hu => ?_⟩
    rw [ht] at hu
    have hnil : t.label._linkLocations = s.label._linkLocations ++ [] := by
      rw [hl, List.append_nil]
    exact Linked.of_append (h (hd.symm.trans hdet) u hu) hnil

theorem Searched.run {es : List M80Event} (h : Searched d s) (ha : Awaited d s)
    (hon : .setAutoDetectLinks false ∉ es) (hk : ∀ e ∈ es, e.KeepsText)
    (he : exec (M80Screen.step d) s es = some t) :
    t.label.text = s.label.text ∧ Searched d t := by
  induction es generalizing s with
  | nil =>
    simp only [exec, Option.some.injEq] at he
    exact he ▸ ⟨rfl, h⟩
  | cons e es ih =>
    simp only [exec, Option.bind_eq_some_iff] at he
    obtain ⟨u, hu, he⟩ := he
    have hne : e ≠ .setAutoDetectLinks false := fun h => hon (h ▸ List.mem_cons_self)
    have hstep := h.step ha.queue (hk e List.mem_cons_self) hu
    have hrest := ih hstep.2 (ha.step hne hu) (fun h => hon (List.mem_cons_of_mem _ h))
      (fun e he => hk e (List.mem_cons_of_mem _ he)) he
    exact ⟨hrest.1.trans hstep.1, hrest.2⟩

/-- A drawing, all that is on the main queue after it, and one more drawing. -/
def settling (s : M80Screen) : List M80Event :=
  .drawRect :: (List.replicate (s.mainQueue.length + 1) .mainQueue ++ [.drawRect])

/-- A text that is to be searched has a block on the main queue. -/
def Queued (s : M80Screen) : Prop :=
  s.label.autoDetectLinks = true → s.label.linkDetected = false →
    kMinHttpLinkLength < s.label.text.length → ∃ b ∈ s.mainQueue, b.1 = s.label.text

theorem runMainQueue_tail (s : M80Screen) : s.runMainQueue.mainQueue = s.mainQueue.tail := by
  rw [runMainQueue]
  split
  · rename_i hq
    rw [hq, List.tail_nil]
  · rename_i hq
    rw [hq, List.tail_cons]

theorem Queued.mainQueue (h : Queued s) (he : M80Screen.step d s .mainQueue = some t) :
    Queued t := by
  intro hauto hdet hlen
  have htext : t.label.text = s.label.text := (step_links he).text_eq trivial
  have hautos : s.label.autoDetectLinks = true := by
    rcases step_autoDetectLinks he with hsame | ⟨on, hset, -⟩
    · exact hsame.symm.trans hauto
    · exact absurd hset (by simp)
  have hdets : s.label.linkDetected = false := by
    cases step_links he with
    | cleared hk => exact absurd trivial hk
    | grown hk => exact absurd trivial hk
    | added v hp ht hl hd => exact hd.symm.trans hdet
    | found links hp hf ht hl hd => exact absurd (hd.symm.trans hdet) (by simp)
    | kept hp ht hl hd => exact hd.symm.trans hdet
  rw [htext] at hlen ⊢
  obtain ⟨b, hb, hbt⟩ := h hautos hdets hlen
  rcases (step_queue he).kept hb hbt with hb | hdone
  · exact ⟨b, hb, hbt⟩
  · exact absurd (hdone.symm.trans hdet) (by simp)

/-- The main queue runs empty, and nothing that waits on it is forgotten. -/
theorem exec_mainQueue (d : LinkDetection) (n : ℕ) (h : Queued s) (hn : s.mainQueue.length ≤ n) :
    ∃ t, exec (M80Screen.step d) s (List.replicate n .mainQueue) = some t ∧ t.mainQueue = [] ∧
      Queued t := by
  induction n generalizing s with
  | zero =>
    have hnil : s.mainQueue = [] := List.eq_nil_of_length_eq_zero (by omega)
    exact ⟨s, rfl, hnil, h⟩
  | succ n ih =>
    have hstep : M80Screen.step d s .mainQueue = some s.runMainQueue := rfl
    have hlen : s.runMainQueue.mainQueue.length ≤ n := by
      rw [runMainQueue_tail, List.length_tail]
      omega
    obtain ⟨t, ht, hnil, hq⟩ := ih (h.mainQueue hstep) hlen
    refine ⟨t, ?_, hnil, hq⟩
    rw [List.replicate_succ, exec, hstep, Option.bind_some, ht]

/-- A drawing after which nothing new is on the main queue. -/
theorem drawRect_mainQueue (h : Queued s) (hnil : s.mainQueue = []) (he : s.drawRect d = some t) :
    t.mainQueue = [] := by
  obtain ⟨u, str, hu, -, rfl⟩ := drawRect_eq_some he
  rcases recompute_cases d { s with label := { s.label with needsDisplay := false } } with
    ⟨heq, -⟩ | ⟨⟨hauto, hdet, hlen⟩, -⟩
  · rw [heq] at hu
    rw [hu]
    exact hnil
  · obtain ⟨b, hb, -⟩ := h hauto hdet hlen
    rw [hnil] at hb
    exact absurd hb List.not_mem_nil

theorem exists_drawRect {ps : List (Option LinkData × NSRange)} (hd : d.Sound)
    (h : LinksOK d ps s) (hfit : ∀ p ∈ ps, Fits p.2) :
    ∃ t, M80Screen.step d s .drawRect = some t ∧ LinksOK d ps t := by
  cases hs : M80Screen.step d s .drawRect with
  | none =>
    obtain ⟨-, p, hp, hw⟩ := (h.step_eq_none_iff hd).1 hs
    exact absurd hw ((hfit p hp).not_wraps _)
  | some t => exact ⟨t, rfl, h.linkStep hd (step_links hs) (step_queue hs)⟩

/-- **A label comes to rest**: from every state of a run in which the ranges of the program end in
64 bits, a drawing, what is then on the main queue and one more drawing go through and leave nothing
to be drawn and nothing on the main queue. -/
theorem comes_to_rest (hd : d.Sound) {es : List M80Event}
    (he : exec (M80Screen.step d) (init font bounds) es = some s)
    (hfit : ∀ p ∈ programLinks es, Fits p.2) :
    ∃ t, exec (M80Screen.step d) s s.settling = some t ∧ t.Quiet := by
  obtain ⟨s₁, h₁, hl₁⟩ := exists_drawRect hd (linksOK_of_exec hd he) hfit
  have hq₁ : Queued s₁ := fun hauto hdet hlen => drawRect_queued h₁ hauto hdet hlen
  have hlen : s₁.mainQueue.length ≤ s.mainQueue.length + 1 := by
    cases step_queue h₁ with
    | same hq => rw [hq]; omega
    | queued hq => simp [hq]
    | ran b hq hd' => rw [hq, List.length_cons]; omega
  obtain ⟨s₂, h₂, hnil, hq₂⟩ := exec_mainQueue d _ hq₁ hlen
  have hl₂ : LinksOK d (programLinks es) s₂ := by
    have hrun := hl₁.run hd h₂
    have hps : ∀ n, (List.replicate n M80Event.mainQueue).foldl programLink (programLinks es) =
        programLinks es := by
      intro n
      induction n with
      | zero => rfl
      | succ n ih => rw [List.replicate_succ, List.foldl_cons]; exact ih
    rwa [hps] at hrun
  obtain ⟨t, ht, -⟩ := exists_drawRect hd hl₂ hfit
  refine ⟨t, ?_, drawRect_needsDisplay ht, drawRect_mainQueue hq₂ hnil ht⟩
  rw [settling, exec, h₁, Option.bind_some, exec_append, h₂, Option.bind_some, exec, ht]
  rfl

/-- With a link of the program beyond the end of the text. -/
theorem comes_to_rest_www :
    ∃ s t, exec (M80Screen.step wwwDetection) (init labelFont labelBounds)
        [.setText wwwText, .addCustomLink none ⟨100, 5⟩] = some s ∧
      exec (M80Screen.step wwwDetection) s s.settling = some t ∧ t.Quiet := by
  have hfit : ∀ p ∈ programLinks [.setText wwwText, .addCustomLink none ⟨100, 5⟩],
      Fits p.2 := by
    intro p hp
    have hp : p = (none, ⟨100, 5⟩) := by simpa [programLinks, programLink] using hp
    rw [hp]
    simp [Fits]
  have hexec : exec (M80Screen.step wwwDetection) (init labelFont labelBounds)
      [.setText wwwText, .addCustomLink none ⟨100, 5⟩] = some _ := rfl
  obtain ⟨t, ht, hquiet⟩ := comes_to_rest wwwDetection_sound hexec hfit
  exact ⟨_, t, rfl, ht, hquiet⟩

end M80Screen

end RCSdk
