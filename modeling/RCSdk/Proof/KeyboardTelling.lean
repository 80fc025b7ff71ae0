import Mathlib.Tactic.Linarith
import Mathlib.Tactic.NormNum
import RCSdk.Proof.KeyboardAvoidance
import RCSdk.Spec.YYKeyboardManager

/-!
# The observers hear of the last keyboard, and of no passing one

The run loop performs what it was asked for in any order, and the manager takes requests back.

* `told_last_of_run`: when nothing is asked for any more, the last the observers were told is the
  last frame the system told of.
* `told_steady_of_run`: they are told a frame above the bottom of the screen after the keyboard has
  been there for 0.3 seconds, and once.
* `pop_settles`: a pop-up ends up where the last keyboard wants it, if that covers its box or is put
  away.
-/

namespace RCSdk

open Grids Trans

/-- The frame an event tells of. -/
def KeyboardEvent.frame : KeyboardEvent → Option (Rect ℚ)
  | .keyboardFrameWillChange after _ _ _ | .keyboardFrameDidChange after =>
    if after.width ≤ 0 ∧ after.height ≤ 0 then none else some after
  | .keyboardFrameChanged frame => some frame
  | .perform _ _ | .wait _ => none

namespace YYKeyboardManager

/-- The last frame the system told of. -/
def lastFrame (h : List (YYKeyboardManager × KeyboardEvent)) : Option (Rect ℚ) :=
  (h.filterMap (·.2.frame)).getLast?

/-- The frame a notification of the observers goes to. -/
def latestFrame (m : YYKeyboardManager) : Rect ℚ :=
  if m._lastIsNotification then m._notificationToFrame else m._observedToFrame

/-- The run loop is asked to perform it. -/
def Asked (m : YYKeyboardManager) (selector : PerformSelector) : Prop :=
  ∃ r ∈ m.requests, r.selector = selector

variable {SCREEN_HEIGHT : ℚ} {m s₀ s t : YYKeyboardManager}
  {h h₀ : List (YYKeyboardManager × KeyboardEvent)}

/-! ## One step -/

theorem transition_toFrame (m : YYKeyboardManager) (window : Option (Rect ℚ)) :
    (m.transition window).toFrame = m.latestFrame := by
  unfold transition latestFrame
  cases hlast : m._lastIsNotification with
  | true => rfl
  | false =>
    by_cases hsame : (m._hasObservedChange && m._observedToFrame == m._notificationToFrame) = true
    · -- both frames are the same one
      have heq : m._observedToFrame = m._notificationToFrame := by
        simpa using (Bool.and_eq_true_iff.1 hsame).2
      simp [heq]
    · simp only [Bool.false_or, Bool.false_eq_true, if_false, if_neg hsame]

/-- What notifying the observers asks the run loop for. -/
def requestsAfter (SCREEN_HEIGHT : ℚ) (m : YYKeyboardManager) (window : Option (Rect ℚ)) :
    List PerformRequest :=
  if m.latestFrame = m.startFrame window then m.requests
  else if m.latestFrame.y = SCREEN_HEIGHT then m.requests ++ [⟨.keyboardChange, m.now⟩]
  else [⟨.keyboardChange, m.now + 3 / 10⟩]

/-- **What notifying the observers does.** -/
structure Notified (SCREEN_HEIGHT : ℚ) (m : YYKeyboardManager) (window : Option (Rect ℚ))
    (t : YYKeyboardManager) : Prop where
  fromFrame : t._fromFrame = m.latestFrame
  trans : t._trans.toFrame = m.latestFrame
  latest : t.latestFrame = m.latestFrame
  requests : t.requests = requestsAfter SCREEN_HEIGHT m window
  now : t.now = m.now
  told : t.told = m.told

theorem notifyAllObservers_spec (m : YYKeyboardManager) (window : Option (Rect ℚ)) :
    Notified SCREEN_HEIGHT m window (m._notifyAllObservers SCREEN_HEIGHT window) := by
  have hto := transition_toFrame m window
  simp only [_notifyAllObservers, hto]
  by_cases hsame : m.latestFrame = m.startFrame window
  · have hrequests : m.requests = requestsAfter SCREEN_HEIGHT m window := by
      rw [requestsAfter, if_pos hsame]
    rw [if_neg (not_not.2 hsame)]
    exact ⟨rfl, hto, rfl, hrequests, rfl, rfl⟩
  · rw [if_pos hsame]
    by_cases hbottom : m.latestFrame.y = SCREEN_HEIGHT
    · have hrequests : m.requests ++ [⟨.keyboardChange, m.now + 0⟩] =
          requestsAfter SCREEN_HEIGHT m window := by
        rw [requestsAfter, if_neg hsame, if_pos hbottom, add_zero]
      rw [if_pos hbottom]
      exact ⟨rfl, hto, rfl, hrequests, rfl, rfl⟩
    · have hrequests : [] ++ [⟨.keyboardChange, m.now + 3 / 10⟩] =
          requestsAfter SCREEN_HEIGHT m window := by
        rw [requestsAfter, if_neg hsame, if_neg hbottom, List.nil_append]
      rw [if_neg hbottom]
      exact ⟨rfl, hto, rfl, hrequests, rfl, rfl⟩

/-- The manager has noted a frame and waits for no notification any more. -/
structure Noted (s : YYKeyboardManager) (frame : Rect ℚ) (m : YYKeyboardManager) : Prop where
  latest : m.latestFrame = frame
  fromFrame : m._fromFrame = s._fromFrame
  trans : m._trans = s._trans
  requests : m.requests = s.requests.filter (·.selector ≠ ._notifyAllObservers)
  now : m.now = s.now
  told : m.told = s.told

/-- **What a step can do**, with the frame it is told of. -/
inductive Steps (SCREEN_HEIGHT : ℚ) (s : YYKeyboardManager) :
    Option (Rect ℚ) → YYKeyboardManager → Prop
  | asked {frame : Rect ℚ} {m : YYKeyboardManager} : Noted s frame m →
      Steps SCREEN_HEIGHT s (some frame) (m.performAfter ._notifyAllObservers 0)
  | atOnce {frame : Rect ℚ} {m t : YYKeyboardManager} {window : Option (Rect ℚ)} :
      Noted s frame m → Notified SCREEN_HEIGHT m window t → Steps SCREEN_HEIGHT s (some frame) t
  | noticed {r : PerformRequest} {t : YYKeyboardManager} {window : Option (Rect ℚ)} :
      r ∈ s.requests → r.selector = ._notifyAllObservers →
      Notified SCREEN_HEIGHT { s with requests := s.requests.erase r } window t →
      Steps SCREEN_HEIGHT s none t
  | told {r : PerformRequest} : r ∈ s.requests → r.selector = .keyboardChange →
      Steps SCREEN_HEIGHT s none
        { s with requests := s.requests.erase r, told := s.told ++ [s._trans] }
  | idle {seconds : ℚ} : 0 ≤ seconds →
      Steps SCREEN_HEIGHT s none { s with now := s.now + seconds }

theorem Steps.refl (s : YYKeyboardManager) : Steps SCREEN_HEIGHT s none s := by
  have h : Steps SCREEN_HEIGHT s none { s with now := s.now + 0 } := .idle (le_refl 0)
  simpa using h

theorem steps_of_step {e : KeyboardEvent} (hs : s.step SCREEN_HEIGHT e = some t) :
    Steps SCREEN_HEIGHT s e.frame t := by
  cases e with
  | keyboardFrameWillChange after curve duration window =>
    obtain rfl := Option.some.inj hs
    unfold _keyboardFrameWillChange
    simp only [KeyboardEvent.frame]
    split_ifs with hzero hduration
    · exact .refl s
    · exact .asked ⟨rfl, rfl, rfl, rfl, rfl, rfl⟩
    · refine .atOnce ?_ (notifyAllObservers_spec _ window)
      exact ⟨rfl, rfl, rfl, rfl, rfl, rfl⟩
  | keyboardFrameDidChange after =>
    obtain rfl := Option.some.inj hs
    unfold _keyboardFrameDidChange
    simp only [KeyboardEvent.frame]
    split_ifs with hzero
    · exact .refl s
    · exact .asked ⟨rfl, rfl, rfl, rfl, rfl, rfl⟩
  | keyboardFrameChanged frame =>
    obtain rfl := Option.some.inj hs
    exact .asked ⟨rfl, rfl, rfl, rfl, rfl, rfl⟩
  | perform r window =>
    simp only [step, perform] at hs
    split_ifs at hs with hdue
    cases hr : r.selector with
    | _notifyAllObservers =>
      rw [hr] at hs
      obtain rfl := Option.some.inj hs
      exact .noticed hdue.1 hr (notifyAllObservers_spec _ window)
    | keyboardChange =>
      rw [hr] at hs
      obtain rfl := Option.some.inj hs
      exact .told hdue.1 hr
  | wait seconds =>
    simp only [step] at hs
    split_ifs at hs with hpos
    obtain rfl := Option.some.inj hs
    exact .idle hpos

/-! ## What is asked for -/

theorem asked_filter_iff {selector : PerformSelector} (h : selector ≠ ._notifyAllObservers)
    {m : YYKeyboardManager} {frame : Rect ℚ} (hm : Noted s frame m) :
    m.Asked selector ↔ s.Asked selector := by
  unfold Asked
  rw [hm.requests]
  constructor
  · rintro ⟨r, hr, rfl⟩
    exact ⟨r, (List.mem_filter.1 hr).1, rfl⟩
  · rintro ⟨r, hr, rfl⟩
    exact ⟨r, List.mem_filter.2 ⟨hr, by simpa using h⟩, rfl⟩

/-- A request performed leaves those for other selectors. -/
theorem asked_erase {selector : PerformSelector} {r : PerformRequest} (h : r.selector ≠ selector)
    (hs : s.Asked selector) : ∃ r' ∈ s.requests.erase r, r'.selector = selector := by
  obtain ⟨r', hr', rfl⟩ := hs
  refine ⟨r', (List.mem_erase_of_ne ?_).2 hr', rfl⟩
  rintro rfl
  exact h rfl

/-! ## The last frame is told -/

/-- What the observers were told since a moment. -/
def toldSince (s₀ s : YYKeyboardManager) : List (Rect ℚ) :=
  (s.told.drop s₀.told.length).map (·.toFrame)

/-- The manager's frame waits to be told, or it was told, or it is the one from before. -/
def Telling (s₀ s : YYKeyboardManager) : Prop :=
  s.Asked .keyboardChange ∨ s._fromFrame.height = 0 ∨
    (toldSince s₀ s).getLast? = some s._fromFrame ∨
    (toldSince s₀ s = [] ∧ s._fromFrame = s₀._fromFrame)

/-- **A frame the system told of is on its way to the observers**: it waits to be noticed, or it is
the manager's and waits to be told, or it was told. -/
structure OnItsWay (s₀ : YYKeyboardManager) (last : Option (Rect ℚ)) (s : YYKeyboardManager) :
    Prop where
  trans : s._trans.toFrame = s._fromFrame
  latest : ∀ frame, last = some frame → s.latestFrame = frame
  noticed : s.Asked ._notifyAllObservers ∨ last = none ∨ s._fromFrame = s.latestFrame
  log : s₀.told <+: s.told
  telling : Telling s₀ s

theorem Telling.congr (hs : Telling s₀ s)
    (hasked : s.Asked .keyboardChange → t.Asked .keyboardChange)
    (hfrom : t._fromFrame = s._fromFrame) (htold : t.told = s.told) : Telling s₀ t := by
  have hsince : toldSince s₀ t = toldSince s₀ s := by rw [toldSince, htold, toldSince]
  unfold Telling at hs ⊢
  rw [hfrom, hsince]
  exact hs.imp_left hasked

/-- What a notification of the observers leaves to be told. -/
theorem Notified.told_cases {window : Option (Rect ℚ)}
    (hn : Notified SCREEN_HEIGHT m window t) :
    t.Asked .keyboardChange ∨ t._fromFrame.height = 0 ∨
      (t._fromFrame = m._fromFrame ∧ t.requests = m.requests) := by
  rw [Asked, hn.requests, hn.fromFrame, requestsAfter]
  by_cases hsame : m.latestFrame = m.startFrame window
  · right
    rw [if_pos hsame, hsame, startFrame]
    split_ifs
    · exact Or.inl rfl
    · exact Or.inr ⟨rfl, rfl⟩
  · left
    rw [if_neg hsame]
    split_ifs
    · exact ⟨_, List.mem_append_right _ (List.mem_singleton_self _), rfl⟩
    · exact ⟨_, List.mem_singleton_self _, rfl⟩

theorem OnItsWay.of_notified {last : Option (Rect ℚ)} {window : Option (Rect ℚ)}
    (hlatest : ∀ frame, last = some frame → m.latestFrame = frame) (hlog : s₀.told <+: m.told)
    (htelling : Telling s₀ m) (hn : Notified SCREEN_HEIGHT m window t) : OnItsWay s₀ last t where
  trans := hn.trans.trans hn.fromFrame.symm
  latest frame hframe := hn.latest.trans (hlatest frame hframe)
  noticed := Or.inr (Or.inr (hn.fromFrame.trans hn.latest.symm))
  log := hn.told ▸ hlog
  telling := by
    rcases hn.told_cases with hasked | hheight | ⟨hfrom, hrequests⟩
    · exact Or.inl hasked
    · exact Or.inr (Or.inl hheight)
    · refine htelling.congr (fun hasked => ?_) hfrom hn.told
      unfold Asked at hasked ⊢
      rwa [hrequests]

/-- The observers are told the manager's frame. -/
theorem toldSince_append (hlog : s₀.told <+: s.told) (trans : YYKeyboardTransition)
    (htold : t.told = s.told ++ [trans]) :
    toldSince s₀ t = toldSince s₀ s ++ [trans.toFrame] := by
  rw [toldSince, htold, List.drop_append_of_le_length hlog.length_le, List.map_append]
  rfl

/-- **Every step keeps it so.** -/
theorem OnItsWay.step {last frame : Option (Rect ℚ)} (hs : OnItsWay s₀ last s)
    (hstep : Steps SCREEN_HEIGHT s frame t) : OnItsWay s₀ (frame.or last) t := by
  cases hstep with
  | @asked frame m hm =>
    have hasked : s.Asked .keyboardChange →
        (m.performAfter ._notifyAllObservers 0).Asked .keyboardChange := fun h => by
      obtain ⟨r, hr, hsel⟩ := (asked_filter_iff (by decide) hm).2 h
      exact ⟨r, List.mem_append_left _ hr, hsel⟩
    refine ⟨?_, fun f hf => ?_, Or.inl ?_, ?_, hs.telling.congr hasked hm.fromFrame hm.told⟩
    · change m._trans.toFrame = m._fromFrame
      rw [hm.trans, hm.fromFrame, hs.trans]
    · rw [← Option.some.inj hf]
      exact hm.latest
    · exact ⟨_, List.mem_append_right _ (List.mem_singleton_self _), rfl⟩
    · change s₀.told <+: m.told
      rw [hm.told]
      exact hs.log
  | @atOnce frame m t window hm hn =>
    refine .of_notified (fun f hf => ?_) (hm.told ▸ hs.log) ?_ hn
    · rw [← Option.some.inj hf]
      exact hm.latest
    · exact hs.telling.congr (asked_filter_iff (by decide) hm).2 hm.fromFrame hm.told
  | @noticed r t window hmem hr hn =>
    refine .of_notified ?_ ?_ ?_ hn
    · exact hs.latest
    · exact hs.log
    · exact hs.telling.congr (asked_erase (by rw [hr]; decide)) rfl rfl
  | @told r hmem hr =>
    have hsince := fun t => toldSince_append (t := t) hs.log s._trans
    refine ⟨hs.trans, hs.latest, ?_, hs.log.trans (List.prefix_append _ _), ?_⟩
    · exact hs.noticed.imp_left (asked_erase (by rw [hr]; decide))
    · refine Or.inr (Or.inr (Or.inl ?_))
      rw [hsince _ rfl, List.getLast?_append_of_ne_nil _ (by simp), hs.trans]
      rfl
  | @idle seconds hpos => exact ⟨hs.trans, hs.latest, hs.noticed, hs.log, hs.telling⟩

theorem lastFrame_append (h : List (YYKeyboardManager × KeyboardEvent)) (s : YYKeyboardManager)
    (e : KeyboardEvent) : lastFrame (h ++ [(s, e)]) = e.frame.or (lastFrame h) := by
  unfold lastFrame
  rw [List.filterMap_append, List.getLast?_append]
  cases hf : e.frame <;> simp [hf]

/-- Over a run, from a moment when the manager had settled on a frame. -/
theorem onItsWay_of_run (hr : Run (step SCREEN_HEIGHT) s₀ h s)
    (hs₀ : s₀._trans.toFrame = s₀._fromFrame) : OnItsWay s₀ (lastFrame h) s := by
  induction hr with
  | nil =>
    exact ⟨hs₀, by simp [lastFrame], Or.inr (Or.inl rfl), List.prefix_refl _,
      Or.inr (Or.inr (Or.inr ⟨by simp [toldSince], rfl⟩))⟩
  | snoc hr hstep ih =>
    rw [lastFrame_append]
    exact ih.step (steps_of_step hstep)

/-- Where nothing is asked for any more, the last frame was told. -/
theorem OnItsWay.settled {frame : Rect ℚ} (hs : OnItsWay s₀ (some frame) s)
    (hmoved : frame ≠ s₀._fromFrame) (hheight : frame.height ≠ 0) (hdone : s.requests = []) :
    (toldSince s₀ s).getLast? = some frame := by
  have hnone : ∀ selector, ¬ s.Asked selector := fun selector => by
    rintro ⟨r, hr, -⟩
    rw [hdone] at hr
    exact List.not_mem_nil hr
  have hfrom : s._fromFrame = frame := by
    rcases hs.noticed with h | h | h
    · exact absurd h (hnone _)
    · cases h
    · rw [h, hs.latest frame rfl]
  rcases hs.telling with h | h | h | h
  · exact absurd h (hnone _)
  · exact absurd (hfrom ▸ h) hheight
  · rw [h, hfrom]
  · exact absurd (hfrom ▸ h.2) hmoved

/-- **When nothing is asked for any more, the observers were last told the last frame the system
told of**, if it is another one than at the start and has a height. -/
theorem told_last_of_run (hr₀ : Run (step SCREEN_HEIGHT) _init h₀ s₀)
    (hr : Run (step SCREEN_HEIGHT) s₀ h s) {frame : Rect ℚ} (hlast : lastFrame h = some frame)
    (hmoved : frame ≠ s₀._fromFrame) (hheight : frame.height ≠ 0) (hdone : s.requests = []) :
    (toldSince s₀ s).getLast? = some frame := by
  have hs := onItsWay_of_run hr (onItsWay_of_run hr₀ rfl).trans
  rw [hlast] at hs
  exact hs.settled hmoved hheight hdone

/-- **A pop-up shown at any moment ends up where the last keyboard wants it**, if that covers its
box or is put away, whatever was told of in between. -/
theorem pop_settles (hr₀ : Run (step SCREEN_HEIGHT) _init h₀ s₀)
    (hr : Run (step SCREEN_HEIGHT) s₀ h s) {frame : Rect ℚ} (hlast : lastFrame h = some frame)
    (hmoved : frame ≠ s₀._fromFrame) (hheight : frame.height ≠ 0) (hdone : s.requests = [])
    (v : PopBaseView) (convertRect : Rect ℚ → Rect ℚ)
    (hreach : v.Covers convertRect frame ∨ (convertRect frame).y = SCREEN_HEIGHT) :
    PopBaseView.Avoids convertRect
      (v.afterKeyboards SCREEN_HEIGHT convertRect (toldSince s₀ s)) frame := by
  have hs := onItsWay_of_run hr (onItsWay_of_run hr₀ rfl).trans
  rw [hlast] at hs
  obtain ⟨before, hbefore⟩ := List.getLast?_eq_some_iff.1 (hs.settled hmoved hheight hdone)
  rw [hbefore, PopBaseView.afterKeyboards_append, PopBaseView.avoids_keyboardChanged_iff]
  rcases hreach with hcovers | hdown
  · left
    unfold PopBaseView.Covers at hcovers ⊢
    rwa [PopBaseView.boxBottom_afterKeyboards]
  · exact Or.inr (Or.inl hdown)

/-- A keyboard that gets taller before it is told of. -/
def tallerEvents : List KeyboardEvent :=
  [.keyboardFrameWillChange ⟨0, 400, 375, 267⟩ 7 (1 / 4) (some ⟨0, 0, 375, 667⟩), .wait (1 / 10),
    .keyboardFrameDidChange ⟨0, 350, 375, 317⟩,
    .perform ⟨._notifyAllObservers, 1 / 10⟩ (some ⟨0, 0, 375, 667⟩), .wait (1 / 2),
    .perform ⟨.keyboardChange, 4 / 10⟩ none]

/-- The state after them. -/
def afterTaller : YYKeyboardManager := ((exec (step 667) _init tallerEvents).getD _init)

theorem exec_taller : exec (step 667) _init tallerEvents = some afterTaller := by
  have hsome : (exec (step 667) _init tallerEvents).isSome = true := by decide +kernel
  obtain ⟨t, ht⟩ := Option.isSome_iff_exists.1 hsome
  rw [afterTaller, ht]
  rfl

/-- Only the taller keyboard is told. -/
theorem told_last_taller :
    (toldSince _init afterTaller).getLast? = some ⟨0, 350, 375, 317⟩ :=
  told_last_of_run .nil (run_of_exec tallerEvents exec_taller) (by decide +kernel)
    (by decide +kernel) (by norm_num) (by decide +kernel)

/-- The pop-up is moved for the taller keyboard. -/
theorem pop_settles_taller :
    PopBaseView.Avoids id
      (PopBaseView.shownPop.afterKeyboards 667 id (toldSince _init afterTaller))
      ⟨0, 350, 375, 317⟩ :=
  pop_settles .nil (run_of_exec tallerEvents exec_taller) (by decide +kernel) (by decide +kernel)
    (by norm_num) (by decide +kernel) PopBaseView.shownPop id
    (Or.inl (by rw [PopBaseView.Covers, PopBaseView.boxBottom_shownPop]; norm_num))

/-! ## No passing frame is told -/

/-- What waits to be told. -/
def changes (m : YYKeyboardManager) : List PerformRequest :=
  m.requests.filter (·.selector = .keyboardChange)

/-- A keyboard that is above the bottom of the screen. -/
def Above (SCREEN_HEIGHT : ℚ) (frame : Rect ℚ) : Prop :=
  frame.y ≠ SCREEN_HEIGHT ∧ frame.height ≠ 0

/-- A keyboard above the bottom waits to be told once, and for 0.3 seconds since the keyboard was
elsewhere. -/
def Waits (SCREEN_HEIGHT : ℚ) (h : List (YYKeyboardManager × KeyboardEvent))
    (s : YYKeyboardManager) : Prop :=
  Above SCREEN_HEIGHT s._fromFrame → s.changes.length ≤ 1 ∧
    ∀ r ∈ s.changes, ∀ q ∈ h, q.1._fromFrame ≠ s._fromFrame → q.1.now + 3 / 10 ≤ r.due

theorem Waits.of_same {e : KeyboardEvent} (hs : Waits SCREEN_HEIGHT h s)
    (hfrom : t._fromFrame = s._fromFrame) (hchanges : t.changes.Sublist s.changes) :
    Waits SCREEN_HEIGHT (h ++ [(s, e)]) t := by
  intro habove
  rw [hfrom] at habove ⊢
  obtain ⟨honce, hdue⟩ := hs habove
  refine ⟨hchanges.length_le.trans honce, fun r hr q hq hne => ?_⟩
  rcases List.mem_append.1 hq with hq | hq
  · exact hdue r (hchanges.subset hr) q hq hne
  · rw [List.mem_singleton.1 hq] at hne
    exact absurd rfl hne

/-- A notification of the observers starts the waiting anew, or changes nothing. -/
theorem Waits.of_notified {e : KeyboardEvent} {window : Option (Rect ℚ)}
    (hm : Waits SCREEN_HEIGHT h m) (hpast : ∀ q ∈ h, q.1.now ≤ m.now)
    (hfrom : m._fromFrame = s._fromFrame) (hnow : m.now = s.now)
    (hn : Notified SCREEN_HEIGHT m window t) : Waits SCREEN_HEIGHT (h ++ [(s, e)]) t := by
  intro habove
  have habove' := habove
  rw [hn.fromFrame] at habove'
  unfold changes
  rw [hn.requests, requestsAfter]
  by_cases hsame : m.latestFrame = m.startFrame window
  · rw [if_pos hsame]
    -- a made-up frame has no height
    have hstart : m.startFrame window = m._fromFrame := by
      unfold startFrame
      split_ifs with hfirst
      · rw [hsame, startFrame, if_pos hfirst] at habove'
        exact absurd rfl habove'.2
      · rfl
    have hkept : t._fromFrame = m._fromFrame := hn.fromFrame.trans (hsame.trans hstart)
    rw [hkept] at habove ⊢
    obtain ⟨honce, hdue⟩ := hm habove
    refine ⟨honce, fun r hr q hq hne => ?_⟩
    rcases List.mem_append.1 hq with hq | hq
    · exact hdue r hr q hq hne
    · rw [List.mem_singleton.1 hq] at hne
      exact absurd hfrom.symm hne
  · rw [if_neg hsame, if_neg habove'.1]
    refine ⟨by simp, fun r hr q hq _ => ?_⟩
    have hr : r = ⟨.keyboardChange, m.now + 3 / 10⟩ := by simpa using hr
    have hq : q.1.now ≤ m.now := by
      rcases List.mem_append.1 hq with hq | hq
      · exact hpast q hq
      · rw [List.mem_singleton.1 hq, hnow]
    rw [hr]
    linarith

theorem Noted.changes_eq {frame : Rect ℚ} (hm : Noted s frame m) : m.changes = s.changes := by
  unfold changes
  rw [hm.requests, List.filter_filter]
  refine List.filter_congr fun r _ => ?_
  cases r.selector <;> rfl

theorem changes_erase (s : YYKeyboardManager) (r : PerformRequest) :
    ({ s with requests := s.requests.erase r } : YYKeyboardManager).changes = s.changes.erase r :=
  List.erase_filter.symm

/-- Along a run, time goes on and the keyboards above the bottom wait. -/
structure Steady (SCREEN_HEIGHT : ℚ) (h : List (YYKeyboardManager × KeyboardEvent))
    (s : YYKeyboardManager) : Prop where
  past : ∀ q ∈ h, q.1.now ≤ s.now
  waits : Waits SCREEN_HEIGHT h s

theorem past_append {e : KeyboardEvent} (hpast : ∀ q ∈ h, q.1.now ≤ s.now) (hnow : s.now ≤ t.now) :
    ∀ q ∈ h ++ [(s, e)], q.1.now ≤ t.now := by
  intro q hq
  rcases List.mem_append.1 hq with hq | hq
  · exact (hpast q hq).trans hnow
  · rw [List.mem_singleton.1 hq]
    exact hnow

/-- **Every step keeps it so.** -/
theorem Steady.step {e : KeyboardEvent} {frame : Option (Rect ℚ)} (hs : Steady SCREEN_HEIGHT h s)
    (hstep : Steps SCREEN_HEIGHT s frame t) : Steady SCREEN_HEIGHT (h ++ [(s, e)]) t := by
  cases hstep with
  | @asked frame m hm =>
    refine ⟨past_append hs.past hm.now.ge, hs.waits.of_same hm.fromFrame ?_⟩
    have hchanges : (m.performAfter ._notifyAllObservers 0).changes = m.changes := by
      simp [changes, performAfter]
    rw [hchanges, hm.changes_eq]
  | @atOnce frame m t window hm hn =>
    have hnow : m.now = s.now := hm.now
    have hwaits : Waits SCREEN_HEIGHT h m := by
      have := hs.waits
      unfold Waits at this ⊢
      rwa [hm.fromFrame, hm.changes_eq]
    refine ⟨past_append hs.past (hn.now.trans hnow).ge, ?_⟩
    exact hwaits.of_notified (fun q hq => hnow ▸ hs.past q hq) hm.fromFrame hnow hn
  | @noticed r t window hmem hr hn =>
    have hkept : s.changes.erase r = s.changes := List.erase_of_not_mem (by simp [changes, hr])
    have hwaits : Waits SCREEN_HEIGHT h { s with requests := s.requests.erase r } := by
      have := hs.waits
      unfold Waits at this ⊢
      rwa [changes_erase, hkept]
    refine ⟨past_append hs.past hn.now.ge, ?_⟩
    exact hwaits.of_notified hs.past rfl rfl hn
  | @told r hmem hr =>
    refine ⟨past_append hs.past (le_refl _), hs.waits.of_same rfl ?_⟩
    exact (changes_erase s r).symm ▸ List.erase_sublist
  | @idle seconds hpos =>
    refine ⟨past_append hs.past ?_, hs.waits.of_same rfl (List.Sublist.refl _)⟩
    exact le_add_of_nonneg_right hpos

theorem steady_of_run (hr : Run (step SCREEN_HEIGHT) _init h s) : Steady SCREEN_HEIGHT h s := by
  induction hr with
  | nil => exact ⟨by simp, fun _ => ⟨by simp [changes, _init], by simp⟩⟩
  | snoc hr hstep ih => exact ih.step (steps_of_step hstep)

/-- **A keyboard above the bottom of the screen is told after it has been there for 0.3 seconds, and
once**, however often the system tells of it. -/
theorem told_steady_of_run (hr : Run (step SCREEN_HEIGHT) _init h s) {r : PerformRequest}
    {window : Option (Rect ℚ)} (hselector : r.selector = .keyboardChange)
    (hstep : s.step SCREEN_HEIGHT (.perform r window) = some t)
    (habove : Above SCREEN_HEIGHT s._fromFrame) :
    t.told = s.told ++ [s._trans] ∧ s._trans.toFrame = s._fromFrame ∧
    (∀ q ∈ h, s.now - 3 / 10 < q.1.now → q.1._fromFrame = s._fromFrame) ∧
    t.changes = [] := by
  obtain ⟨honce, hdue⟩ := (steady_of_run hr).waits habove
  simp only [step, perform, hselector] at hstep
  split_ifs at hstep with hready
  obtain rfl := Option.some.inj hstep
  have hmem : r ∈ s.changes := List.mem_filter.2 ⟨hready.1, by simp [hselector]⟩
  refine ⟨rfl, (onItsWay_of_run hr rfl).trans, fun q hq hlate => ?_, ?_⟩
  · by_contra hne
    have := hdue r hmem q hq hne
    linarith [hready.2]
  · have hlength : (s.changes.erase r).length = 0 := by
      rw [List.length_erase_of_mem hmem]
      omega
    exact (changes_erase s r).trans (List.eq_nil_of_length_eq_zero hlength)

/-- A keyboard that is told 0.3 seconds after it has got taller. -/
theorem told_steady_taller :
    ∃ s t, exec (step 667) _init (tallerEvents.take 5) = some s ∧
      s.step 667 (.perform ⟨.keyboardChange, 4 / 10⟩ none) = some t ∧
      t.told = s.told ++ [s._trans] ∧ t.changes = [] := by
  have hsome : (exec (step 667) _init (tallerEvents.take 5)).isSome = true := by decide +kernel
  obtain ⟨s, hs⟩ := Option.isSome_iff_exists.1 hsome
  have hstep : (s.step 667 (.perform ⟨.keyboardChange, 4 / 10⟩ none)).isSome = true := by
    have : ((exec (step 667) _init (tallerEvents.take 5)).bind fun s =>
      s.step 667 (.perform ⟨.keyboardChange, 4 / 10⟩ none)).isSome = true := by decide +kernel
    rwa [hs] at this
  obtain ⟨t, ht⟩ := Option.isSome_iff_exists.1 hstep
  have hfrom : s._fromFrame = ⟨0, 350, 375, 317⟩ := by
    have : (exec (step 667) _init (tallerEvents.take 5)).map (·._fromFrame) =
      some ⟨0, 350, 375, 317⟩ := by decide +kernel
    rw [hs] at this
    exact Option.some.inj this
  obtain ⟨htold, -, -, hdone⟩ := told_steady_of_run (run_of_exec _ hs) rfl ht
    (by rw [hfrom]; constructor <;> norm_num)
  exact ⟨s, t, hs, ht, htold, hdone⟩

end YYKeyboardManager

end RCSdk
