import RCSdk.Lib.Run
import RCSdk.Spec.KeyBoardDigitalView

/-!
# Handing the digital keyboard over to the next field

A teardown does not record which installation it was scheduled for: `keyBoardDismiss` clears
whatever the shared object holds when it fires. So a teardown that a hide scheduled does no harm to
a later installation exactly when that one is gone by then, through a teardown of its own.

* `handsOver_iff`: in every run the teardowns leave the later installations alone exactly when each
  that fires comes in time.
* `next_field_cleared`: a second field takes the keyboard during the hide animation of the first.
-/

namespace RCSdk

open Trans

namespace KeyBoard

/-- What installation `i` put in place is kept from `k` to `k'`. -/
structure Keeps (k k' : KeyBoard) (i : ℕ) (B : Installation) : Prop where
  inputView : k.inputView B.textField = some B.keyMainView →
    k'.inputView B.textField = some B.keyMainView
  observer : i ∈ k.observers → i ∈ k'.observers
  headView : i ∈ k.observers → k.view.headView = B.headView → k'.view.headView = B.headView
  footView : i ∈ k.observers → k.view.footView = B.footView → k'.view.footView = B.footView
  footIn : ∀ foot, B.footView = some foot → k.superview foot = some B.keyMainView →
    k'.superview foot = some B.keyMainView

/-- **A teardown leaves alone what was installed after the hide that scheduled it.** -/
def HandsOver (k : KeyBoard) (ev : Event) : Prop :=
  ∀ n p k', ev = .fires n → k.performs[n]? = some p → k.step ev = some k' →
    ∀ i B, p.installs ≤ i → k.installs[i]? = some B → Keeps k k' i B

/-- The view is the foot view of an installation made since, and in its key view. -/
def FootSince (k : KeyBoard) (installs : ℕ) (foot : UIView) : Prop :=
  ∃ i B, installs ≤ i ∧ k.installs[i]? = some B ∧ B.footView = some foot ∧
    k.superview foot = some B.keyMainView

/-- **The condition on a teardown that fires.** A keyboard was installed since the hide only if
its registration is gone by now. The foot view of one made since is not taken out of its key view:
the object holds another foot view, or knows of no place to put it back, or put it back before. -/
def InTime (k : KeyBoard) (p : DelayedPerform) : Prop :=
  match p.selector with
  | .keyBoardDismiss =>
    (p.installs < k.installs.length → k.observers = []) ∧
      ∀ upToView, k.view.upToView = some upToView → ¬ k.FootSince p.installs upToView
  | .reductionView =>
    ∀ footView subFootView, k.view.footView = some footView →
      k.view.subFootView = some subFootView → k.FootSince p.installs footView →
      k.superview footView = some subFootView

/-- The teardown that fires, if this event is one, comes in time. -/
def FiresInTime (k : KeyBoard) (ev : Event) : Prop :=
  ∀ n p, ev = .fires n → k.performs[n]? = some p → k.InTime p

/-- What holds in every run: the registrations are of installations that were made, the last
of them among them, and a field is only held while one is in place. -/
structure InPlace (k : KeyBoard) : Prop where
  made : ∀ i ∈ k.observers, i < k.installs.length
  last : k.observers ≠ [] → ∀ i, i + 1 = k.installs.length → i ∈ k.observers
  held : k.view.toTextView ≠ none → k.observers ≠ []

variable {k k' : KeyBoard}

theorem InPlace.congr (h : InPlace k) (ho : k'.observers = k.observers)
    (hi : k'.installs = k.installs) (ht : k'.view.toTextView = k.view.toTextView) : InPlace k' := by
  obtain ⟨h1, h2, h3⟩ := h
  refine ⟨?_, ?_, ?_⟩
  · rw [ho, hi]; exact h1
  · rw [ho, hi]; exact h2
  · rw [ho, ht]; exact h3

/-! ## What the operations touch -/

@[simp] theorem addSubview_view (v : UIView) (c : Option UIView) (k : KeyBoard) :
    (k.addSubview v c).view = k.view := by
  unfold addSubview; split <;> rfl

@[simp] theorem addSubview_inputView (v : UIView) (c : Option UIView) (k : KeyBoard) :
    (k.addSubview v c).inputView = k.inputView := by
  unfold addSubview; split <;> rfl

@[simp] theorem addSubview_observers (v : UIView) (c : Option UIView) (k : KeyBoard) :
    (k.addSubview v c).observers = k.observers := by
  unfold addSubview; split <;> rfl

@[simp] theorem addSubview_installs (v : UIView) (c : Option UIView) (k : KeyBoard) :
    (k.addSubview v c).installs = k.installs := by
  unfold addSubview; split <;> rfl

/-- `reductionView` touches nothing but the superview of the foot view. -/
theorem reductionView_frame (k : KeyBoard) :
    k.reductionView.view = k.view ∧ k.reductionView.inputView = k.inputView ∧
      k.reductionView.observers = k.observers ∧ k.reductionView.installs = k.installs := by
  unfold reductionView
  split <;> simp

theorem reductionView_superview {sub foot : UIView} (hs : k.view.subFootView = some sub)
    (hf : k.view.footView = some foot) :
    k.reductionView.superview = Function.update k.superview foot (some sub) := by
  unfold reductionView addSubview
  simp only [hs, hf]

theorem reductionView_superview_of_none
    (h : k.view.subFootView = none ∨ k.view.footView = none) :
    k.reductionView.superview = k.superview := by
  unfold reductionView addSubview
  rcases h with h | h
  · simp only [h]
  · cases k.view.subFootView <;> simp only [h]

/-- With no field held, `keyBoardDismiss` clears no `inputView`. -/
theorem keyBoardDismiss_inputView (h : k.view.toTextView = none) :
    k.keyBoardDismiss.inputView = k.inputView := by
  unfold keyBoardDismiss
  simp only [h]

theorem keyBoardDismiss_superview {foot : UIView} (h : k.view.upToView ≠ some foot) :
    k.keyBoardDismiss.superview foot = k.superview foot := by
  unfold keyBoardDismiss
  cases hu : k.view.upToView with
  | none => rfl
  | some upToView =>
    have hne : foot ≠ upToView := fun he => h (by rw [hu, he])
    exact Function.update_of_ne hne _ _

theorem keyBoardDismiss_upToView {upToView : UIView} (h : k.view.upToView = some upToView) :
    k.keyBoardDismiss.superview upToView = none := by
  unfold keyBoardDismiss
  simp only [h, Function.update_self]

theorem setKeyBoardInputView_frame (textField : UITextField) (k : KeyBoard) :
    (k.setKeyBoardInputView textField).observers = k.observers ++ [k.installs.length] ∧
      (k.setKeyBoardInputView textField).installs.length = k.installs.length + 1 := by
  simp [setKeyBoardInputView, buildKeyBoard]

/-- What fires when a delayed perform does. -/
theorem step_fires {n : ℕ} (hs : k.step (.fires n) = some k') :
    ∃ p, k.performs[n]? = some p ∧
      k' = { k with performs := k.performs.eraseIdx n }.perform p.selector := by
  simp only [step] at hs
  split at hs
  · cases hs
  · rename_i p hp
    simp only [Option.ite_none_right_eq_some, Option.some.injEq] at hs
    exact ⟨p, hp, hs.2.symm⟩

theorem inPlace_step {ev : Event} (h : InPlace k) (hs : k.step ev = some k') : InPlace k' := by
  cases ev with
  | setHeadView view =>
    obtain rfl := Option.some.inj hs
    exact h.congr rfl rfl rfl
  | setFootView view =>
    obtain rfl := Option.some.inj hs
    exact h.congr rfl rfl rfl
  | setUpToView view =>
    obtain rfl := Option.some.inj hs
    exact h.congr rfl rfl rfl
  | moves view superview =>
    obtain rfl := Option.some.inj hs
    exact h.congr rfl rfl rfl
  | keyboardWillHide duration =>
    obtain rfl := Option.some.inj hs
    exact h.congr rfl rfl rfl
  | wait time =>
    simp only [step, Option.ite_none_right_eq_some] at hs
    obtain rfl := Option.some.inj hs.2
    exact h.congr rfl rfl rfl
  | setKeyBoardInputView textField =>
    obtain rfl := Option.some.inj hs
    -- the new registration is that of the installation
    obtain ⟨ho, hi⟩ := setKeyBoardInputView_frame textField k
    refine ⟨fun i hm => ?_, fun _ i hl => ?_, fun _ => ?_⟩
    · rw [ho] at hm
      rw [hi]
      rcases List.mem_append.1 hm with hm | hm
      · have := h.made i hm
        omega
      · have := List.mem_singleton.1 hm
        omega
    · rw [hi] at hl
      rw [ho]
      exact List.mem_append_right _ (List.mem_singleton.2 (by omega))
    · rw [ho]
      exact List.append_ne_nil_of_right_ne_nil _ (List.cons_ne_nil _ _)
  | fires n =>
    obtain ⟨p, -, rfl⟩ := step_fires hs
    have h' : InPlace { k with performs := k.performs.eraseIdx n } := h.congr rfl rfl rfl
    cases hsel : p.selector with
    | reductionView =>
      obtain ⟨hv, -, ho, hi⟩ := reductionView_frame { k with performs := k.performs.eraseIdx n }
      exact h'.congr ho hi (by rw [perform, hv])
    | keyBoardDismiss =>
      -- nothing is registered any more
      exact ⟨fun i hm => absurd hm List.not_mem_nil, fun hne => absurd rfl hne,
        fun hne => absurd rfl hne⟩

theorem inPlace_init : InPlace init := by
  refine ⟨?_, ?_, ?_⟩ <;> simp [init]

/-! ## One teardown -/

/-- **The foot view goes back in time exactly when it leaves no keyboard made since.** -/
theorem keeps_reductionView_iff (installs : ℕ) :
    (∀ i B, installs ≤ i → k.installs[i]? = some B → Keeps k k.reductionView i B) ↔
      ∀ foot sub, k.view.footView = some foot → k.view.subFootView = some sub →
        k.FootSince installs foot → k.superview foot = some sub := by
  obtain ⟨hv, hin, ho, -⟩ := reductionView_frame k
  constructor
  · rintro h foot sub hf hs ⟨i, B, hle, hB, hfoot, hsup⟩
    have hkept := (h i B hle hB).footIn foot hfoot hsup
    rw [reductionView_superview hs hf, Function.update_self] at hkept
    rw [hsup, ← hkept]
  · intro h i B hle hB
    refine ⟨by rw [hin]; exact id, by rw [ho]; exact id, ?_, ?_, fun foot hfoot hsup => ?_⟩
    · rw [hv]; exact fun _ hh => hh
    · rw [hv]; exact fun _ hh => hh
    · cases hs : k.view.subFootView with
      | none => rwa [reductionView_superview_of_none (.inl hs)]
      | some sub =>
        cases hf : k.view.footView with
        | none => rwa [reductionView_superview_of_none (.inr hf)]
        | some foot' =>
          rw [reductionView_superview hs hf]
          by_cases he : foot = foot'
          · -- the foot view itself: it may only stay where it is
            subst he
            have := h foot sub hf hs ⟨i, B, hle, hB, hfoot, hsup⟩
            rw [Function.update_self, ← this, hsup]
          · rw [Function.update_of_ne he]
            exact hsup

/-- **The keyboard is dismissed in time exactly when none installed since is in place.** -/
theorem keeps_keyBoardDismiss_iff (hk : InPlace k) (installs : ℕ) :
    (∀ i B, installs ≤ i → k.installs[i]? = some B → Keeps k k.keyBoardDismiss i B) ↔
      (installs < k.installs.length → k.observers = []) ∧
        ∀ upToView, k.view.upToView = some upToView → ¬ k.FootSince installs upToView := by
  constructor
  · intro h
    refine ⟨fun hlt => ?_, fun upToView hu => ?_⟩
    · by_contra hne
      -- the last installation is in place, and its registration is dropped
      obtain ⟨i, hi⟩ := Nat.exists_eq_add_of_lt hlt
      have hlast := hk.last hne (installs + i) hi.symm
      have hB : k.installs[installs + i]? = some _ := List.getElem?_eq_getElem (hk.made _ hlast)
      have hgone := (h _ _ (Nat.le_add_right _ _) hB).observer hlast
      exact absurd hgone List.not_mem_nil
    · rintro ⟨i, B, hle, hB, hfoot, hsup⟩
      have hkept := (h i B hle hB).footIn upToView hfoot hsup
      rw [keyBoardDismiss_upToView hu] at hkept
      cases hkept
  · rintro ⟨ho, hu⟩ i B hle hB
    have hnone : k.observers = [] := ho (hle.trans_lt (List.getElem?_eq_some_iff.1 hB).1)
    have htext : k.view.toTextView = none := by
      by_contra hne
      exact hk.held hne hnone
    have hgone : i ∉ k.observers := by simp [hnone]
    refine ⟨?_, fun hm => absurd hm hgone, fun hm => absurd hm hgone, fun hm => absurd hm hgone,
      fun foot hfoot hsup => ?_⟩
    · rw [keyBoardDismiss_inputView htext]; exact id
    · rw [keyBoardDismiss_superview fun he => hu foot he ⟨i, B, hle, hB, hfoot, hsup⟩]
      exact hsup

/-- What is pending does not matter to what is kept. -/
theorem keeps_performs_iff (ps : List DelayedPerform) {i : ℕ} {B : Installation} :
    Keeps { k with performs := ps } k' i B ↔ Keeps k k' i B :=
  ⟨fun ⟨h1, h2, h3, h4, h5⟩ => ⟨h1, h2, h3, h4, h5⟩,
    fun ⟨h1, h2, h3, h4, h5⟩ => ⟨h1, h2, h3, h4, h5⟩⟩

/-- **A teardown keeps what was installed since exactly when it comes in time.** -/
theorem keeps_perform_iff (hk : InPlace k) (p : DelayedPerform) :
    (∀ i B, p.installs ≤ i → k.installs[i]? = some B → Keeps k (k.perform p.selector) i B) ↔
      k.InTime p := by
  unfold InTime perform
  cases p.selector with
  | reductionView => exact keeps_reductionView_iff p.installs
  | keyBoardDismiss => exact keeps_keyBoardDismiss_iff hk p.installs

/-! ## Runs -/

theorem handsOver_step_iff {ev : Event} (hk : InPlace k) (hs : k.step ev = some k') :
    HandsOver k ev ↔ FiresInTime k ev := by
  cases ev with
  | fires n =>
    obtain ⟨p, hp, hk₂⟩ := step_fires hs
    have hk' : InPlace { k with performs := k.performs.eraseIdx n } := hk.congr rfl rfl rfl
    have hkeeps := keeps_perform_iff hk' p
    simp only [← hk₂, keeps_performs_iff] at hkeeps
    constructor
    · rintro h m q hm hq
      obtain rfl := Event.fires.inj hm
      obtain rfl := Option.some.inj (hp.symm.trans hq)
      exact hkeeps.1 (h n p k' rfl hp hs)
    · rintro h m q k₃ hm hq hs₃
      obtain rfl := Event.fires.inj hm
      obtain rfl := Option.some.inj (hp.symm.trans hq)
      obtain rfl := Option.some.inj (hs.symm.trans hs₃)
      exact hkeeps.2 (h n p rfl hp)
  | setHeadView _ | setFootView _ | setUpToView _ | moves _ _ | setKeyBoardInputView _
  | keyboardWillHide _ | wait _ =>
    exact iff_of_true (fun _ _ _ h => by cases h) fun _ _ h => by cases h

/-- **In every run the teardowns leave what was installed since alone exactly when each that fires
comes in time.** -/
theorem handsOver_iff {h : List (KeyBoard × Event)} (hr : Run step init h k) :
    (∀ q ∈ h, HandsOver q.1 q.2) ↔ ∀ q ∈ h, FiresInTime q.1 q.2 :=
  hr.steps_iff inPlace_init (fun _ _ _ => inPlace_step) fun _ _ _ => handsOver_step_iff

/-- No keyboard was installed since the hide that scheduled what fires. -/
def FiresCurrent (k : KeyBoard) : Event → Bool
  | .fires n => (k.performs[n]?).all fun p => k.installs.length ≤ p.installs
  | _ => true

theorem firesInTime_of_current {ev : Event} (h : FiresCurrent k ev) : FiresInTime k ev := by
  rintro n p rfl hp
  have hle : k.installs.length ≤ p.installs := by simpa [FiresCurrent, hp] using h
  have hnone : ∀ foot, ¬ k.FootSince p.installs foot := by
    rintro foot ⟨i, B, hi, hB, -⟩
    have := (List.getElem?_eq_some_iff.1 hB).1
    omega
  unfold InTime
  cases p.selector with
  | reductionView => exact fun foot _ _ _ hf => absurd hf (hnone foot)
  | keyBoardDismiss => exact ⟨fun hlt => absurd hle (by omega), fun foot _ => hnone foot⟩

/-- The first field's keyboard is dismissed before the second field takes it. -/
theorem handsOver_one_field :
    ∃ h k, Run step init h k ∧ k.inputView 2 = some (.keyMain 1) ∧ h.length = 8 ∧
      ∀ q ∈ h, HandsOver q.1 q.2 := by
  set evs : List Event := [.moves 0 (some 9), .setFootView (some 0), .setKeyBoardInputView 1,
    .keyboardWillHide (some 1), .wait 1, .fires 0, .fires 0, .setKeyBoardInputView 2]
  have hlast : (exec step init evs).map (·.inputView 2) = some (some (.keyMain 1)) := by
    decide +kernel
  have hlen : (visited step init evs).length = 8 := by decide +kernel
  have hcur : ∀ q ∈ visited step init evs, FiresCurrent q.1 q.2 := by decide +kernel
  obtain ⟨k, hk, h2⟩ := Option.map_eq_some_iff.1 hlast
  have hr := run_of_exec evs hk
  exact ⟨_, k, hr, h2, hlen,
    (handsOver_iff hr).2 fun q hq => firesInTime_of_current (hcur q hq)⟩

/-- **The next field's keyboard is cleared.** The second field takes the keyboard right after the
first hid it. Half the animation later its foot view is gone, and then its `inputView`. -/
theorem next_field_cleared :
    ∃ k k₁ k₂, exec step init [.moves 0 (some 9), .setFootView (some 0), .setKeyBoardInputView 1,
        .keyboardWillHide (some 1), .setKeyBoardInputView 2, .wait 1] = some k ∧
      k.step (.fires 0) = some k₁ ∧ k₁.step (.fires 0) = some k₂ ∧
      k.superview (.ofApp 0) = some (.keyMain 1) ∧ k₁.superview (.ofApp 0) = some (.ofApp 9) ∧
      k₁.inputView 2 = some (.keyMain 1) ∧ k₂.inputView 2 = none ∧
      ¬ HandsOver k (.fires 0) ∧ ¬ HandsOver k₁ (.fires 0) := by
  set evs : List Event := [.moves 0 (some 9), .setFootView (some 0), .setKeyBoardInputView 1,
    .keyboardWillHide (some 1), .setKeyBoardInputView 2, .wait 1]
  have h0 : (exec step init evs).map
      (fun k => (k.installs[1]?, k.performs[0]?.map (·.installs), k.superview (.ofApp 0))) =
      some (some ⟨2, .keyMain 1, none, some (.ofApp 0)⟩, some 1, some (.keyMain 1)) := by
    decide +kernel
  have h1 : (exec step init (evs ++ [.fires 0])).map
      (fun k => (k.installs[1]?, k.performs[0]?.map (·.installs), k.superview (.ofApp 0),
        k.inputView 2)) =
      some (some ⟨2, .keyMain 1, none, some (.ofApp 0)⟩, some 1, some (.ofApp 9),
        some (.keyMain 1)) := by
    decide +kernel
  have h2 : (exec step init (evs ++ [.fires 0, .fires 0])).map (·.inputView 2) = some none := by
    decide +kernel
  obtain ⟨k, hk, hk0⟩ := Option.map_eq_some_iff.1 h0
  obtain ⟨k₁, hk₁, hk1⟩ := Option.map_eq_some_iff.1 h1
  obtain ⟨k₂, hk₂, hk2⟩ := Option.map_eq_some_iff.1 h2
  simp only [Prod.mk.injEq, Option.map_eq_some_iff] at hk0 hk1
  obtain ⟨hB, ⟨p, hp, hpi⟩, hsup⟩ := hk0
  obtain ⟨hB₁, ⟨p₁, hp₁, hpi₁⟩, hsup₁, hin₁⟩ := hk1
  have hs : k.step (.fires 0) = some k₁ := by
    simpa [exec_append, hk, exec] using hk₁
  have hs₁ : k₁.step (.fires 0) = some k₂ := by
    simpa [exec_append, hk, exec, hs] using hk₂
  refine ⟨k, k₁, k₂, hk, hs, hs₁, hsup, hsup₁, hin₁, hk2, fun h => ?_, fun h => ?_⟩
  · have := (h 0 p k₁ rfl hp hs 1 _ hpi.le hB).footIn _ rfl hsup
    rw [hsup₁] at this
    cases this
  · have := (h 0 p₁ k₂ rfl hp₁ hs₁ 1 _ hpi₁.le hB₁).inputView hin₁
    rw [hk2] at this
    cases this

end KeyBoard

end RCSdk
