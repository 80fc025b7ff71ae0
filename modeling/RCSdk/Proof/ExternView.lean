import RCSdk.Lib.Run
import RCSdk.Spec.RefreshHeader

/-!
# Which views the header keeps

`addExternView:` remembers the last view and takes it out for a `nil` only: one view in place of
another leaves both in the header (`externs_next_iff`). The frame is always that of the last view
(`addExternView_frame`).

* `externView_right_iff`: the header holds the last view alone, after every call, exactly when a
  view is followed by itself or by a `nil`.
-/

namespace RCSdk.RCMJRefreshExternHeader

open Trans

/-- The header after a sequence of calls. -/
def afterCalls (h : Header) (calls : List (Option View)) : Header :=
  calls.foldl Header.addExternView h

/-- The subviews that were given in one of the calls. -/
def externs (calls : List (Option View)) (h : Header) : List View :=
  h.subviews.filter fun v => some v ∈ calls

/-- The height the last call asks for. -/
def heightFor (h : Header) (last : Option View) : ℚ :=
  match last with
  | some v => MJRefreshHeaderHeight + (h.frameOf v).height
  | none => MJRefreshHeaderHeight

/-- The header is as the last of the calls wants it. -/
structure Right (calls : List (Option View)) (last : Option View) (h : Header) : Prop where
  externs : externs calls h = last.toList
  height : h.frame.height = heightFor h last
  origin : h.frame.y = -heightFor h last

variable {h : Header}

theorem addExternView_externView (last : Option View) :
    (h.addExternView last)._externView = last := by
  cases last <;> rfl

theorem frame_addExternView (last : Option View) :
    (h.addExternView last).frame.height = heightFor (h.addExternView last) last ∧
      (h.addExternView last).frame.y = -heightFor (h.addExternView last) last := by
  cases last with
  | none => cases hv : h._externView <;> simp [Header.addExternView, Header.setFrame, heightFor, hv,
      Header.removeFromSuperview]
  | some v =>
    by_cases hv : h._externView = some v <;>
      simp [Header.addExternView, Header.setFrame, heightFor, hv, Header.addSubview]

theorem subviews_none :
    (h.addExternView none).subviews = h.subviews.filter fun w => some w ≠ h._externView := by
  cases hv : h._externView with
  | none => simp [Header.addExternView, Header.setFrame, hv]
  | some v => simp [Header.addExternView, Header.setFrame, Header.removeFromSuperview, hv]

theorem subviews_same {v : View} (hv : h._externView = some v) :
    (h.addExternView (some v)).subviews = h.subviews := by
  simp [Header.addExternView, Header.setFrame, hv]

theorem subviews_other {v : View} (hv : h._externView ≠ some v) :
    (h.addExternView (some v)).subviews = h.subviews.filter (· ≠ v) ++ [v] := by
  simp [Header.addExternView, Header.setFrame, Header.addSubview, hv]

/-! ## What a call does to the views that were given -/

variable {calls : List (Option View)}

theorem externs_none :
    externs (calls ++ [none]) (h.addExternView none) =
      (externs calls h).filter fun w => some w ≠ h._externView := by
  unfold externs
  rw [subviews_none, List.filter_comm]
  simp

theorem externs_same {v : View} (hv : h._externView = some v) (hgiven : v ∈ externs calls h) :
    externs (calls ++ [some v]) (h.addExternView (some v)) = externs calls h := by
  have hcall : some v ∈ calls := by
    have hmem := (List.mem_filter.1 hgiven).2
    exact of_decide_eq_true hmem
  unfold externs
  rw [subviews_same hv]
  refine List.filter_congr fun w _ => ?_
  rw [decide_eq_decide, List.mem_append, List.mem_singleton]
  apply or_iff_left_of_imp
  intro hw
  rw [hw]
  exact hcall

/-- A view in place of another comes behind the others, which stay. -/
theorem externs_other {v : View} (hv : h._externView ≠ some v) :
    externs (calls ++ [some v]) (h.addExternView (some v)) =
      (externs calls h).filter (· ≠ v) ++ [v] := by
  have hsame : ∀ w ∈ h.subviews.filter (· ≠ v),
      decide (some w ∈ calls ++ [some v]) = decide (some w ∈ calls) := by
    intro w hw
    have hwv : w ≠ v := by simpa using (List.mem_filter.1 hw).2
    simp [hwv]
  unfold externs
  rw [subviews_other hv, List.filter_append, List.filter_congr hsame, List.filter_comm]
  simp

/-- **What the next call leaves of the extern subviews**, if there was the remembered one only. -/
theorem externs_next_iff (hkept : externs calls h = h._externView.toList) (next : Option View) :
    externs (calls ++ [next]) (h.addExternView next) = next.toList ↔
      h._externView = none ∨ next = none ∨ h._externView = next := by
  cases next with
  | none =>
    refine iff_of_true ?_ (.inr (.inl rfl))
    rw [externs_none, hkept]
    cases hv : h._externView <;> simp
  | some v =>
    rcases eq_or_ne h._externView (some v) with hsame | hother
    · refine iff_of_true ?_ (.inr (.inr hsame))
      have hgiven : v ∈ externs calls h := by
        rw [hkept, hsame]
        exact List.mem_singleton_self v
      rw [externs_same hsame hgiven, hkept, hsame]
    · rw [externs_other hother, hkept]
      cases hu : h._externView with
      | none => simp
      | some u =>
        have huv : u ≠ v := by
          intro huv
          rw [hu, huv] at hother
          exact hother rfl
        simp [huv]

/-! ## After every call -/

theorem afterCalls_append (calls : List (Option View)) (next : Option View) :
    afterCalls h (calls ++ [next]) = (afterCalls h calls).addExternView next := by
  rw [afterCalls, List.foldl_append]
  rfl

/-- The frame is right after every call, so the subviews decide. -/
theorem right_iff (calls : List (Option View)) (next : Option View) :
    Right (calls ++ [next]) next (afterCalls h (calls ++ [next])) ↔
      externs (calls ++ [next]) (afterCalls h (calls ++ [next])) = next.toList := by
  rw [afterCalls_append]
  obtain ⟨hheight, horigin⟩ := frame_addExternView (h := afterCalls h calls) next
  exact ⟨fun hr => hr.externs, fun he => ⟨he, hheight, horigin⟩⟩

/-- **The header holds the last view given and no other that was given, after each call, exactly
when no view is followed by another.** -/
theorem externView_right_iff (frame : Grids.Rect ℚ) (subviews : List View)
    (frameOf : View → Grids.Rect ℚ) (calls : List (Option View)) :
    (∀ n < calls.length, ∀ last ∈ (calls.take (n + 1)).getLast?,
        Right (calls.take (n + 1)) last
          (afterCalls (fresh frame subviews frameOf) (calls.take (n + 1)))) ↔
      calls.IsChain fun before next => before = none ∨ next = none ∨ before = next := by
  set h : Header := fresh frame subviews frameOf
  apply forall_last_iff_isChain (G := fun calls last => Right calls last (afterCalls h calls))
  · intro next
    have hkept : externs [] h = h._externView.toList := by
      simp [externs, h, fresh]
    have hnext := (externs_next_iff hkept next).2 (.inl rfl)
    exact (right_iff (h := h) [] next).2 hnext
  · intro calls before next hbefore
    have hlast : (afterCalls h (calls ++ [before]))._externView = before := by
      rw [afterCalls_append, addExternView_externView]
    have hkept : externs (calls ++ [before]) (afterCalls h (calls ++ [before])) =
        (afterCalls h (calls ++ [before]))._externView.toList := by
      rw [hlast]
      exact hbefore.externs
    have hnext := externs_next_iff hkept next
    rw [hlast, ← afterCalls_append, ← right_iff, List.append_assoc] at hnext
    exact hnext

/-- A view of 100, and another of 50 in its place: both are in the header, and the first is still
there when it is to be as it was. -/
theorem externView_replaced :
    let h := fresh ⟨0, 0, 375, 54⟩ [] fun v => ⟨0, 0, 375, if v = 1 then 100 else 50⟩
    (afterCalls h [some 1, some 2]).subviews = [1, 2] ∧
      ¬ Right [some 1, some 2] (some 2) (afterCalls h [some 1, some 2]) ∧
      (afterCalls h [some 1, some 2, none]).subviews = [1] ∧
      ¬ Right [some 1, some 2, none] none (afterCalls h [some 1, some 2, none]) := by
  refine ⟨rfl, fun hr => ?_, rfl, fun hr => ?_⟩
  · exact absurd hr.externs (by decide)
  · exact absurd hr.externs (by decide)

end RCSdk.RCMJRefreshExternHeader
