import Mathlib.Tactic.Linarith
import Mathlib.Tactic.NormNum
import RCSdk.Lib.Run
import RCSdk.Spec.PopBaseView

/-!
# Where the pop-up ends up

The pop-up is moved up for a keyboard that covers its box, and down again for one that is at the
bottom of the screen only: any other keyboard leaves it where the last one has put it
(`avoids_next_iff`).

* `keyboard_right_iff`: where the pop-up is depends on the latest keyboard alone exactly when no
  keyboard that covers the box is followed by one that does not and is not put away.
-/

namespace RCSdk.PopBaseView

open Grids Trans

variable (SCREEN_HEIGHT : ℚ) (convertRect : Rect ℚ → Rect ℚ)

/-- The end of the box, where the pop-up is not moved. -/
def boxBottom (v : PopBaseView) : ℚ := CGRectGetMaxY v._centerView

/-- The keyboard reaches above the end of the box. -/
def Covers (v : PopBaseView) (toFrame : Rect ℚ) : Prop := (convertRect toFrame).y < v.boxBottom

/-- The keyboards that can follow one another. -/
def Follows (v : PopBaseView) (before next : Rect ℚ) : Prop :=
  Covers convertRect v before → Covers convertRect v next ∨ (convertRect next).y = SCREEN_HEIGHT

/-- The pop-up after a sequence of keyboards. -/
def afterKeyboards (v : PopBaseView) (toFrames : List (Rect ℚ)) : PopBaseView :=
  toFrames.foldl (fun v toFrame => v.keyboardChangedWithTransition SCREEN_HEIGHT convertRect toFrame)
    v

/-- The pop-up is where it belongs with this keyboard: not moved if its box ends above the keyboard,
and otherwise the end of the box on the top of the keyboard. -/
structure Avoids (v : PopBaseView) (toFrame : Rect ℚ) : Prop where
  free : v.boxBottom < (convertRect toFrame).y → v.frame.y = 0
  covered : (convertRect toFrame).y ≤ v.boxBottom →
    v.frame.y + v.boxBottom = (convertRect toFrame).y

variable {SCREEN_HEIGHT convertRect} {v : PopBaseView} {toFrame before next : Rect ℚ}

/-- Where the pop-up belongs, as a number. -/
theorem avoids_iff :
    Avoids convertRect v toFrame ↔ v.frame.y = min 0 ((convertRect toFrame).y - v.boxBottom) := by
  constructor
  · rintro ⟨hfree, hcovered⟩
    rcases lt_or_ge v.boxBottom (convertRect toFrame).y with h | h
    · rw [hfree h, min_eq_left (by linarith)]
    · have := hcovered h
      rw [min_eq_right (by linarith)]
      linarith
  · intro h
    refine ⟨fun hlt => ?_, fun hge => ?_⟩
    · rw [h, min_eq_left (by linarith)]
    · rw [h, min_eq_right (by linarith)]
      linarith

/-- **What a change of the keyboard does to the offset.** -/
theorem offset_keyboardChanged :
    (v.keyboardChangedWithTransition SCREEN_HEIGHT convertRect toFrame).frame.y =
      if (convertRect toFrame).y < v.boxBottom then (convertRect toFrame).y - v.boxBottom
      else if (convertRect toFrame).y = SCREEN_HEIGHT then 0
      else v.frame.y := by
  simp only [keyboardChangedWithTransition]
  by_cases hcovers : (convertRect toFrame).y < v.boxBottom
  · have hover : CGRectGetMaxY v._centerView > (convertRect toFrame).y := hcovers
    rw [if_pos hover, if_pos hcovers]
    rfl
  · have hover : ¬ CGRectGetMaxY v._centerView > (convertRect toFrame).y := hcovers
    rw [if_neg hover, if_neg hcovers]
    by_cases hdown : (convertRect toFrame).y = SCREEN_HEIGHT
    · rw [if_pos hdown, if_pos hdown]
      rfl
    · rw [if_neg hdown, if_neg hdown]

theorem boxBottom_keyboardChanged :
    (v.keyboardChangedWithTransition SCREEN_HEIGHT convertRect toFrame).boxBottom =
      v.boxBottom := by
  simp only [keyboardChangedWithTransition, boxBottom]
  split_ifs <;> rfl

theorem boxBottom_afterKeyboards (toFrames : List (Rect ℚ)) :
    (afterKeyboards SCREEN_HEIGHT convertRect v toFrames).boxBottom = v.boxBottom := by
  induction toFrames generalizing v with
  | nil => rfl
  | cons toFrame toFrames ih => exact ih.trans boxBottom_keyboardChanged

theorem afterKeyboards_append (toFrames : List (Rect ℚ)) (next : Rect ℚ) :
    afterKeyboards SCREEN_HEIGHT convertRect v (toFrames ++ [next]) =
      (afterKeyboards SCREEN_HEIGHT convertRect v toFrames).keyboardChangedWithTransition
        SCREEN_HEIGHT convertRect next := by
  rw [afterKeyboards, List.foldl_append]
  rfl

/-- **The next keyboard moves the pop-up where it belongs, or it is there.** -/
theorem avoids_keyboardChanged_iff :
    Avoids convertRect (v.keyboardChangedWithTransition SCREEN_HEIGHT convertRect next) next ↔
      Covers convertRect v next ∨ (convertRect next).y = SCREEN_HEIGHT ∨ v.frame.y = 0 := by
  rw [avoids_iff, offset_keyboardChanged, boxBottom_keyboardChanged, Covers]
  split_ifs with hcovers hdown
  · refine iff_of_true ?_ (.inl hcovers)
    rw [min_eq_right (by linarith)]
  · refine iff_of_true ?_ (.inr (.inl hdown))
    rw [min_eq_left (by linarith)]
  · rw [min_eq_left (by linarith)]
    constructor
    · exact fun h => .inr (.inr h)
    · rintro (h | h | h)
      · exact absurd h hcovers
      · exact absurd h hdown
      · exact h

/-- A pop-up that is where it belongs is not moved exactly when the keyboard does not cover it. -/
theorem offset_eq_zero_iff (h : Avoids convertRect v before) :
    v.frame.y = 0 ↔ ¬ Covers convertRect v before := by
  rw [avoids_iff.1 h, min_eq_left_iff, Covers, not_lt]
  constructor <;> intro h <;> linarith

/-- **After a keyboard that was right the next one is right exactly when it can follow.** -/
theorem avoids_next_iff (SCREEN_HEIGHT : ℚ) (next : Rect ℚ) (h : Avoids convertRect v before) :
    Avoids convertRect (v.keyboardChangedWithTransition SCREEN_HEIGHT convertRect next) next ↔
      Follows SCREEN_HEIGHT convertRect v before next := by
  rw [avoids_keyboardChanged_iff, offset_eq_zero_iff h]
  unfold Follows
  constructor
  · rintro (hcovers | hdown | hfree) hbefore
    · exact .inl hcovers
    · exact .inr hdown
    · exact absurd hbefore hfree
  · intro hfollows
    by_cases hbefore : Covers convertRect v before
    · rcases hfollows hbefore with hcovers | hdown
      · exact .inl hcovers
      · exact .inr (.inl hdown)
    · exact .inr (.inr hbefore)

/-- **A pop-up that starts where it is shown is where the latest keyboard wants it, after each of
them, exactly when each can follow the one before.** -/
theorem keyboard_right_iff (hv : v.frame.y = 0) (toFrames : List (Rect ℚ)) :
    (∀ n < toFrames.length, ∀ last ∈ (toFrames.take (n + 1)).getLast?,
        Avoids convertRect
          (afterKeyboards SCREEN_HEIGHT convertRect v (toFrames.take (n + 1))) last) ↔
      toFrames.IsChain (Follows SCREEN_HEIGHT convertRect v) := by
  apply forall_last_iff_isChain (G := fun toFrames last =>
    Avoids convertRect (afterKeyboards SCREEN_HEIGHT convertRect v toFrames) last)
  · intro toFrame
    exact avoids_keyboardChanged_iff.2 (.inr (.inr hv))
  · intro toFrames before next hbefore
    have hnext := avoids_next_iff SCREEN_HEIGHT next hbefore
    rw [← afterKeyboards_append, List.append_assoc] at hnext
    have hfollows : Follows SCREEN_HEIGHT convertRect
        (afterKeyboards SCREEN_HEIGHT convertRect v (toFrames ++ [before])) before next ↔
        Follows SCREEN_HEIGHT convertRect v before next := by
      unfold Follows Covers
      rw [boxBottom_afterKeyboards]
    exact hnext.trans hfollows

/-- A box of 345 in the middle of a screen of 375 by 667. -/
def shownPop : PopBaseView :=
  (initWithCancelBtnTitle 375 667 (some "cancel") .KPPopTypeNormal).refreshCenterView none
    (some ⟨0, 0, 270, 300⟩)

theorem boxBottom_shownPop : shownPop.boxBottom = 506 := by decide +kernel

/-- A keyboard that covers the box, a taller one, and none. -/
def tallerKeyboards : List (Rect ℚ) :=
  [⟨0, 400, 375, 267⟩, ⟨0, 350, 375, 317⟩, ⟨0, 667, 375, 267⟩]

theorem keyboard_right_taller : shownPop.frame.y = 0 ∧
    ∀ n < tallerKeyboards.length, ∀ last ∈ (tallerKeyboards.take (n + 1)).getLast?,
      Avoids id (afterKeyboards 667 id shownPop (tallerKeyboards.take (n + 1))) last := by
  have hv : shownPop.frame.y = 0 := rfl
  have hcovers : Covers id shownPop ⟨0, 350, 375, 317⟩ := by
    rw [Covers, boxBottom_shownPop]
    norm_num
  refine ⟨hv, (keyboard_right_iff hv tallerKeyboards).2 ?_⟩
  exact .cons_cons (fun _ => .inl hcovers) (.cons_cons (fun _ => .inr rfl) (.singleton _))

/-- A keyboard that covers the box, and a lower one that does not: the pop-up stays 106 above its
place. -/
theorem keyboard_lowered :
    (afterKeyboards 667 id shownPop [⟨0, 400, 375, 267⟩, ⟨0, 520, 375, 147⟩]).frame.y = -106 ∧
      ¬ Avoids id (afterKeyboards 667 id shownPop [⟨0, 400, 375, 267⟩, ⟨0, 520, 375, 147⟩])
        ⟨0, 520, 375, 147⟩ := by
  have hoffset : (afterKeyboards 667 id shownPop
      [⟨0, 400, 375, 267⟩, ⟨0, 520, 375, 147⟩]).frame.y = -106 := by decide +kernel
  refine ⟨hoffset, fun h => ?_⟩
  have hfree := h.free (by rw [boxBottom_afterKeyboards, boxBottom_shownPop]; norm_num)
  rw [hoffset] at hfree
  norm_num at hfree

end RCSdk.PopBaseView
