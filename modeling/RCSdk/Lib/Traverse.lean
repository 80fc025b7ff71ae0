import Mathlib.Data.List.Forall2
import Mathlib.Data.List.Induction

/-!
# Traversals that may fail, and loops

`List.mapM` with a function that may fail gives a result exactly when the function does at every
element, and then the results are those, in order. An invariant of a loop that counts its elements
speaks of the elements passed so far.
-/

namespace Traverse

variable {α β : Type*} {f : α → Option β}

/-- A sequence succeeds exactly when both its steps do. -/
theorem bind_isSome_iff {o : Option α} : (o.bind f).isSome ↔ ∃ a, o = some a ∧ (f a).isSome := by
  cases o <;> simp

theorem mapM_eq_some_iff {l : List α} {ys : List β} :
    l.mapM f = some ys ↔ List.Forall₂ (fun a b => f a = some b) l ys := by
  induction l generalizing ys with
  | nil =>
    rw [List.mapM_nil, List.forall₂_nil_left_iff]
    exact ⟨fun h => (Option.some.inj h).symm, fun h => congrArg some h.symm⟩
  | cons a l ih =>
    rw [List.mapM_cons, List.forall₂_cons_left_iff]
    simp only [Option.bind_eq_bind, Option.bind_eq_some_iff, Option.pure_def, Option.some.injEq, ih]
    constructor
    · rintro ⟨b, hb, ys, hys, rfl⟩
      exact ⟨b, ys, hb, hys, rfl⟩
    · rintro ⟨b, ys, hb, hys, rfl⟩
      exact ⟨b, hb, ys, hys, rfl⟩

/-- **A traversal succeeds exactly when it does at every element.** -/
theorem mapM_isSome_iff {l : List α} : (l.mapM f).isSome ↔ ∀ a ∈ l, (f a).isSome := by
  induction l with
  | nil => simp
  | cons a l ih =>
    rw [List.mapM_cons, List.forall_mem_cons, ← ih]
    cases f a <;> cases l.mapM f <;> simp

theorem length_of_mapM {l : List α} {ys : List β} (h : l.mapM f = some ys) :
    ys.length = l.length := (mapM_eq_some_iff.1 h).length_eq.symm

/-- The result at an index. -/
theorem getElem?_of_mapM {l : List α} {ys : List β} (h : l.mapM f = some ys) {i : ℕ} {b : β}
    (hb : ys[i]? = some b) : ∃ a, l[i]? = some a ∧ f a = some b := by
  obtain ⟨hi, rfl⟩ := List.getElem?_eq_some_iff.1 hb
  have hlen := length_of_mapM h
  have hall := (List.forall₂_iff_get.1 (mapM_eq_some_iff.1 h)).2 i (by omega) hi
  exact ⟨_, List.getElem?_eq_getElem (by omega), hall⟩

/-- **What every step of a loop keeps, the loop keeps.** -/
theorem foldlM_invariant {σ : Type*} {P : σ → Prop} {g : σ → α → Option σ}
    (hg : ∀ s a t, P s → g s a = some t → P t) {l : List α} {s t : σ} (hs : P s)
    (h : l.foldlM g s = some t) : P t := by
  induction l generalizing s with
  | nil =>
    obtain rfl := Option.some.inj h
    exact hs
  | cons a l ih =>
    rw [List.foldlM_cons, Option.bind_eq_bind, Option.bind_eq_some_iff] at h
    obtain ⟨u, hu, h⟩ := h
    exact ih (hg s a u hs hu) h

/-- **A loop that counts**: what holds of no elements, and goes on with each element at its place,
holds of all of them. -/
theorem foldl_zipIdx_invariant {σ : Type*} {P : List α → σ → Prop} {g : σ → α × ℕ → σ} {s : σ}
    (h0 : P [] s) (hg : ∀ l a t, P l t → P (l ++ [a]) (g t (a, l.length))) (l : List α) :
    P l (l.zipIdx.foldl g s) := by
  induction l using List.reverseRecOn with
  | nil => exact h0
  | append_singleton l a ih =>
    rw [List.zipIdx_append, List.foldl_append]
    simpa using hg l a _ ih

end Traverse
