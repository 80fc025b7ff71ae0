import Mathlib.Data.List.Perm.Subperm

/-!
# Lists as tables

What `List.modify` and one entry more do to a place, what a change does to a count, and how the
entries of one kind are counted against those of another when both carry a key.
-/

namespace Tables

variable {α κ : Type*} {l : List α} {f : α → α} {p q : α → Bool} {i j : ℕ} {a b : α}

theorem getElem?_modify_eq_some : (l.modify i f)[j]? = some b ↔
    ∃ a, l[j]? = some a ∧ b = if i = j then f a else a := by
  rw [List.getElem?_modify]
  cases l[j]? <;> by_cases h : i = j <;> simp [h, eq_comm]

/-- A place of a table with one entry more. -/
theorem getElem?_concat_eq_some :
    (l ++ [b])[i]? = some a ↔ l[i]? = some a ∨ i = l.length ∧ a = b := by
  rcases Nat.lt_trichotomy i l.length with h | rfl | h
  · rw [List.getElem?_append_left h]
    exact (or_iff_left fun hi => absurd hi.1 (Nat.ne_of_lt h)).symm
  · simp [eq_comm]
  · have h1 : (l ++ [b])[i]? = none := by
      rw [List.getElem?_eq_none_iff, List.length_append, List.length_singleton]
      exact h
    have h2 : l[i]? = none := List.getElem?_eq_none_iff.2 (Nat.le_of_lt h)
    simp [h1, h2, Nat.ne_of_gt h]

/-- **A count after a change at a place.** -/
theorem countP_modify_add (h : l[i]? = some a) :
    (l.modify i f).countP p + (if p a then 1 else 0) = l.countP p + (if p (f a) then 1 else 0) := by
  induction l generalizing i with
  | nil => simp at h
  | cons x l ih =>
    cases i with
    | zero =>
      obtain rfl := Option.some.inj h
      simp only [List.modify_zero_cons, List.countP_cons]
      omega
    | succ i =>
      have := ih (i := i) h
      simp only [List.modify_succ_cons, List.countP_cons]
      omega

/-- A change that the count does not see. -/
theorem countP_modify_eq (h : ∀ a, l[i]? = some a → p (f a) = p a) :
    (l.modify i f).countP p = l.countP p := by
  cases hi : l[i]? with
  | none =>
    rw [List.modify_eq_self (List.getElem?_eq_none_iff.1 hi)]
  | some a =>
    have := countP_modify_add (f := f) (p := p) hi
    rw [h a hi] at this
    exact Nat.add_right_cancel this

/-- A change that a reading of the entries does not see. -/
theorem map_modify_eq {β : Type*} {g : α → β} (h : ∀ a, l[i]? = some a → g (f a) = g a) :
    (l.modify i f).map g = l.map g := by
  refine List.ext_getElem? fun j => ?_
  rw [List.getElem?_map, List.getElem?_map, List.getElem?_modify]
  cases hj : l[j]? with
  | none => rfl
  | some a =>
    by_cases hij : i = j
    · simp [hij, h a (hij ▸ hj)]
    · simp [hij]

/-- Two tables with the same readings keep the same of them. -/
theorem filterMap_eq_of_map {β γ : Type*} {l' : List β} {g' : β → Option γ} {g : α → Option γ}
    (h : l'.map g' = l.map g) : l'.filterMap g' = l.filterMap g := by
  have h := congrArg (List.filterMap id) h
  simpa only [List.filterMap_map, Function.id_comp] using h

/-- Two places with entries that are counted are one, if at most one is. -/
theorem index_unique (h : l.countP p ≤ 1) (hi : l[i]? = some a) (hj : l[j]? = some b) (ha : p a)
    (hb : p b) : i = j := by
  induction l generalizing i j with
  | nil => simp at hi
  | cons x l ih =>
    rw [List.countP_cons] at h
    have hpos : ∀ {n c}, l[n]? = some c → p c → 0 < l.countP p := fun hn hc =>
      List.countP_pos_iff.2 ⟨_, List.mem_of_getElem? hn, hc⟩
    cases i with
    | zero =>
      cases j with
      | zero => rfl
      | succ j =>
        obtain rfl := Option.some.inj hi
        have := hpos hj hb
        rw [if_pos ha] at h
        omega
    | succ i =>
      cases j with
      | zero =>
        obtain rfl := Option.some.inj hj
        have := hpos hi ha
        rw [if_pos hb] at h
        omega
      | succ j => exact congrArg (· + 1) (ih (by omega) hi hj)

/-- The first entry counts when one in its place does. -/
theorem head_counts {x y : α} {l l' : List α}
    (hle : ∀ (i : ℕ) a', (y :: l')[i]? = some a' → p a' → ∃ a, (x :: l)[i]? = some a ∧ p a)
    (hy : p y = true) : p x = true := by
  obtain ⟨a, ha, hpa⟩ := hle 0 y rfl hy
  obtain rfl := Option.some.inj ha
  exact hpa

/-- A table that counts nothing new counts no more. -/
theorem countP_le {l' : List α}
    (hle : ∀ (i : ℕ) a', l'[i]? = some a' → p a' → ∃ a, l[i]? = some a ∧ p a) :
    l'.countP p ≤ l.countP p := by
  induction l' generalizing l with
  | nil => exact Nat.zero_le _
  | cons y l' ih =>
    cases l with
    | nil =>
      refine Nat.le_of_eq (List.countP_eq_zero.2 fun a ha hp => ?_)
      obtain ⟨i, hi⟩ := List.getElem?_of_mem ha
      obtain ⟨a', h', -⟩ := hle i a hi hp
      simp at h'
    | cons x l =>
      have htail := ih fun i a' hi => hle (i + 1) a' hi
      rw [List.countP_cons, List.countP_cons]
      cases hy : p y with
      | false => simp only [Bool.false_eq_true, if_false]; omega
      | true => rw [head_counts hle hy]; exact Nat.add_le_add_right htail 1

/-- **A table that counts nothing new and has lost an entry counts fewer.** -/
theorem countP_lt {l' : List α}
    (hle : ∀ (i : ℕ) a', l'[i]? = some a' → p a' → ∃ a, l[i]? = some a ∧ p a)
    (hi : l[i]? = some a) (ha : p a) (hi' : ∀ a', l'[i]? = some a' → ¬ p a') :
    l'.countP p < l.countP p := by
  induction l generalizing l' i with
  | nil => simp at hi
  | cons x l ih =>
    cases l' with
    | nil => exact List.countP_pos_iff.2 ⟨a, List.mem_of_getElem? hi, ha⟩
    | cons y l' =>
      have htail : ∀ (i : ℕ) a', l'[i]? = some a' → p a' → ∃ a, l[i]? = some a ∧ p a :=
        fun i a' h => hle (i + 1) a' h
      rw [List.countP_cons, List.countP_cons]
      cases i with
      | zero =>
        obtain rfl := Option.some.inj hi
        rw [if_pos ha, if_neg (hi' y rfl)]
        exact Nat.lt_succ_of_le (countP_le htail)
      | succ i =>
        have hlt := ih htail hi hi'
        cases hy : p y with
        | false => simp only [Bool.false_eq_true, if_false]; omega
        | true => rw [head_counts hle hy]; exact Nat.add_lt_add_right hlt 1

/-- **Entries of one kind, at most one to a key, are no more than those of another kind that
has each of their keys.** -/
theorem countP_le_of_keys [DecidableEq κ] (key : α → κ)
    (honce : ∀ k, l.countP (fun a => decide (key a = k) && p a) ≤ 1)
    (hkey : ∀ a ∈ l, p a → ∃ b ∈ l, q b ∧ key b = key a) : l.countP p ≤ l.countP q := by
  have hnodup : ((l.filter p).map key).Nodup := by
    rw [List.nodup_iff_count]
    intro k
    rw [List.count, List.countP_map, List.countP_filter]
    exact honce k
  have hsub : (l.filter p).map key ⊆ (l.filter q).map key := by
    intro k hk
    obtain ⟨a, ha, rfl⟩ := List.mem_map.1 hk
    obtain ⟨b, hb, hqb, hba⟩ := hkey a (List.mem_filter.1 ha).1 (List.mem_filter.1 ha).2
    exact List.mem_map.2 ⟨b, List.mem_filter.2 ⟨hb, hqb⟩, hba⟩
  simpa [List.countP_eq_length_filter] using (hnodup.subperm hsub).length_le

end Tables
