import Mathlib.Data.List.Basic

/-!
# Claims on regions

A list of claims, each on a region of indices. An index is answered by the first claim that covers
it, and a claim is put in only where no claim overlaps it.

* `Answers.append`: what answers for its whole region goes on doing so.
* `answers_append_self`: a claim that overlaps none before it answers for its whole region.
* `answers_insertAll`: every claim after a round of insertions is an old one or answers for its
  whole region.
* `insertAll_covered`: every claim that was to be put in is there or overlaps one that is.
-/

namespace Regions

variable {α ι : Type*}

/-- The claim that answers an index. -/
def lookup (covers : α → ι → Bool) (l : List α) (i : ι) : Option α := l.find? (covers · i)

/-- A claim put in where it is free. -/
def insertFree (overlaps : α → α → Bool) (l : List α) (a : α) : List α :=
  if l.any (overlaps a) then l else l ++ [a]

/-- Claims put in one after the other. -/
def insertAll (overlaps : α → α → Bool) (l as : List α) : List α := as.foldl (insertFree overlaps) l

/-- The claim answers every index of its region. -/
def Answers (covers : α → ι → Bool) (l : List α) (a : α) : Prop :=
  ∀ i, covers a i → lookup covers l i = some a

/-- The claim is there, or overlaps one that is. -/
def Taken (overlaps : α → α → Bool) (l : List α) (a : α) : Prop :=
  a ∈ l ∨ ∃ b ∈ l, overlaps a b

variable {covers : α → ι → Bool} {overlaps : α → α → Bool} {l l' as : List α} {a b : α}

theorem Answers.append (h : Answers covers l a) (l' : List α) : Answers covers (l ++ l') a := by
  intro i hi
  have hl := h i hi
  rw [lookup] at hl ⊢
  rw [List.find?_append, hl, Option.some_or]

theorem answers_append_self (h : ∀ b ∈ l, ∀ i, covers b i → ¬ covers a i) :
    Answers covers (l ++ [a]) a := by
  intro i hi
  have hnone : l.find? (covers · i) = none :=
    List.find?_eq_none.2 fun b hb hbi => h b hb i hbi hi
  rw [lookup, List.find?_append, hnone, Option.none_or]
  simp [hi]

theorem mem_insertFree (h : b ∈ insertFree overlaps l a) : b ∈ l ∨ b = a := by
  rw [insertFree] at h
  split at h
  · exact Or.inl h
  · simpa using h

/-- A claim list only grows. -/
theorem insertFree_extends (overlaps : α → α → Bool) (l : List α) (a : α) :
    ∃ t, insertFree overlaps l a = l ++ t := by
  by_cases h : l.any (overlaps a)
  · exact ⟨[], by rw [insertFree, if_pos h, List.append_nil]⟩
  · exact ⟨[a], by rw [insertFree, if_neg h]⟩

theorem insertAll_extends (overlaps : α → α → Bool) (l as : List α) :
    ∃ t, insertAll overlaps l as = l ++ t := by
  induction as generalizing l with
  | nil => exact ⟨[], by simp [insertAll]⟩
  | cons a as ih =>
    obtain ⟨t, ht⟩ := insertFree_extends overlaps l a
    obtain ⟨t', ht'⟩ := ih (l := insertFree overlaps l a)
    have hcons : insertAll overlaps l (a :: as) = insertAll overlaps (insertFree overlaps l a) as :=
      rfl
    exact ⟨t ++ t', by rw [hcons, ht', ht, List.append_assoc]⟩

theorem Answers.insertAll (h : Answers covers l a) (as : List α) :
    Answers covers (insertAll overlaps l as) a := by
  obtain ⟨t, ht⟩ := insertAll_extends overlaps l as
  rw [ht]
  exact h.append t

theorem mem_insertAll (h : b ∈ insertAll overlaps l as) : b ∈ l ∨ b ∈ as := by
  induction as generalizing l with
  | nil => exact Or.inl h
  | cons a as ih =>
    rcases ih (l := insertFree overlaps l a) h with hl | has
    · rcases mem_insertFree hl with hl | rfl
      · exact Or.inl hl
      · exact Or.inr List.mem_cons_self
    · exact Or.inr (List.mem_cons_of_mem _ has)

/-- **Every claim after a round of insertions** is an old one or answers for its whole region, where
overlap is reported of the claims that share an index. -/
theorem answers_insertAll {P : α → Prop}
    (hover : ∀ a b i, P a → P b → covers a i → covers b i → overlaps a b)
    (hl : ∀ b ∈ l, P b) (has : ∀ a ∈ as, P a) :
    ∀ b ∈ insertAll overlaps l as, b ∈ l ∨ Answers covers (insertAll overlaps l as) b := by
  induction as generalizing l with
  | nil =>
    intro b hb
    exact Or.inl hb
  | cons a as ih =>
    intro b hb
    have ha : P a := has a List.mem_cons_self
    have hl' : ∀ b ∈ insertFree overlaps l a, P b := by
      intro b hb
      rcases mem_insertFree hb with hb | rfl
      · exact hl b hb
      · exact ha
    rcases ih hl' (fun a h => has a (List.mem_cons_of_mem _ h)) b hb with hb | hans
    · by_cases hany : l.any (overlaps a)
      · rw [insertFree, if_pos hany] at hb
        exact Or.inl hb
      rw [insertFree, if_neg hany] at hb
      rcases List.mem_append.1 hb with hb | hb
      · exact Or.inl hb
      · rw [List.mem_singleton] at hb
        subst hb
        -- a claim that found its place free answers from there on
        have hfree : ∀ c ∈ l, ∀ i, covers c i → ¬ covers b i := by
          intro c hc i hci hbi
          exact hany (List.any_eq_true.2 ⟨c, hc, hover b c i ha (hl c hc) hbi hci⟩)
        have hans : Answers covers (insertFree overlaps l b) b := by
          rw [insertFree, if_neg hany]
          exact answers_append_self hfree
        exact Or.inr (hans.insertAll as)
    · exact Or.inr hans

theorem Taken.append (h : Taken overlaps l a) (l' : List α) : Taken overlaps (l ++ l') a := by
  rcases h with h | ⟨b, hb, hab⟩
  · exact Or.inl (List.mem_append_left _ h)
  · exact Or.inr ⟨b, List.mem_append_left _ hb, hab⟩

theorem taken_insertFree : Taken overlaps (insertFree overlaps l a) a := by
  by_cases h : l.any (overlaps a)
  · obtain ⟨b, hb, hab⟩ := List.any_eq_true.1 h
    rw [insertFree, if_pos h]
    exact Or.inr ⟨b, hb, hab⟩
  · rw [insertFree, if_neg h]
    exact Or.inl (List.mem_append_right _ List.mem_cons_self)

/-- **Nothing is lost**: every claim that was to be put in is there or overlaps one that is. -/
theorem insertAll_covered : ∀ a ∈ as, Taken overlaps (insertAll overlaps l as) a := by
  induction as generalizing l with
  | nil => exact fun _ h => absurd h List.not_mem_nil
  | cons c as ih =>
    intro a ha
    rcases List.mem_cons.1 ha with rfl | ha
    · obtain ⟨t, ht⟩ := insertAll_extends overlaps (insertFree overlaps l a) as
      have hcons : insertAll overlaps l (a :: as) = insertFree overlaps l a ++ t := ht
      rw [hcons]
      exact taken_insertFree.append t
    · exact ih a ha

end Regions
