import Mathlib.Data.List.AList
import Mathlib.Data.Nat.Count
import Mathlib.Data.Finset.Sort

/-!
# Rows that are deleted and inserted, and tables kept beside them

A table beside the rows of a list has an entry for some of them. When rows are deleted or inserted
its entries have to move with their rows.

* `afterDeletes_eq_iff`: rows deleted one after the other are the rows deleted at once exactly when
  they are listed from the last to the first.
* `getElem?_kept`, `getElem?_insertAll`: where a row is found after a deletion, and after an
  insertion.
* `Agrees.move`: what the entries say of their rows is still said when both have moved alike.
* `lookup_rekey_eq_some`: a dictionary whose entries are given new keys one after the other.
-/

namespace RowEdits

variable {α β : Type*}

/-! ## Deletions -/

/-- The place of a row after the row `a` is deleted. -/
def afterDelete (a r : ℕ) : Option ℕ :=
  if r = a then none else some (if a < r then r - 1 else r)

/-- The place of a row after rows are deleted one after the other. -/
def afterDeletes : List ℕ → ℕ → Option ℕ
  | [], r => some r
  | a :: as, r => (afterDelete a r).bind (afterDeletes as)

/-- The place of a row after rows are deleted at once. -/
def afterDeletion (as : List ℕ) (r : ℕ) : Option ℕ :=
  if r ∈ as then none else some (Nat.count (fun k => k ∉ as) r)

theorem afterDeletion_eq_some {as : List ℕ} {r r' : ℕ} :
    afterDeletion as r = some r' ↔ r ∉ as ∧ Nat.count (fun k => k ∉ as) r = r' := by
  unfold afterDeletion
  split_ifs with h <;> simp [h]

theorem afterDelete_of_lt {a r : ℕ} (h : r < a) : afterDelete a r = some r := by
  rw [afterDelete, if_neg (Nat.ne_of_lt h), if_neg (Nat.lt_asymm h)]

theorem afterDelete_succ {a r : ℕ} (h : a ≤ r) : afterDelete a (r + 1) = some r := by
  rw [afterDelete, if_neg (by omega), if_pos (by omega), Nat.add_sub_cancel]

theorem afterDelete_self (a : ℕ) : afterDelete a a = none := if_pos rfl

/-- The rows kept in front of a row, with one more deleted. -/
theorem count_notMem_cons {a : ℕ} {as : List ℕ} (ha : a ∉ as) (r : ℕ) :
    Nat.count (fun k => k ∉ a :: as) r + (if a < r then 1 else 0) =
      Nat.count (fun k => k ∉ as) r := by
  induction r with
  | zero => rfl
  | succ r ih =>
    rw [Nat.count_succ, Nat.count_succ, ← ih]
    by_cases hr : r = a
    · subst hr
      simp [ha]
    · have hlt : a < r + 1 ↔ a < r := by omega
      by_cases hm : r ∈ as <;> simp [hr, hm, hlt]; omega

/-- Deleting the last of the rows before the others. -/
theorem afterDeletes_cons_eq_iff {a : ℕ} {as : List ℕ} (ha : ∀ b ∈ as, b < a) :
    (∀ r, afterDeletes (a :: as) r = afterDeletion (a :: as) r) ↔
      ∀ r, afterDeletes as r = afterDeletion as r := by
  have hnot : ∀ r, a ≤ r → r ∉ as := fun r hr hm => by have := ha r hm; omega
  have hcount := count_notMem_cons (hnot a (Nat.le_refl a))
  have hbelow : ∀ r, r < a → (afterDeletes (a :: as) r = afterDeletion (a :: as) r ↔
      afterDeletes as r = afterDeletion as r) := by
    intro r hr
    have hc := hcount r
    rw [if_neg (by omega), Nat.add_zero] at hc
    rw [afterDeletes, afterDelete_of_lt hr, Option.bind_some, afterDeletion, afterDeletion, hc]
    simp [Nat.ne_of_lt hr]
  have habove : ∀ r, a ≤ r → (afterDeletes (a :: as) (r + 1) = afterDeletion (a :: as) (r + 1) ↔
      afterDeletes as r = afterDeletion as r) := by
    intro r hr
    have hc := hcount (r + 1)
    rw [if_pos (by omega), Nat.count_succ (fun k => k ∉ as), if_pos (hnot r hr)] at hc
    have hmem : r + 1 ∉ a :: as := by
      rw [List.mem_cons, not_or]
      exact ⟨by omega, hnot (r + 1) (by omega)⟩
    rw [afterDeletes, afterDelete_succ hr, Option.bind_some, afterDeletion, afterDeletion,
      if_neg hmem, if_neg (hnot r hr), Nat.add_right_cancel hc]
  constructor
  · intro h r
    rcases Nat.lt_or_ge r a with hr | hr
    · exact (hbelow r hr).1 (h r)
    · exact (habove r hr).1 (h (r + 1))
  · intro h r
    rcases Nat.lt_trichotomy r a with hr | rfl | hr
    · exact (hbelow r hr).2 (h r)
    · rw [afterDeletes, afterDelete_self, afterDeletion, if_pos List.mem_cons_self]
      rfl
    · obtain ⟨r, rfl⟩ : ∃ k, r = k + 1 := ⟨r - 1, by omega⟩
      exact (habove r (by omega)).2 (h r)

/-- A row at or behind each of the places is deleted. -/
theorem exists_deleted {as : List ℕ} {b : ℕ} (hb : b ∈ as) :
    ∃ r, b ≤ r ∧ afterDeletes as r = none := by
  induction as with
  | nil => exact absurd hb List.not_mem_nil
  | cons c as ih =>
    rcases List.mem_cons.1 hb with rfl | hb
    · refine ⟨b, Nat.le_refl b, ?_⟩
      rw [afterDeletes, afterDelete_self]
      rfl
    · obtain ⟨r, hr, hd⟩ := ih hb
      rcases Nat.lt_or_ge r c with hc | hc
      · refine ⟨r, hr, ?_⟩
        rw [afterDeletes, afterDelete_of_lt hc, Option.bind_some, hd]
      · refine ⟨r + 1, Nat.le_succ_of_le hr, ?_⟩
        rw [afterDeletes, afterDelete_succ hc, Option.bind_some, hd]

/-- **Rows deleted one after the other are the rows deleted at once exactly when they are listed
from the last to the first.** -/
theorem afterDeletes_eq_iff (as : List ℕ) :
    (∀ r, afterDeletes as r = afterDeletion as r) ↔ as.Pairwise (· > ·) := by
  induction as with
  | nil => simp [afterDeletes, afterDeletion]
  | cons a as ih =>
    rw [List.pairwise_cons, ← ih]
    constructor
    · intro h
      have hlt : ∀ b ∈ as, a > b := by
        by_contra hb
        push Not at hb
        obtain ⟨b, hb, hab⟩ := hb
        -- the greatest of the later rows: something behind it is deleted
        obtain ⟨m, hm, hmax⟩ :=
          as.toFinset.exists_max_image id ⟨b, List.mem_toFinset.2 hb⟩
        have hbm : b ≤ m := hmax b (List.mem_toFinset.2 hb)
        obtain ⟨r, hr, hd⟩ := exists_deleted (List.mem_toFinset.1 hm)
        have hr' := h (r + 1)
        rw [afterDeletes, afterDelete_succ (by omega), Option.bind_some, hd] at hr'
        have hmem : r + 1 ∈ a :: as := by
          by_contra hmem
          rw [afterDeletion, if_neg hmem] at hr'
          cases hr'
        rcases List.mem_cons.1 hmem with hra | hras
        · omega
        · have : r + 1 ≤ m := hmax (r + 1) (List.mem_toFinset.2 hras)
          omega
      exact ⟨hlt, (afterDeletes_cons_eq_iff hlt).1 h⟩
    · rintro ⟨hlt, h⟩
      exact (afterDeletes_cons_eq_iff hlt).2 h

/-- The rows of a list that are not deleted. -/
def kept (as : List ℕ) (xs : List α) : List α :=
  (xs.zipIdx.filter fun x => x.2 ∉ as).map Prod.fst

/-- The rows kept in front of a row, counted from the next row on. -/
theorem count_from_succ (as : List ℕ) (n r : ℕ) :
    Nat.count (fun k => k + n ∉ as) (r + 1) =
      Nat.count (fun k => k + (n + 1) ∉ as) r + if n ∉ as then 1 else 0 := by
  induction r with
  | zero => simp [Nat.count_succ]
  | succ r ih =>
    rw [Nat.count_succ, ih, Nat.count_succ, Nat.add_right_comm r 1 n, Nat.add_assoc r n 1]
    omega

theorem getElem?_kept_from (as : List ℕ) (xs : List α) (n : ℕ) {r : ℕ} (h : r + n ∉ as) :
    (((xs.zipIdx n).filter fun x => x.2 ∉ as).map Prod.fst)[Nat.count (fun k => k + n ∉ as) r]? =
      xs[r]? := by
  induction xs generalizing n r with
  | nil => simp
  | cons x xs ih =>
    rw [List.zipIdx_cons]
    cases r with
    | zero =>
      rw [Nat.count_zero, List.filter_cons_of_pos (by simpa using h)]
      rfl
    | succ r =>
      have hnext := ih (n + 1) (r := r) (by rwa [← Nat.add_assoc, Nat.add_right_comm])
      rw [count_from_succ]
      by_cases hn : n ∈ as
      · simpa [hn] using hnext
      · simpa [hn] using hnext

/-- **A row that is kept is found where its place says.** -/
theorem getElem?_kept {as : List ℕ} {r r' : ℕ} (xs : List α)
    (h : afterDeletion as r = some r') : (kept as xs)[r']? = xs[r]? := by
  obtain ⟨hr, rfl⟩ := afterDeletion_eq_some.1 h
  exact getElem?_kept_from as xs 0 hr

/-! ## Insertions -/

/-- An entry inserted at each of the places in turn, none of them beyond the end. -/
def insertAll (a : α) (is : List ℕ) (l : List α) : Option (List α) :=
  is.foldlM (fun l i => if i ≤ l.length then some (l.insertIdx i a) else none) l

theorem insertAll_concat (a : α) (is : List ℕ) (i : ℕ) (l : List α) :
    insertAll a (is ++ [i]) l = (insertAll a is l).bind fun l =>
      if i ≤ l.length then some (l.insertIdx i a) else none := by
  simp only [insertAll, List.foldlM_append, List.foldlM_cons, List.foldlM_nil, Option.bind_eq_bind]
  congr 1
  funext l
  split_ifs <;> rfl

theorem length_insertAll {a : α} {is : List ℕ} {l l' : List α} (h : insertAll a is l = some l') :
    l'.length = l.length + is.length := by
  induction is using List.reverseRecOn generalizing l' with
  | nil =>
    obtain rfl := Option.some.inj h
    rfl
  | append_singleton is i ih =>
    rw [insertAll_concat, Option.bind_eq_some_iff] at h
    obtain ⟨m, hm, h⟩ := h
    split_ifs at h with hi
    obtain rfl := Option.some.inj h
    rw [List.length_insertIdx_of_le_length hi, ih hm, List.length_append]
    rfl

/-- **All of the places can be filled exactly when none is beyond the list they lead to.** -/
theorem insertAll_isSome_iff (a : α) {is : List ℕ} (hs : is.Pairwise (· < ·)) (l : List α) :
    (insertAll a is l).isSome ↔ ∀ i ∈ is, i < l.length + is.length := by
  induction is using List.reverseRecOn with
  | nil => simp [insertAll]
  | append_singleton is i ih =>
    rw [List.pairwise_append] at hs
    obtain ⟨hs, -, hlast⟩ := hs
    have hlast : ∀ j ∈ is, j < i := fun j hj => hlast j hj i List.mem_cons_self
    rw [insertAll_concat, List.length_append, List.length_singleton]
    constructor
    · intro h j hj
      obtain ⟨m, hm⟩ : ∃ m, insertAll a is l = some m := by
        cases hm : insertAll a is l with
        | none => simp [hm] at h
        | some m => exact ⟨m, rfl⟩
      rw [hm, Option.bind_some] at h
      split_ifs at h with hi
      · have hlen := length_insertAll hm
        rcases List.mem_append.1 hj with hj | hj
        · have := hlast j hj
          omega
        · have := List.mem_singleton.1 hj
          omega
      · exact absurd h (by simp)
    · intro h
      have hi := h i (List.mem_append_right _ List.mem_cons_self)
      have hsome := (ih hs).2 fun j hj => by
        have := hlast j hj
        omega
      obtain ⟨m, hm⟩ := Option.isSome_iff_exists.1 hsome
      have hlen := length_insertAll hm
      rw [hm, Option.bind_some, if_pos (by omega)]
      rfl

/-- **Where the rows are found after an insertion.** -/
theorem getElem?_insertAll {a : α} {is : List ℕ} {l l' : List α} (hs : is.Pairwise (· < ·))
    (h : insertAll a is l = some l') (k : ℕ) :
    l'[k]? = if k ∈ is then some a else l[Nat.count (fun k => k ∉ is) k]? := by
  induction is using List.reverseRecOn generalizing l' k with
  | nil =>
    obtain rfl := Option.some.inj h
    simp
  | append_singleton is i ih =>
    rw [List.pairwise_append] at hs
    obtain ⟨hs, -, hlast⟩ := hs
    have hlast : ∀ j ∈ is, j < i := fun j hj => hlast j hj i List.mem_cons_self
    have hi : ∀ j, i ≤ j → j ∉ is := fun j hj hm => by
      have := hlast j hm
      omega
    rw [insertAll_concat, Option.bind_eq_some_iff] at h
    obtain ⟨m, hm, h⟩ := h
    split_ifs at h with him
    obtain rfl := Option.some.inj h
    have hmem : ∀ k, k ∈ is ++ [i] ↔ k ∈ i :: is := by simp [or_comm]
    have hcount := count_notMem_cons (hi i (Nat.le_refl i)) k
    simp only [hmem]
    rw [List.getElem?_insertIdx]
    rcases Nat.lt_trichotomy k i with hk | rfl | hk
    · rw [if_neg (by omega), Nat.add_zero] at hcount
      rw [if_pos hk, ih hs hm, hcount]
      simp [Nat.ne_of_lt hk]
    · rw [if_neg (Nat.lt_irrefl k), if_pos rfl, if_pos him, if_pos List.mem_cons_self]
    · obtain ⟨k, rfl⟩ : ∃ j, k = j + 1 := ⟨k - 1, by omega⟩
      have hk' := hi k (by omega)
      have hk1 : k + 1 ∉ i :: is := by
        rw [List.mem_cons, not_or]
        exact ⟨by omega, hi (k + 1) (by omega)⟩
      rw [if_pos hk, Nat.count_succ (fun k => k ∉ is), if_pos hk'] at hcount
      rw [if_neg (by omega), if_neg (by omega), Nat.add_sub_cancel, ih hs hm, if_neg hk',
        if_neg hk1, Nat.add_right_cancel hcount]

/-! ## Tables beside the rows -/

/-- **The entries of a table, moved.** An entry is where the row of an old one has gone. -/
def Moved (ρ : ℕ → ℕ → Prop) (table table' : ℕ → Option β) : Prop :=
  ∀ r' v, table' r' = some v ↔ ∃ r, ρ r r' ∧ table r = some v

theorem Moved.refl (table : ℕ → Option β) : Moved (fun r r' => r' = r) table table := by
  intro r' v
  simp

theorem Moved.comp {ρ σ τ : ℕ → ℕ → Prop} {t t' t'' : ℕ → Option β} (h : Moved ρ t t')
    (h' : Moved σ t' t'') (hτ : ∀ r r'', τ r r'' ↔ ∃ r', ρ r r' ∧ σ r' r'') : Moved τ t t'' := by
  intro r'' v
  rw [h' r'' v]
  constructor
  · rintro ⟨r', hσ, hv⟩
    obtain ⟨r, hρ, hv⟩ := (h r' v).1 hv
    exact ⟨r, (hτ r r'').2 ⟨r', hρ, hσ⟩, hv⟩
  · rintro ⟨r, hr, hv⟩
    obtain ⟨r', hρ, hσ⟩ := (hτ r r'').1 hr
    exact ⟨r', hσ, (h r' v).2 ⟨r, hρ, hv⟩⟩

theorem Moved.congr {ρ σ : ℕ → ℕ → Prop} {t t' : ℕ → Option β} (h : Moved ρ t t')
    (hσ : ∀ r r', σ r r' ↔ ρ r r') : Moved σ t t' := by
  intro r' v
  simp only [h r' v, hσ]

/-- Entries that are only removed. -/
theorem Moved.of_removed {C : ℕ → Prop} [DecidablePred C] {t t' : ℕ → Option β}
    (h : ∀ r, t' r = if C r then none else t r) : Moved (fun r r' => r' = r ∧ ¬ C r) t t' := by
  intro r' v
  rw [h]
  constructor
  · intro hv
    split_ifs at hv with hC
    exact ⟨r', ⟨rfl, hC⟩, hv⟩
  · rintro ⟨r, ⟨rfl, hC⟩, hv⟩
    rwa [if_neg hC]

/-- Entries that make room for inserted rows. -/
theorem Moved.of_inserted {is : List ℕ} {t t' : ℕ → Option β}
    (h : ∀ r, t' r = if r ∈ is then none else t (Nat.count (fun k => k ∉ is) r)) :
    Moved (fun r r' => afterDeletion is r' = some r) t t' := by
  intro r' v
  simp only [afterDeletion_eq_some]
  rw [h]
  constructor
  · intro hv
    split_ifs at hv with hr
    exact ⟨_, ⟨hr, rfl⟩, hv⟩
  · rintro ⟨r, ⟨hr, rfl⟩, hv⟩
    rwa [if_neg hr]

/-- Tables with an entry wherever another has one still are so when both have moved. -/
theorem Moved.isSome {γ : Type*} {ρ : ℕ → ℕ → Prop} {t t' : ℕ → Option β} {u u' : ℕ → Option γ}
    (h : Moved ρ t t') (hu : Moved ρ u u') (hsub : ∀ r, (t r).isSome → (u r).isSome) (r' : ℕ)
    (hs : (t' r').isSome) : (u' r').isSome := by
  obtain ⟨v, hv⟩ := Option.isSome_iff_exists.1 hs
  obtain ⟨r, hr, hv⟩ := (h r' v).1 hv
  obtain ⟨w, hw⟩ := Option.isSome_iff_exists.1 (hsub r (by rw [hv]; rfl))
  rw [(hu r' w).2 ⟨r, hr, hw⟩]
  rfl

/-- **A table with one entry shows where its row has gone.** -/
theorem Moved.place_eq {f g : ℕ → Option ℕ} {t t' : ℕ → Option β} {r : ℕ} {v : β}
    (ht : ∀ k, t k = if k = r then some v else none)
    (hf : Moved (fun r r' => f r = some r') t t') (hg : Moved (fun r r' => g r = some r') t t') :
    f r = g r := by
  have hplace : ∀ {h : ℕ → Option ℕ}, Moved (fun r r' => h r = some r') t t' →
      ∀ r', t' r' = some v ↔ h r = some r' := by
    intro h hh r'
    rw [hh r' v]
    constructor
    · rintro ⟨k, hk, hv⟩
      rw [ht] at hv
      split_ifs at hv with hkr
      rwa [hkr] at hk
    · exact fun hk => ⟨r, hk, by rw [ht, if_pos rfl]⟩
  refine Option.ext fun r' => ?_
  rw [← hplace hf, hplace hg]

/-- What each entry says of its row. -/
def Agrees (R : α → β → Prop) (rows : ℕ → Option α) (table : ℕ → Option β) : Prop :=
  ∀ r v, table r = some v → ∃ x, rows r = some x ∧ R x v

/-- **Entries that move as their rows do still agree with them.** -/
theorem Agrees.move {R : α → β → Prop} {rows rows' : ℕ → Option α} {table table' : ℕ → Option β}
    {ρ : ℕ → ℕ → Prop} (h : Agrees R rows table) (ht : Moved ρ table table')
    (hrows : ∀ r r' x, ρ r r' → rows r = some x → rows' r' = some x) : Agrees R rows' table' := by
  intro r' v hv
  obtain ⟨r, hr, hv⟩ := (ht r' v).1 hv
  obtain ⟨x, hx, hR⟩ := h r v hv
  exact ⟨x, hrows r r' x hr hx, hR⟩

theorem Agrees.mono {R S : α → β → Prop} {rows : ℕ → Option α} {table : ℕ → Option β}
    (h : Agrees R rows table) (hRS : ∀ x v, R x v → S x v) : Agrees S rows table := by
  intro r v hv
  obtain ⟨x, hx, hR⟩ := h r v hv
  exact ⟨x, hx, hRS x v hR⟩

/-! ## Dictionaries with new keys -/

section Rekey

variable {κ : Type*} [DecidableEq κ]

/-- The value of a key, or its absence, under another key. -/
def put (k : κ) (v : Option α) (d : AList fun _ : κ => α) : AList fun _ : κ => α :=
  match v with
  | some v => d.insert k v
  | none => d.erase k

theorem lookup_put (k : κ) (v : Option α) (d : AList fun _ : κ => α) :
    (put k v d).lookup k = v := by
  cases v with
  | none => exact AList.lookup_erase k d
  | some v => exact AList.lookup_insert d

theorem lookup_put_ne {k k' : κ} (h : k' ≠ k) (v : Option α) (d : AList fun _ : κ => α) :
    (put k v d).lookup k' = d.lookup k' := by
  cases v with
  | none => exact AList.lookup_erase_ne h
  | some v => exact AList.lookup_insert_ne h

/-- What is left of a dictionary and what is taken out of it, under the new keys, when the entries
`g` has a new key for are taken out one after the other. -/
def takeOut (g : κ → Option κ) :
    List κ → (d temp : AList fun _ : κ => α) → (AList fun _ : κ => α) × AList fun _ : κ => α
  | [], d, temp => (d, temp)
  | k :: ks, d, temp =>
    match g k with
    | none => takeOut g ks d temp
    | some k' => takeOut g ks (d.erase k) (put k' (d.lookup k) temp)

/-- The entries that have a new key, taken out and then put back in. -/
def rekey (g : κ → Option κ) (ks : List κ) (d : AList fun _ : κ => α) : AList fun _ : κ => α :=
  (takeOut g ks d ∅).2 ∪ (takeOut g ks d ∅).1

variable {g : κ → Option κ} {ks : List κ}

theorem lookup_takeOut_fst (d temp : AList fun _ : κ => α) (k : κ) :
    (takeOut g ks d temp).1.lookup k = if k ∈ ks ∧ (g k).isSome then none else d.lookup k := by
  induction ks generalizing d temp with
  | nil => simp [takeOut]
  | cons k₀ ks ih =>
    cases hg : g k₀ with
    | none =>
      rw [takeOut, hg, ih]
      by_cases hk : k = k₀
      · subst hk
        simp [hg]
      · simp [hk]
    | some k' =>
      rw [takeOut, hg]
      simp only [ih]
      by_cases hk : k = k₀
      · subst hk
        simp [hg]
      · simp [hk, AList.lookup_erase_ne hk]

theorem lookup_takeOut_snd_of_none {k' : κ} (d temp : AList fun _ : κ => α)
    (h : ∀ k ∈ ks, g k ≠ some k') :
    (takeOut g ks d temp).2.lookup k' = temp.lookup k' := by
  induction ks generalizing d temp with
  | nil => rfl
  | cons k₀ ks ih =>
    have hrest : ∀ k ∈ ks, g k ≠ some k' := fun k hk => h k (List.mem_cons_of_mem _ hk)
    cases hg : g k₀ with
    | none =>
      rw [takeOut, hg]
      exact ih d temp hrest
    | some k₁ =>
      have hne : k' ≠ k₁ := fun he => h k₀ List.mem_cons_self (by rw [hg, he])
      rw [takeOut, hg]
      simp only [ih _ _ hrest, lookup_put_ne hne]

/-- An entry is found under its new key. -/
theorem lookup_takeOut_snd {k k' : κ} (d temp : AList fun _ : κ => α) (hks : ks.Nodup)
    (hinj : ∀ k₁ ∈ ks, ∀ k₂ ∈ ks, ∀ k', g k₁ = some k' → g k₂ = some k' → k₁ = k₂)
    (hk : k ∈ ks) (h : g k = some k') :
    (takeOut g ks d temp).2.lookup k' = d.lookup k := by
  induction ks generalizing d temp with
  | nil => exact absurd hk List.not_mem_nil
  | cons k₀ ks ih =>
    rw [List.nodup_cons] at hks
    have hinj' : ∀ k₁ ∈ ks, ∀ k₂ ∈ ks, ∀ k', g k₁ = some k' → g k₂ = some k' → k₁ = k₂ :=
      fun k₁ h₁ k₂ h₂ => hinj k₁ (List.mem_cons_of_mem _ h₁) k₂ (List.mem_cons_of_mem _ h₂)
    by_cases heq : k = k₀
    · subst heq
      have hfree : ∀ k₁ ∈ ks, g k₁ ≠ some k' := fun k₁ h₁ he =>
        hks.1 (hinj k₁ (List.mem_cons_of_mem _ h₁) k List.mem_cons_self k' he h ▸ h₁)
      rw [takeOut, h]
      simp only [lookup_takeOut_snd_of_none _ _ hfree, lookup_put]
    · have hmem : k ∈ ks := (List.mem_cons.1 hk).resolve_left heq
      cases hg : g k₀ with
      | none =>
        rw [takeOut, hg]
        exact ih d temp hks.2 hinj' hmem
      | some k₁ =>
        rw [takeOut, hg]
        simp only [ih _ _ hks.2 hinj' hmem, AList.lookup_erase_ne heq]

/-- A key of the new dictionary is new or an old one. -/
theorem mem_rekey {d : AList fun _ : κ => α} {k' : κ} (h : k' ∈ rekey g ks d) :
    (∃ k ∈ ks, g k = some k') ∨ k' ∈ d := by
  rw [rekey, AList.mem_union] at h
  rcases h with h | h
  · by_contra hno
    rw [not_or] at hno
    refine AList.lookup_eq_none.1 ?_ h
    rw [lookup_takeOut_snd_of_none d ∅ fun k hk he => hno.1 ⟨k, hk, he⟩]
    rfl
  · obtain ⟨v, hv⟩ := Option.isSome_iff_exists.1 (AList.lookup_isSome.2 h)
    rw [lookup_takeOut_fst] at hv
    split_ifs at hv
    exact Or.inr (AList.lookup_isSome.1 (by rw [hv]; rfl))

/-- **What a dictionary with new keys holds**: the entries under their new keys, and those that
have none. -/
theorem lookup_rekey_eq_some {d : AList fun _ : κ => α} (hks : ks.Nodup)
    (hinj : ∀ k₁ ∈ ks, ∀ k₂ ∈ ks, ∀ k', g k₁ = some k' → g k₂ = some k' → k₁ = k₂)
    (hcover : ∀ k ∈ d, k ∈ ks)
    (hfree : ∀ k ∈ ks, ∀ k', g k = some k' → g k' = none → k' ∉ d) (k' : κ) (v : α) :
    (rekey g ks d).lookup k' = some v ↔
      (∃ k, g k = some k' ∧ d.lookup k = some v) ∨ g k' = none ∧ d.lookup k' = some v := by
  have hmem : ∀ k v, d.lookup k = some v → k ∈ ks := fun k v hv =>
    hcover k (AList.lookup_isSome.1 (by rw [hv]; rfl))
  rw [rekey, ← Option.mem_def, AList.mem_lookup_union, Option.mem_def, Option.mem_def,
    lookup_takeOut_fst]
  by_cases hex : ∃ k ∈ ks, g k = some k'
  · obtain ⟨k, hk, hg⟩ := hex
    have hsnd := lookup_takeOut_snd d ∅ hks hinj hk hg
    have hleft : (∃ k, g k = some k' ∧ d.lookup k = some v) ↔ d.lookup k = some v := by
      constructor
      · rintro ⟨k₁, hg₁, hv⟩
        rwa [hinj k hk k₁ (hmem k₁ v hv) k' hg hg₁]
      · exact fun hv => ⟨k, hg, hv⟩
    have hright : ¬ (g k' = none ∧ d.lookup k' = some v) := by
      rintro ⟨hn, hv⟩
      exact hfree k hk k' hg hn (AList.lookup_isSome.1 (by rw [hv]; rfl))
    have hrest : ¬ (if k' ∈ ks ∧ (g k').isSome then none else d.lookup k') = some v := by
      intro hv
      split_ifs at hv with hc
      refine hright ⟨?_, hv⟩
      have hns : ¬ (g k').isSome := fun hs => hc ⟨hmem k' v hv, hs⟩
      simpa using hns
    rw [hleft, hsnd]
    tauto
  · push Not at hex
    have hsnd := lookup_takeOut_snd_of_none d ∅ hex
    have hleft : ¬ ∃ k, g k = some k' ∧ d.lookup k = some v := by
      rintro ⟨k, hg, hv⟩
      exact hex k (hmem k v hv) hg
    have hnot : k' ∉ (takeOut g ks d ∅).2 := by
      rw [← AList.lookup_eq_none, hsnd]
      rfl
    have hrest : (if k' ∈ ks ∧ (g k').isSome then none else d.lookup k') = some v ↔
        g k' = none ∧ d.lookup k' = some v := by
      constructor
      · intro hv
        split_ifs at hv with hc
        have hns : ¬ (g k').isSome := fun hs => hc ⟨hmem k' v hv, hs⟩
        exact ⟨by simpa using hns, hv⟩
      · rintro ⟨hn, hv⟩
        rw [if_neg (by simp [hn]), hv]
    rw [hsnd, AList.lookup_empty, hrest]
    tauto

end Rekey

end RowEdits
