import RCSdk.Proof.CellHeightMoves

/-!
# Cached heights make room for inserted rows

`insertNewDataAtIndexPaths:` writes the entries of a section into arrays, inserts `NSNull`s and
writes the arrays back. The loop over the keys raises exactly when a height has no frames beside
it (`takeKeys`); what is written back are the old entries, where their rows are after the insertion
(`insertNewDataAtIndexPaths_moved`).
-/

namespace RCSdk

open RowEdits

namespace SDCellAutoHeightManager

/-! ## The arrays of a section -/

theorem setObject_of_lt {α : Type} {array : List (Option α)} {r : ℕ} (h : r < array.length)
    (obj : Option α) :
    setObject array obj r = obj.map fun obj => array.set r (some obj) := by
  cases obj with
  | none => rfl
  | some obj =>
    have hr : 0 ≤ (r : ℤ) ∧ (r : ℤ) < array.length := ⟨Int.natCast_nonneg r, by omega⟩
    simp only [setObject, if_pos hr]
    rfl

/-- What the loop over some keys leaves of an array and a dictionary, in a section of `n` rows. -/
structure TakenFrom {α : Type} (s₀ n : ℕ) (ks : List (List Char)) (array : List (Option α))
    (d : NSMutableDictionary α) (array' : List (Option α)) (d' : NSMutableDictionary α) : Prop where
  length : array'.length = n
  entry : ∀ r : ℕ, array'[r]? = if cacheKey s₀ r ∈ ks then some (entriesIn d s₀ r) else array[r]?
  left : ∀ k, d'.lookup k = if k ∈ ks ∧ sectionOfKey k = s₀ then none else d.lookup k

section TakenFrom

variable {α : Type} {s₀ n : ℕ} {ks : List (List Char)} {array array' : List (Option α)}
  {d d' : NSMutableDictionary α}

/-- One entry of the section taken. -/
theorem TakenFrom.cons {r₀ : ℕ} (hnot : cacheKey s₀ r₀ ∉ ks) (hn : array.length = n) (hr : r₀ < n)
    (h : TakenFrom s₀ n ks (array.set r₀ (entriesIn d s₀ r₀)) (d.erase (cacheKey s₀ r₀)) array' d') :
    TakenFrom s₀ n (cacheKey s₀ r₀ :: ks) array d array' d' where
  length := h.length
  entry r := by
    rw [h.entry r]
    by_cases hr' : r = r₀
    · subst hr'
      rw [if_neg hnot, if_pos List.mem_cons_self, List.getElem?_set_self (by omega)]
    · have hne : cacheKey s₀ r ≠ cacheKey s₀ r₀ := fun he => hr' (cacheKey_inj.1 he).2
      simp only [List.mem_cons, hne, false_or, entriesIn, AList.lookup_erase_ne hne]
      rw [List.getElem?_set_ne (Ne.symm hr')]
  left k := by
    rw [h.left k]
    by_cases hk : k = cacheKey s₀ r₀
    · subst hk
      simp [AList.lookup_erase]
    · simp [hk, AList.lookup_erase_ne hk]

/-- A key of another section is passed over. -/
theorem TakenFrom.cons_of_ne {s r₀ : ℕ} (hs : s ≠ s₀) (h : TakenFrom s₀ n ks array d array' d') :
    TakenFrom s₀ n (cacheKey s r₀ :: ks) array d array' d' where
  length := h.length
  entry r := by
    have hne : cacheKey s₀ r ≠ cacheKey s r₀ := fun he => hs (cacheKey_inj.1 he).1.symm
    simp only [h.entry r, List.mem_cons, hne, false_or]
  left k := by
    rw [h.left k]
    by_cases hk : k = cacheKey s r₀
    · subst hk
      simp [hs]
    · simp [hk]

end TakenFrom

/-- What the loop leaves of the arrays and the dictionaries. -/
def Taken (s₀ n : ℕ) (ks : List (List Char)) (a a' : SectionArrays) : Prop :=
  TakenFrom s₀ n ks a.tempHeightCaches a.cacheDictionary a'.tempHeightCaches a'.cacheDictionary ∧
    TakenFrom s₀ n ks a.tempFrameCaches a.subviewFrameCacheDict a'.tempFrameCaches
      a'.subviewFrameCacheDict

variable {s₀ n : ℕ}

/-- **The loop over the keys** raises exactly when a height of the section has no frames. -/
theorem takeKeys {ks : List (List Char)} (hks : ks.Nodup)
    (hkeys : ∀ k ∈ ks, ∃ s r : ℕ, k = cacheKey s r) (a : SectionArrays)
    (hn : a.tempHeightCaches.length = n) (hn' : a.tempFrameCaches.length = n)
    (hrange : ∀ r : ℕ, cacheKey s₀ r ∈ ks → r < n)
    (hheld : ∀ r : ℕ, cacheKey s₀ r ∈ ks → (entriesIn a.cacheDictionary s₀ r).isSome) :
    ((ks.foldlM (takeKey s₀) a).isSome ↔
      ∀ r : ℕ, cacheKey s₀ r ∈ ks → (entriesIn a.subviewFrameCacheDict s₀ r).isSome) ∧
    ∀ a', ks.foldlM (takeKey s₀) a = some a' → Taken s₀ n ks a a' := by
  induction ks generalizing a with
  | nil =>
    refine ⟨by simp, fun a' ha' => ?_⟩
    obtain rfl := Option.some.inj ha'
    exact ⟨⟨hn, by simp, by simp⟩, ⟨hn', by simp, by simp⟩⟩
  | cons k ks ih =>
    rw [List.nodup_cons] at hks
    obtain ⟨s, r₀, rfl⟩ := hkeys k List.mem_cons_self
    have hkeys' : ∀ k ∈ ks, ∃ s r : ℕ, k = cacheKey s r := fun k hk =>
      hkeys k (List.mem_cons_of_mem _ hk)
    have hrange' : ∀ r : ℕ, cacheKey s₀ r ∈ ks → r < n := fun r hr =>
      hrange r (List.mem_cons_of_mem _ hr)
    rw [List.foldlM_cons]
    by_cases hs : s = s₀
    · subst hs
      have hr₀ := hrange r₀ List.mem_cons_self
      obtain ⟨h, hh⟩ := Option.isSome_iff_exists.1 (hheld r₀ List.mem_cons_self)
      have hstep : takeKey s a (cacheKey s r₀) =
          (entriesIn a.subviewFrameCacheDict s r₀).map fun f =>
            ⟨a.tempHeightCaches.set r₀ (some h), a.tempFrameCaches.set r₀ (some f),
              a.cacheDictionary.erase (cacheKey s r₀),
              a.subviewFrameCacheDict.erase (cacheKey s r₀)⟩ := by
        unfold takeKey
        rw [if_pos (sectionOfKey_cacheKey s r₀), rowOfKey_cacheKey, setObject_of_lt (by omega),
          setObject_of_lt (by omega)]
        unfold entriesIn at hh ⊢
        rw [hh]
        cases a.subviewFrameCacheDict.lookup (cacheKey s r₀) <;> rfl
      rw [hstep]
      cases hf : entriesIn a.subviewFrameCacheDict s r₀ with
      | none =>
        refine ⟨iff_of_false (by simp) fun hall => ?_, by simp⟩
        have := hall r₀ List.mem_cons_self
        rw [hf] at this
        cases this
      | some f =>
        have hne : ∀ r : ℕ, cacheKey s r ∈ ks → cacheKey s r ≠ cacheKey s r₀ := fun r hr he =>
          hks.1 (he ▸ hr)
        have hih := ih hks.2 hkeys' ⟨a.tempHeightCaches.set r₀ (some h),
          a.tempFrameCaches.set r₀ (some f), a.cacheDictionary.erase (cacheKey s r₀),
          a.subviewFrameCacheDict.erase (cacheKey s r₀)⟩ (by simpa using hn) (by simpa using hn')
          hrange' fun r hr => by
            have := hheld r (List.mem_cons_of_mem _ hr)
            unfold entriesIn at this ⊢
            rwa [AList.lookup_erase_ne (hne r hr)]
        refine ⟨?_, fun a' ha' => ?_⟩
        · rw [Option.map_some, Option.bind_eq_bind, Option.bind_some, hih.1]
          constructor
          · intro hall r hr
            rcases List.mem_cons.1 hr with he | hr
            · obtain rfl := (cacheKey_inj.1 he).2
              rw [hf]
              rfl
            · have := hall r hr
              unfold entriesIn at this ⊢
              rwa [AList.lookup_erase_ne (hne r hr)] at this
          · intro hall r hr
            have := hall r (List.mem_cons_of_mem _ hr)
            unfold entriesIn at this ⊢
            rwa [AList.lookup_erase_ne (hne r hr)]
        · have htaken := hih.2 a' ha'
          rw [← hh, ← hf] at htaken
          exact ⟨htaken.1.cons hks.1 hn hr₀, htaken.2.cons hks.1 hn' hr₀⟩
    · have hstep : takeKey s₀ a (cacheKey s r₀) = some a := by
        unfold takeKey
        rw [if_neg (by rw [sectionOfKey_cacheKey]; exact_mod_cast hs)]
      have hne : ∀ r : ℕ, cacheKey s₀ r ≠ cacheKey s r₀ := fun r he =>
        hs (cacheKey_inj.1 he).1.symm
      have hih := ih hks.2 hkeys' a hn hn' hrange' fun r hr =>
        hheld r (List.mem_cons_of_mem _ hr)
      rw [hstep]
      refine ⟨?_, fun a' ha' => ⟨(hih.2 a' ha').1.cons_of_ne hs, (hih.2 a' ha').2.cons_of_ne hs⟩⟩
      simpa [hne] using hih.1

/-! ## Room for the new rows -/

/-- **The `NSNull`s can be inserted when the rows are rows of the new section.** -/
theorem insertNulls_eq {α : Type} {rows : List ℕ} (hnodup : rows.Nodup) (array : List (Option α))
    (hrange : ∀ i ∈ rows, i < array.length + rows.length) :
    ∃ array', insertNulls rows array = some array' ∧ array'.length = array.length + rows.length ∧
      ∀ k, array'[k]? = if k ∈ rows then some none
        else array[Nat.count (fun k => k ∉ rows) k]? := by
  have hlen : (rows.toFinset.sort (· ≤ ·)).length = rows.length := by
    rw [Finset.length_sort, List.toFinset_card_of_nodup hnodup]
  have hmem : ∀ k, k ∈ rows.toFinset.sort (· ≤ ·) ↔ k ∈ rows := fun k => by
    rw [Finset.mem_sort, List.mem_toFinset]
  have hsort : (rows.toFinset.sort (· ≤ ·)).Pairwise (· < ·) :=
    (Finset.sortedLT_sort rows.toFinset).pairwise
  have hsome := (insertAll_isSome_iff (none : Option α) hsort array).2 fun i hi => by
    rw [hlen]
    exact hrange i ((hmem i).1 hi)
  obtain ⟨array', ha⟩ := Option.isSome_iff_exists.1 hsome
  refine ⟨array', ?_, ?_, fun k => ?_⟩
  · rw [insertNulls, if_pos hlen, ha]
  · rw [length_insertAll ha, hlen]
  · rw [getElem?_insertAll hsort ha k]
    simp only [hmem]

theorem entriesIn_put {α : Type} (d : NSMutableDictionary α) (s₀ r₀ : ℕ) (v : Option α)
    (s r : ℕ) :
    entriesIn (put (cacheKey s₀ r₀) v d) s r = if s = s₀ ∧ r = r₀ then v else entriesIn d s r := by
  unfold entriesIn
  split_ifs with h
  · rw [h.1, h.2, lookup_put]
  · exact lookup_put_ne (fun he => h (cacheKey_inj.1 he)) v d

/-- What is written back, one row after the other. -/
theorem writeRows_entries (s₀ : ℕ) (frames : List (Option (List (Grids.Rect ℚ))))
    (m : SDCellAutoHeightManager) (heights : List (Option ℚ)) (s r : ℕ) :
    (heights.zipIdx.foldl (writeRow s₀ frames) m).heights s r =
        (if s = s₀ then (heights[r]?.join).or (m.heights s r) else m.heights s r) ∧
      (heights.zipIdx.foldl (writeRow s₀ frames) m).frames s r =
        (if s = s₀ ∧ (heights[r]?.join).isSome then frames[r]?.join else m.frames s r) := by
  induction heights using List.reverseRecOn with
  | nil => simp
  | append_singleton hs h ih =>
    rw [List.zipIdx_append, List.foldl_append, List.zipIdx_singleton, List.foldl_cons,
      List.foldl_nil, Nat.zero_add]
    generalize hs.zipIdx.foldl (writeRow s₀ frames) m = m₁ at ih ⊢
    have hplace : r ≠ hs.length → (hs ++ [h])[r]?.join = hs[r]?.join := by
      intro hr
      rcases Nat.lt_or_gt_of_ne hr with hr | hr
      · rw [List.getElem?_append_left hr]
      · rw [List.getElem?_eq_none (by simp; omega), List.getElem?_eq_none (by omega)]
    cases h with
    | none =>
      have hsame : (hs ++ [none])[r]?.join = hs[r]?.join := by
        by_cases hr : r = hs.length
        · subst hr
          simp
        · exact hplace hr
      rw [hsame]
      exact ih
    | some v =>
      have hput₁ : (writeRow s₀ frames m₁ (some v, hs.length)).heights s r =
          if s = s₀ ∧ r = hs.length then some v else m₁.heights s r :=
        entriesIn_put _ _ _ _ _ _
      have hput₂ : (writeRow s₀ frames m₁ (some v, hs.length)).frames s r =
          if s = s₀ ∧ r = hs.length then frames[hs.length]?.join else m₁.frames s r :=
        entriesIn_put _ _ _ _ _ _
      rw [hput₁, hput₂]
      by_cases hr : r = hs.length
      · subst hr
        by_cases hs₀ : s = s₀
        · simp [hs₀]
        · simp [hs₀, ih]
      · simp only [hr, and_false, if_false, hplace hr]
        exact ih

/-- The other fields are not written. -/
theorem writeRows_width (s₀ : ℕ) (frames : List (Option (List (Grids.Rect ℚ))))
    (m : SDCellAutoHeightManager) (entries : List (Option ℚ × ℕ)) :
    (entries.foldl (writeRow s₀ frames) m).contentViewWidth = m.contentViewWidth ∧
      (entries.foldl (writeRow s₀ frames) m).shouldKeepHeightCacheWhenReloadingData =
        m.shouldKeepHeightCacheWhenReloadingData := by
  induction entries generalizing m with
  | nil => exact ⟨rfl, rfl⟩
  | cons e entries ih =>
    rw [List.foldl_cons]
    obtain ⟨h₁, h₂⟩ := ih (writeRow s₀ frames m e)
    rw [h₁, h₂]
    unfold writeRow
    cases e.1 <;> exact ⟨rfl, rfl⟩

/-- What is written back are entries of index paths. -/
theorem writeRows_keys (s₀ : ℕ) (frames : List (Option (List (Grids.Rect ℚ))))
    (m : SDCellAutoHeightManager) (entries : List (Option ℚ × ℕ))
    (hm : ByIndexPath m.cacheDictionary ∧ ByIndexPath m.subviewFrameCacheDict) :
    ByIndexPath (entries.foldl (writeRow s₀ frames) m).cacheDictionary ∧
      ByIndexPath (entries.foldl (writeRow s₀ frames) m).subviewFrameCacheDict := by
  induction entries generalizing m with
  | nil => exact hm
  | cons e entries ih =>
    rw [List.foldl_cons]
    refine ih _ ?_
    have hput : ∀ {α : Type} {d : NSMutableDictionary α} (r : ℕ) (v : Option α), ByIndexPath d →
        ByIndexPath (put (cacheKey s₀ r) v d) := by
      intro α d r v hd k hk
      by_cases hkr : k = cacheKey s₀ r
      · exact ⟨s₀, r, hkr⟩
      · rw [← AList.lookup_isSome, lookup_put_ne hkr, AList.lookup_isSome] at hk
        exact hd k hk
    unfold writeRow
    cases e.1 with
    | none => exact hm
    | some v => exact ⟨hput _ _ hm.1, hput _ _ hm.2⟩

/-! ## One section -/

/-- The array of a section with `n` rows holds its entries. -/
theorem TakenFrom.join_eq {α : Type} {s₀ n : ℕ} {ks : List (List Char)} {d d' : NSMutableDictionary α}
    {array' : List (Option α)} (h : TakenFrom s₀ n ks (List.replicate n none) d array' d')
    (hcover : ∀ k ∈ d, k ∈ ks) (r : ℕ) : array'[r]?.join = entriesIn d s₀ r := by
  rw [h.entry]
  split_ifs with hr
  · rfl
  · have hnone : entriesIn d s₀ r = none :=
      AList.lookup_eq_none.2 fun hd => hr (hcover _ hd)
    rw [hnone, List.getElem?_replicate]
    split_ifs <;> rfl

/-- The dictionary is left without the entries of the section. -/
theorem TakenFrom.entriesIn_eq {α : Type} {s₀ n : ℕ} {ks : List (List Char)}
    {d d' : NSMutableDictionary α} {array array' : List (Option α)}
    (h : TakenFrom s₀ n ks array d array' d') (hcover : ∀ k ∈ d, k ∈ ks) (s r : ℕ) :
    entriesIn d' s r = if s = s₀ then none else entriesIn d s r := by
  unfold entriesIn
  rw [h.left]
  simp only [sectionOfKey_cacheKey, Nat.cast_inj]
  by_cases hs : s = s₀
  · subst hs
    simp only [and_true, if_true]
    split_ifs with hk
    · rfl
    · exact AList.lookup_eq_none.2 fun hd => hk (hcover _ hd)
  · simp [hs]

theorem TakenFrom.byIndexPath {α : Type} {s₀ n : ℕ} {ks : List (List Char)}
    {d d' : NSMutableDictionary α} {array array' : List (Option α)}
    (h : TakenFrom s₀ n ks array d array' d') (hd : ByIndexPath d) : ByIndexPath d' := by
  intro k hk
  rw [← AList.lookup_isSome, h.left] at hk
  split_ifs at hk
  · exact absurd hk (by simp)
  · exact hd k (AList.lookup_isSome.1 hk)

/-- Arrays with room made in them. -/
theorem join_inserted {α : Type} {rows : List ℕ} {array array' : List (Option α)}
    (h : ∀ k, array'[k]? = if k ∈ rows then some none
      else array[Nat.count (fun k => k ∉ rows) k]?) (k : ℕ) :
    array'[k]?.join =
      if k ∈ rows then none else array[Nat.count (fun k => k ∉ rows) k]?.join := by
  rw [h]
  split_ifs <;> rfl

variable [KeyOrder]

open KeyOrder

/-- **The rows inserted into one section**: when it raises, and where the entries are then. -/
theorem insertRowsInSection_moved {m : SDCellAutoHeightManager} (hm : m.WellKeyed) (s₀ n : ℕ)
    {rows : List ℕ} (hnodup : rows.Nodup) (hrange : ∀ i ∈ rows, i < n + rows.length)
    (hheld : ∀ r, (m.heights s₀ r).isSome → r < n) :
    ((m.insertRowsInSection s₀ n rows).isSome ↔
      ∀ r, (m.heights s₀ r).isSome → (m.frames s₀ r).isSome) ∧
    ∀ m', m.insertRowsInSection s₀ n rows = some m' → m'.WellKeyed ∧
      m.MovesTo m' (fun s r r' => if s = s₀ then afterDeletion rows r' = some r else r' = r) ∧
      m'.contentViewWidth = m.contentViewWidth ∧
      m'.shouldKeepHeightCacheWhenReloadingData = m.shouldKeepHeightCacheWhenReloadingData := by
  have hsame : ∀ s, s ≠ s₀ → ∀ {α : Type} {t t' : ℕ → Option α}, (∀ r, t' r = t r) →
      Moved (fun r r' => if s = s₀ then afterDeletion rows r' = some r else r' = r) t t' := by
    intro s hs α t t' ht
    simp only [if_neg hs]
    rw [funext ht]
    exact Moved.refl t
  unfold insertRowsInSection
  by_cases hn : n = 0
  · -- there are no rows, so nothing is cached
    have hnone : ∀ r, m.heights s₀ r = none := fun r => by
      by_contra hr
      have := hheld r (Option.isSome_iff_ne_none.2 hr)
      omega
    have hnone' : ∀ r, m.frames s₀ r = none := fun r => by
      by_contra hr
      have := hm.framed s₀ r (Option.isSome_iff_ne_none.2 hr)
      rw [hnone] at this
      cases this
    rw [if_pos hn]
    refine ⟨by simp [hnone], fun m' hm' => ?_⟩
    obtain rfl := Option.some.inj hm'
    refine ⟨hm, fun s => ?_, rfl, rfl⟩
    by_cases hs : s = s₀
    · subst hs
      exact ⟨fun r' v => by simp [hnone], fun r' v => by simp [hnone']⟩
    · exact ⟨hsame s hs fun _ => rfl, hsame s hs fun _ => rfl⟩
  rw [if_neg hn]
  have hks : (allKeys m.cacheDictionary).Nodup :=
    (perm m.cacheDictionary).nodup_iff.2 m.cacheDictionary.keys_nodup
  have hmem : ∀ k, k ∈ allKeys m.cacheDictionary ↔ k ∈ m.cacheDictionary := fun k =>
    (perm m.cacheDictionary).mem_iff
  have hcover : ∀ k ∈ m.subviewFrameCacheDict, k ∈ allKeys m.cacheDictionary := by
    intro k hk
    obtain ⟨s, r, rfl⟩ := hm.frameKeys k hk
    exact (hmem _).2 (mem_iff_entriesIn.2 (hm.framed s r (mem_iff_entriesIn.1 hk)))
  have hkey : ∀ r : ℕ, cacheKey s₀ r ∈ allKeys m.cacheDictionary ↔ (m.heights s₀ r).isSome := fun r =>
    (hmem _).trans mem_iff_entriesIn
  obtain ⟨hraise, htaken⟩ := takeKeys hks (fun k hk => hm.keys k ((hmem k).1 hk))
    ⟨List.replicate n none, List.replicate n none, m.cacheDictionary, m.subviewFrameCacheDict⟩
    List.length_replicate List.length_replicate (fun r hr => hheld r ((hkey r).1 hr))
    (fun r hr => (hkey r).1 hr)
  simp only [hkey] at hraise
  cases hfold : (allKeys m.cacheDictionary).foldlM (takeKey s₀)
      ⟨List.replicate n none, List.replicate n none, m.cacheDictionary,
        m.subviewFrameCacheDict⟩ with
  | none =>
    rw [hfold] at hraise
    exact ⟨iff_of_false (by simp) fun h => by simpa using hraise.2 h, by simp⟩
  | some a =>
    rw [hfold] at hraise
    obtain ⟨hth, htf⟩ := htaken a hfold
    obtain ⟨hs', hhs, -, hheights⟩ := insertNulls_eq hnodup a.tempHeightCaches
      (by rw [hth.length]; exact hrange)
    obtain ⟨fs', hfs, -, hframes⟩ := insertNulls_eq hnodup a.tempFrameCaches
      (by rw [htf.length]; exact hrange)
    simp only [Option.bind_eq_bind, Option.bind_some, hhs, hfs, Option.pure_def, Option.isSome_some,
      true_iff, Option.some.injEq]
    refine ⟨hraise.1 rfl, fun m' hm' => ?_⟩
    have hcover' : ∀ k ∈ m.cacheDictionary, k ∈ allKeys m.cacheDictionary := fun k hk =>
      (hmem k).2 hk
    have hentry := writeRows_entries s₀ fs'
      { m with cacheDictionary := a.cacheDictionary
               subviewFrameCacheDict := a.subviewFrameCacheDict } hs'
    have hwidth := writeRows_width s₀ fs'
      { m with cacheDictionary := a.cacheDictionary
               subviewFrameCacheDict := a.subviewFrameCacheDict } hs'.zipIdx
    have hkeys := writeRows_keys s₀ fs'
      { m with cacheDictionary := a.cacheDictionary
               subviewFrameCacheDict := a.subviewFrameCacheDict } hs'.zipIdx
      ⟨hth.byIndexPath hm.keys, htf.byIndexPath hm.frameKeys⟩
    rw [hm'] at hentry hwidth hkeys
    have hrow : ∀ r, hs'[r]?.join =
        if r ∈ rows then none else m.heights s₀ (Nat.count (fun k => k ∉ rows) r) := fun r => by
      rw [join_inserted hheights, hth.join_eq hcover']
      rfl
    have hrow' : ∀ r, fs'[r]?.join =
        if r ∈ rows then none else m.frames s₀ (Nat.count (fun k => k ∉ rows) r) := fun r => by
      rw [join_inserted hframes, htf.join_eq hcover]
      rfl
    have hmoved : m.MovesTo m'
        (fun s r r' => if s = s₀ then afterDeletion rows r' = some r else r' = r) := by
      intro s
      by_cases hs : s = s₀
      · subst hs
        simp only [if_true]
        refine ⟨Moved.of_inserted fun r => ?_, Moved.of_inserted fun r => ?_⟩
        · rw [(hentry s r).1, if_pos rfl, heights, hth.entriesIn_eq hcover', if_pos rfl,
            Option.or_none, hrow]
        · rw [(hentry s r).2, ← hrow']
          by_cases hsome : (hs'[r]?.join).isSome
          · rw [if_pos ⟨rfl, hsome⟩]
          · rw [if_neg fun h => hsome h.2, frames, htf.entriesIn_eq hcover, if_pos rfl, hrow']
            rw [hrow] at hsome
            split_ifs at hsome ⊢ with hr
            · rfl
            · by_contra hne
              exact hsome (hm.framed s _ (Option.isSome_iff_ne_none.2 (Ne.symm hne)))
      · refine ⟨hsame s hs fun r => ?_, hsame s hs fun r => ?_⟩
        · rw [(hentry s r).1, if_neg hs, heights, hth.entriesIn_eq hcover', if_neg hs]
          rfl
        · rw [(hentry s r).2, if_neg fun h => hs h.1, frames, htf.entriesIn_eq hcover, if_neg hs]
          rfl
    exact ⟨⟨hkeys.1, hkeys.2, hmoved.framed hm⟩, hmoved, hwidth.1, hwidth.2⟩

/-! ## All sections -/

omit [KeyOrder] in
theorem stringValue_inj {s s' : ℕ} (h : stringValue s = stringValue s') : s = s' := by
  have := congrArg integerValue h
  rw [integerValue_stringValue, integerValue_stringValue] at this
  exact_mod_cast this

omit [KeyOrder] in
/-- The index paths are kept by section, in their order. -/
theorem lookup_sectionsdict (indexPaths : List NSIndexPath) (s : ℕ) :
    ((sectionsdict indexPaths).lookup (stringValue s)).getD [] =
      indexPaths.filter fun p => p.inSection = s := by
  induction indexPaths using List.reverseRecOn with
  | nil => rfl
  | append_singleton ps p ih =>
    simp only [sectionsdict, List.foldl_append, List.foldl_cons, List.foldl_nil,
      List.filter_append] at ih ⊢
    by_cases hs : p.inSection = s
    · subst hs
      rw [AList.lookup_insert, Option.getD_some, ih, List.filter_cons_of_pos (by simp)]
      rfl
    · have hne : stringValue s ≠ stringValue p.inSection := fun he => hs (stringValue_inj he).symm
      rw [AList.lookup_insert_ne hne, ih, List.filter_cons_of_neg (by simpa using hs)]
      simp

omit [KeyOrder] in
theorem mem_sectionsdict (indexPaths : List NSIndexPath) (k : List Char) :
    k ∈ sectionsdict indexPaths ↔ ∃ p ∈ indexPaths, k = stringValue p.inSection := by
  induction indexPaths using List.reverseRecOn with
  | nil => simp [sectionsdict]
  | append_singleton ps p ih =>
    simp only [sectionsdict, List.foldl_append, List.foldl_cons, List.foldl_nil,
      AList.mem_insert] at ih ⊢
    rw [ih]
    simp [or_comm, or_and_right, exists_or]

/-- The rows of a call are rows of the table after it, each named once. -/
structure Fit (indexPaths : List NSIndexPath) (numberOfRows : ℕ → ℕ) : Prop where
  nodup : indexPaths.Nodup
  range : ∀ p ∈ indexPaths, p.row < numberOfRows p.inSection + (rowsIn p.inSection indexPaths).length

omit [KeyOrder] in
theorem rowsIn_nodup {indexPaths : List NSIndexPath} (h : indexPaths.Nodup) (s : ℕ) :
    (rowsIn s indexPaths).Nodup := by
  refine List.Nodup.map_on ?_ (h.filter _)
  intro p hp q hq hpq
  have hp := of_decide_eq_true (List.mem_filter.1 hp).2
  have hq := of_decide_eq_true (List.mem_filter.1 hq).2
  cases p
  cases q
  simp only at hp hq hpq
  rw [hp, hq, hpq]

omit [KeyOrder] in
theorem mem_rowsIn {indexPaths : List NSIndexPath} {s r : ℕ} :
    r ∈ rowsIn s indexPaths ↔ ⟨r, s⟩ ∈ indexPaths := by
  simp only [rowsIn, List.mem_map, List.mem_filter, decide_eq_true_eq]
  constructor
  · rintro ⟨p, ⟨hp, rfl⟩, rfl⟩
    exact hp
  · exact fun h => ⟨⟨r, s⟩, ⟨h, rfl⟩, rfl⟩

/-- Some of the sections, one after the other. -/
theorem insertSections_moved (numberOfRows : ℕ → ℕ) {indexPaths : List NSIndexPath}
    (hfit : Fit indexPaths numberOfRows) {ks : List (List Char)} (hks : ks.Nodup)
    (hmem : ∀ k ∈ ks, ∃ s : ℕ, k = stringValue s) {m : SDCellAutoHeightManager} (hm : m.WellKeyed)
    (hheld : ∀ s : ℕ, stringValue s ∈ ks → ∀ r, (m.heights s r).isSome → r < numberOfRows s) :
    let insert := fun (m : SDCellAutoHeightManager) (sectionkey : List Char) =>
      m.insertRowsInSection (integerValue sectionkey)
        (numberOfRows (integerValue sectionkey).toNat)
        ((((sectionsdict indexPaths).lookup sectionkey).getD []).map NSIndexPath.row)
    ((ks.foldlM insert m).isSome ↔ ∀ s : ℕ, stringValue s ∈ ks →
      ∀ r, (m.heights s r).isSome → (m.frames s r).isSome) ∧
    ∀ m', ks.foldlM insert m = some m' → m'.WellKeyed ∧
      m.MovesTo m' (fun s r r' => if stringValue s ∈ ks then
        afterDeletion (rowsIn s indexPaths) r' = some r else r' = r) ∧
      m'.contentViewWidth = m.contentViewWidth ∧
      m'.shouldKeepHeightCacheWhenReloadingData = m.shouldKeepHeightCacheWhenReloadingData := by
  intro insert
  induction ks generalizing m with
  | nil =>
    refine ⟨by simp, fun m' hm' => ?_⟩
    obtain rfl := Option.some.inj hm'
    exact ⟨hm, fun s => ⟨by simpa using Moved.refl _, by simpa using Moved.refl _⟩, rfl, rfl⟩
  | cons k ks ih =>
    rw [List.nodup_cons] at hks
    obtain ⟨s₀, rfl⟩ := hmem k List.mem_cons_self
    have hmem' : ∀ k ∈ ks, ∃ s : ℕ, k = stringValue s := fun k hk =>
      hmem k (List.mem_cons_of_mem _ hk)
    have hstep : insert m (stringValue s₀) =
        m.insertRowsInSection s₀ (numberOfRows s₀) (rowsIn s₀ indexPaths) := by
      simp only [insert, integerValue_stringValue, lookup_sectionsdict]
      rfl
    have hother : ∀ s : ℕ, stringValue s ∈ ks → s ≠ s₀ := by
      rintro s hs rfl
      exact hks.1 hs
    obtain ⟨hraise, hmoves⟩ := insertRowsInSection_moved hm s₀ (numberOfRows s₀)
      (rowsIn_nodup hfit.nodup s₀)
      (fun i hi => hfit.range ⟨i, s₀⟩ (mem_rowsIn.1 hi)) (hheld s₀ List.mem_cons_self)
    rw [← hstep] at hraise hmoves
    rw [List.foldlM_cons]
    cases hfirst : insert m (stringValue s₀) with
    | none =>
      rw [hfirst] at hraise
      refine ⟨iff_of_false (by simp) fun h => ?_, by simp⟩
      simpa using hraise.2 (h s₀ List.mem_cons_self)
    | some m₁ =>
      rw [hfirst] at hraise
      obtain ⟨hw₁, hmoved₁, hwidth₁, hkeep₁⟩ := hmoves m₁ hfirst
      -- the other sections are as before
      have hsame : ∀ s, s ≠ s₀ → m₁.heights s = m.heights s ∧ m₁.frames s = m.frames s := by
        intro s hs
        have := hmoved₁ s
        simp only [if_neg hs] at this
        exact ⟨funext fun r => Option.ext fun v => by simpa using this.1 r v,
          funext fun r => Option.ext fun v => by simpa using this.2 r v⟩
      obtain ⟨hraise', hmoves'⟩ := ih hks.2 hmem' hw₁ fun s hs r hr => by
        rw [(hsame s (hother s hs)).1] at hr
        exact hheld s (List.mem_cons_of_mem _ hs) r hr
      rw [Option.bind_eq_bind, Option.bind_some]
      refine ⟨?_, fun m' hm' => ?_⟩
      · rw [hraise']
        constructor
        · intro h s hs
          rcases List.mem_cons.1 hs with he | hs
          · obtain rfl := stringValue_inj he
            exact hraise.1 rfl
          · have := h s hs
            rwa [(hsame s (hother s hs)).1, (hsame s (hother s hs)).2] at this
        · intro h s hs
          rw [(hsame s (hother s hs)).1, (hsame s (hother s hs)).2]
          exact h s (List.mem_cons_of_mem _ hs)
      · obtain ⟨hw', hmoved', hwidth', hkeep'⟩ := hmoves' m' hm'
        refine ⟨hw', fun s => ?_, hwidth'.trans hwidth₁, hkeep'.trans hkeep₁⟩
        have hcomp : ∀ r r'', (if stringValue s ∈ stringValue s₀ :: ks then
            afterDeletion (rowsIn s indexPaths) r'' = some r else r'' = r) ↔
            ∃ r', (if s = s₀ then afterDeletion (rowsIn s₀ indexPaths) r' = some r else r' = r) ∧
              (if stringValue s ∈ ks then afterDeletion (rowsIn s indexPaths) r'' = some r'
                else r'' = r') := by
          intro r r''
          by_cases hs : s = s₀
          · subst hs
            simp [hks.1]
          · have hne : stringValue s ≠ stringValue s₀ := fun he => hs (stringValue_inj he)
            simp [hs, hne]
        exact ⟨(hmoved₁ s).1.comp (hmoved' s).1 hcomp, (hmoved₁ s).2.comp (hmoved' s).2 hcomp⟩

/-- **`insertNewDataAtIndexPaths:`** raises exactly when a height in a section with a new row has
no frames, and else makes room for the rows in every section. -/
theorem insertNewDataAtIndexPaths_moved (numberOfRows : ℕ → ℕ) {indexPaths : List NSIndexPath}
    (hfit : Fit indexPaths numberOfRows) {m : SDCellAutoHeightManager} (hm : m.WellKeyed)
    (hheld : ∀ s r, (m.heights s r).isSome → r < numberOfRows s) :
    ((m.insertNewDataAtIndexPaths numberOfRows indexPaths).isSome ↔ ∀ p ∈ indexPaths,
      ∀ r, (m.heights p.inSection r).isSome → (m.frames p.inSection r).isSome) ∧
    ∀ m', m.insertNewDataAtIndexPaths numberOfRows indexPaths = some m' → m'.WellKeyed ∧
      m.MovesTo m' (fun s r r' => afterDeletion (rowsIn s indexPaths) r' = some r) ∧
      m'.contentViewWidth = m.contentViewWidth ∧
      m'.shouldKeepHeightCacheWhenReloadingData = m.shouldKeepHeightCacheWhenReloadingData := by
  have hperm := KeyOrder.perm (sectionsdict indexPaths)
  have hmem : ∀ k, k ∈ KeyOrder.allKeys (sectionsdict indexPaths) ↔
      ∃ p ∈ indexPaths, k = stringValue p.inSection := fun k =>
    hperm.mem_iff.trans (mem_sectionsdict indexPaths k)
  obtain ⟨hraise, hmoves⟩ := insertSections_moved numberOfRows hfit
    (hperm.nodup_iff.2 (sectionsdict indexPaths).keys_nodup)
    (fun k hk => by
      obtain ⟨p, -, rfl⟩ := (hmem k).1 hk
      exact ⟨p.inSection, rfl⟩) hm (fun s _ => hheld s)
  have hsection : ∀ s : ℕ, stringValue s ∈ KeyOrder.allKeys (sectionsdict indexPaths) ↔
      ∃ p ∈ indexPaths, p.inSection = s := by
    intro s
    rw [hmem]
    constructor
    · rintro ⟨p, hp, he⟩
      exact ⟨p, hp, (stringValue_inj he).symm⟩
    · rintro ⟨p, hp, rfl⟩
      exact ⟨p, hp, rfl⟩
  refine ⟨?_, fun m' hm' => ?_⟩
  · refine hraise.trans ⟨fun h p hp => h p.inSection ((hsection _).2 ⟨p, hp, rfl⟩), ?_⟩
    intro h s hs
    obtain ⟨p, hp, rfl⟩ := (hsection s).1 hs
    exact h p hp
  · obtain ⟨hw, hmoved, hwidth, hkeep⟩ := hmoves m' hm'
    refine ⟨hw, fun s => ?_, hwidth, hkeep⟩
    have hcongr : ∀ r r', afterDeletion (rowsIn s indexPaths) r' = some r ↔
        if stringValue s ∈ KeyOrder.allKeys (sectionsdict indexPaths) then
          afterDeletion (rowsIn s indexPaths) r' = some r else r' = r := by
      intro r r'
      split_ifs with hs
      · exact Iff.rfl
      · -- no row is inserted into the section
        have hnil : rowsIn s indexPaths = [] := by
          rw [List.eq_nil_iff_forall_not_mem]
          intro i hi
          exact hs ((hsection s).2 ⟨⟨i, s⟩, mem_rowsIn.1 hi, rfl⟩)
        simp [hnil, afterDeletion]
    exact ⟨(hmoved s).1.congr hcongr, (hmoved s).2.congr hcongr⟩

end SDCellAutoHeightManager

end RCSdk
