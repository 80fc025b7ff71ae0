import Mathlib.Data.List.TakeWhile
import RCSdk.Spec.CellAutoHeight

/-!
# Cached heights move with their rows

The text of a section and a row can be read back (`sectionOfKey_cacheKey`, `rowOfKey_cacheKey`).
With that, the entries of a section after a deletion are the entries before it, moved as the rows
are (`delete_moved`), and so for data inserted at the beginning (`insertAtBegining_moved`). Rows
deleted by one call are deleted one after the other, which is what the table does exactly when
they are listed from the last to the first (`deleteRows_iff`).
-/

namespace RCSdk

open RowEdits SDCellAutoHeightManager

/-! ## Keys -/

theorem not_mem_toDigits {n : ℕ} {c : Char} (hc : c.isDigit = false) : c ∉ Nat.toDigits 10 n := by
  intro h
  have := Nat.isDigit_of_mem_toDigits (by decide) (by decide) h
  rw [hc] at this
  cases this

/-- **A number is read back.** -/
theorem integerValue_stringValue (n : ℕ) : integerValue (stringValue n) = n := by
  have hdigit : ∀ c ∈ Nat.toDigits 10 n, c.isDigit = true := fun c hc =>
    Nat.isDigit_of_mem_toDigits (by decide) (by decide) hc
  have hvalue : Gregorian.value (Nat.toDigits 10 n) = n := by
    have := Nat.ofDigitChars_ten_toDigits (n := n)
    rwa [Nat.ofDigitChars_eq_foldl] at this
  have hall : (Nat.toDigits 10 n).takeWhile Char.isDigit = Nat.toDigits 10 n :=
    List.takeWhile_eq_self_iff.2 hdigit
  have hblank : (Nat.toDigits 10 n).dropWhile Char.isWhitespace = Nat.toDigits 10 n := by
    cases hp : Nat.toDigits 10 n with
    | nil => rfl
    | cons c cs =>
      have hc : c.isDigit = true := hdigit c (by rw [hp]; exact List.mem_cons_self)
      refine List.dropWhile_cons_of_neg ?_
      intro hw
      simp only [Char.isWhitespace, Bool.or_eq_true, decide_eq_true_eq] at hw
      rcases hw with ((rfl | rfl) | rfl) | rfl <;> exact absurd hc (by decide)
  change integerValue (Nat.toDigits 10 n) = n
  unfold integerValue
  rw [hblank]
  split
  · rename_i cs hp
    exact absurd (by rw [hp]; exact List.mem_cons_self)
      (not_mem_toDigits (n := n) (c := '-') (by decide))
  · rename_i cs hp
    exact absurd (by rw [hp]; exact List.mem_cons_self)
      (not_mem_toDigits (n := n) (c := '+') (by decide))
  · rw [hall, hvalue]

theorem splitOn_cacheKey (s r : ℕ) :
    (cacheKey s r).splitOn '-' = [stringValue s, stringValue r] := by
  have hs : ∀ n : ℕ, '-' ∉ stringValue n := fun n => not_mem_toDigits (n := n) (by decide)
  have hkey : cacheKey s r = ['-'].intercalate [stringValue s, stringValue r] := by
    simp [cacheKey, List.intercalate, List.intersperse]
  rw [hkey]
  exact List.splitOn_intercalate '-' (by simp [hs]) (by simp)

@[simp] theorem sectionOfKey_cacheKey (s r : ℕ) : sectionOfKey (cacheKey s r) = s := by
  rw [sectionOfKey, splitOn_cacheKey]
  exact integerValue_stringValue s

@[simp] theorem rowOfKey_cacheKey (s r : ℕ) : rowOfKey (cacheKey s r) = r := by
  rw [rowOfKey, splitOn_cacheKey]
  exact integerValue_stringValue r

/-- **Index paths do not share a key.** -/
theorem cacheKey_inj {s r s' r' : ℕ} : cacheKey s r = cacheKey s' r' ↔ s = s' ∧ r = r' := by
  constructor
  · intro h
    have hs := congrArg sectionOfKey h
    have hr := congrArg rowOfKey h
    simp only [sectionOfKey_cacheKey, rowOfKey_cacheKey, Nat.cast_inj] at hs hr
    exact ⟨hs, hr⟩
  · rintro ⟨rfl, rfl⟩
    rfl

/-! ## Entries that move -/

/-- The rows of the index paths in a section, in their order. -/
def rowsIn (s : ℕ) (indexPaths : List NSIndexPath) : List ℕ :=
  (indexPaths.filter fun p => p.inSection = s).map NSIndexPath.row

/-- The entries of a dictionary for a section. -/
def entriesIn {α : Type} (d : NSMutableDictionary α) (s r : ℕ) : Option α :=
  d.lookup (cacheKey s r)

/-- A dictionary of entries for index paths. -/
def ByIndexPath {α : Type} (d : NSMutableDictionary α) : Prop :=
  ∀ k ∈ d, ∃ s r : ℕ, k = cacheKey s r

section Moves

variable {α : Type} {d : NSMutableDictionary α} {ks : List (List Char)} {s₀ : ℕ}
  {moves : ℤ → Bool} {newRow : ℤ → ℤ} {f : ℕ → ℕ}

theorem movedKey_cacheKey (hf : ∀ r : ℕ, moves r = true → newRow r = f r) (s r : ℕ) :
    movedKey s₀ moves newRow (cacheKey s r) =
      if s = s₀ ∧ moves r = true then some (cacheKey s (f r)) else none := by
  unfold movedKey
  rw [sectionOfKey_cacheKey, rowOfKey_cacheKey]
  by_cases h : s = s₀ ∧ moves r = true
  · rw [if_pos (by simp [h]), if_pos h, hf r h.2]
  · rw [if_neg (by simpa using h), if_neg h]

/-- **The entries of a section that move are found at their new rows**, and all others where they
were. -/
theorem entriesIn_rekey (hks : ks.Nodup) (hkeys : ∀ k ∈ ks, ∃ s r : ℕ, k = cacheKey s r)
    (hcover : ∀ k ∈ d, k ∈ ks) (hf : ∀ r : ℕ, moves r = true → newRow r = f r)
    (hinj : ∀ r₁ r₂ : ℕ, moves r₁ = true → moves r₂ = true → f r₁ = f r₂ → r₁ = r₂)
    (hfree : ∀ r : ℕ, moves r = true → moves (f r : ℕ) = false → entriesIn d s₀ (f r) = none)
    (s : ℕ) :
    Moved (fun r r' => r' = if s = s₀ ∧ moves r = true then f r else r) (entriesIn d s)
      (entriesIn (rekey (movedKey s₀ moves newRow) ks d) s) := by
  have hg : ∀ s r : ℕ, movedKey s₀ moves newRow (cacheKey s r) =
      if s = s₀ ∧ moves r = true then some (cacheKey s (f r)) else none := movedKey_cacheKey hf
  intro r' v
  unfold entriesIn
  rw [lookup_rekey_eq_some hks ?hinj hcover ?hfree]
  case hinj =>
    rintro k₁ hk₁ k₂ hk₂ k' h₁ h₂
    obtain ⟨s₁, r₁, rfl⟩ := hkeys k₁ hk₁
    obtain ⟨s₂, r₂, rfl⟩ := hkeys k₂ hk₂
    rw [hg, Option.ite_none_right_eq_some, Option.some.injEq] at h₁ h₂
    obtain ⟨hs, hr⟩ := cacheKey_inj.1 (h₁.2.trans h₂.2.symm)
    rw [hs, hinj r₁ r₂ h₁.1.2 h₂.1.2 hr]
  case hfree =>
    rintro k hk k' h₁ h₂
    obtain ⟨s₁, r₁, rfl⟩ := hkeys k hk
    rw [hg, Option.ite_none_right_eq_some, Option.some.injEq] at h₁
    obtain ⟨⟨rfl, hm⟩, rfl⟩ := h₁
    rw [hg, ite_eq_right_iff] at h₂
    refine AList.lookup_eq_none.1 (hfree r₁ hm ?_)
    by_contra hm'
    exact absurd (h₂ ⟨rfl, by simpa using hm'⟩) (Option.some_ne_none _)
  have hof : ∀ k w, d.lookup k = some w → ∃ s r : ℕ, k = cacheKey s r := fun k w hw =>
    hkeys k (hcover k (AList.lookup_isSome.1 (by rw [hw]; rfl)))
  constructor
  · rintro (⟨k, hk, hv⟩ | ⟨hn, hv⟩)
    · obtain ⟨s₁, r₁, rfl⟩ := hof k v hv
      rw [hg, Option.ite_none_right_eq_some, Option.some.injEq] at hk
      obtain ⟨hm, hk⟩ := hk
      obtain ⟨rfl, rfl⟩ := cacheKey_inj.1 hk
      exact ⟨r₁, (if_pos hm).symm, hv⟩
    · rw [hg, ite_eq_right_iff] at hn
      exact ⟨r', (if_neg fun hm => absurd (hn hm) (Option.some_ne_none _)).symm, hv⟩
  · rintro ⟨r, hr, hv⟩
    by_cases hm : s = s₀ ∧ moves r = true
    · rw [if_pos hm] at hr
      exact Or.inl ⟨cacheKey s r, by rw [hg, if_pos hm, hr], hv⟩
    · rw [if_neg hm] at hr
      subst hr
      exact Or.inr ⟨by rw [hg, if_neg hm], hv⟩

/-- New keys are keys of index paths. -/
theorem byIndexPath_rekey (hkeys : ∀ k ∈ ks, ∃ s r : ℕ, k = cacheKey s r)
    (hcover : ∀ k ∈ d, k ∈ ks) (hf : ∀ r : ℕ, moves r = true → newRow r = f r) :
    ByIndexPath (rekey (movedKey s₀ moves newRow) ks d) := by
  intro k' hk'
  rcases mem_rekey hk' with ⟨k, hk, hg⟩ | hk
  · obtain ⟨s, r, rfl⟩ := hkeys k hk
    rw [movedKey_cacheKey hf, Option.ite_none_right_eq_some, Option.some.injEq] at hg
    exact ⟨s, f r, hg.2.symm⟩
  · exact hkeys k' (hcover k' hk)

end Moves

theorem mem_iff_entriesIn {α : Type} {d : NSMutableDictionary α} {s r : ℕ} :
    cacheKey s r ∈ d ↔ (entriesIn d s r).isSome :=
  AList.lookup_isSome.symm

theorem entriesIn_erase {α : Type} (d : NSMutableDictionary α) (p : NSIndexPath) (s r : ℕ) :
    entriesIn (d.erase (cacheKeyForIndexPath p)) s r =
      if s = p.inSection ∧ r = p.row then none else entriesIn d s r := by
  unfold entriesIn cacheKeyForIndexPath
  split_ifs with h
  · rw [h.1, h.2]
    exact AList.lookup_erase _ _
  · exact AList.lookup_erase_ne fun he => h (cacheKey_inj.1 he)

namespace SDCellAutoHeightManager

/-- The cached heights of a section. -/
def heights (m : SDCellAutoHeightManager) (s : ℕ) : ℕ → Option ℚ := entriesIn m.cacheDictionary s

/-- The cached frames of a section. -/
def frames (m : SDCellAutoHeightManager) (s : ℕ) : ℕ → Option (List (Grids.Rect ℚ)) :=
  entriesIn m.subviewFrameCacheDict s

/-- The dictionaries hold entries of index paths only, and frames only beside heights. -/
structure WellKeyed (m : SDCellAutoHeightManager) : Prop where
  keys : ByIndexPath m.cacheDictionary
  frameKeys : ByIndexPath m.subviewFrameCacheDict
  framed : ∀ s r, (m.frames s r).isSome → (m.heights s r).isSome

theorem WellKeyed.empty {m : SDCellAutoHeightManager} (hc : m.cacheDictionary = ∅)
    (hf : m.subviewFrameCacheDict = ∅) : m.WellKeyed := by
  refine ⟨?_, ?_, ?_⟩
  · intro k hk
    exact absurd (hc ▸ hk) (AList.notMem_empty k)
  · intro k hk
    exact absurd (hf ▸ hk) (AList.notMem_empty k)
  · intro s r h
    rw [frames, entriesIn, hf] at h
    exact absurd h (by simp)

/-- Both tables of a section, moved alike. -/
def MovesTo (m m' : SDCellAutoHeightManager) (ρ : ℕ → ℕ → ℕ → Prop) : Prop :=
  ∀ s, Moved (ρ s) (m.heights s) (m'.heights s) ∧ Moved (ρ s) (m.frames s) (m'.frames s)

theorem MovesTo.framed {m m' : SDCellAutoHeightManager} {ρ : ℕ → ℕ → ℕ → Prop}
    (h : m.MovesTo m' ρ) (hm : m.WellKeyed) (s r : ℕ) :
    (m'.frames s r).isSome → (m'.heights s r).isSome :=
  (h s).2.isSome (h s).1 (hm.framed s) r

theorem WellKeyed.removeEntries {m : SDCellAutoHeightManager} (hm : m.WellKeyed)
    (p : NSIndexPath) : (m.removeEntries p).WellKeyed := by
  refine ⟨fun k hk => hm.keys k (AList.mem_erase.1 hk).2,
    fun k hk => hm.frameKeys k (AList.mem_erase.1 hk).2, fun s r h => ?_⟩
  have hframes := entriesIn_erase m.subviewFrameCacheDict p s r
  have hheights := entriesIn_erase m.cacheDictionary p s r
  by_cases hp : s = p.inSection ∧ r = p.row
  · rw [if_pos hp] at hframes
    rw [frames, SDCellAutoHeightManager.removeEntries, hframes] at h
    cases h
  · rw [if_neg hp] at hframes hheights
    rw [frames, SDCellAutoHeightManager.removeEntries, hframes] at h
    rw [heights, SDCellAutoHeightManager.removeEntries, hheights]
    exact hm.framed s r h

variable [KeyOrder]

open KeyOrder

/-- **The loop over the keys**, where the rows that move do not meet one another or an entry that
stays. -/
theorem moveEntries_moved {m : SDCellAutoHeightManager} (hm : m.WellKeyed) (s₀ : ℕ)
    (moves : ℤ → Bool) (newRow : ℤ → ℤ) (f : ℕ → ℕ)
    (hf : ∀ r : ℕ, moves r = true → newRow r = f r)
    (hinj : ∀ r₁ r₂ : ℕ, moves r₁ = true → moves r₂ = true → f r₁ = f r₂ → r₁ = r₂)
    (hfree : ∀ r : ℕ, moves r = true → moves (f r : ℕ) = false → m.heights s₀ (f r) = none) :
    (m.moveEntries s₀ moves newRow).WellKeyed ∧
      m.MovesTo (m.moveEntries s₀ moves newRow)
        (fun s r r' => r' = if s = s₀ ∧ moves r = true then f r else r) := by
  have hks : (allKeys m.cacheDictionary).Nodup :=
    (perm m.cacheDictionary).nodup_iff.2 m.cacheDictionary.keys_nodup
  have hmem : ∀ k, k ∈ allKeys m.cacheDictionary ↔ k ∈ m.cacheDictionary := fun k =>
    (perm m.cacheDictionary).mem_iff
  have hkeys : ∀ k ∈ allKeys m.cacheDictionary, ∃ s r : ℕ, k = cacheKey s r := fun k hk =>
    hm.keys k ((hmem k).1 hk)
  have hcover : ∀ k ∈ m.subviewFrameCacheDict, k ∈ allKeys m.cacheDictionary := by
    intro k hk
    obtain ⟨s, r, rfl⟩ := hm.frameKeys k hk
    exact (hmem _).2 (mem_iff_entriesIn.2 (hm.framed s r (mem_iff_entriesIn.1 hk)))
  have hframesFree : ∀ r : ℕ, moves r = true → moves (f r : ℕ) = false →
      m.frames s₀ (f r) = none := by
    intro r h1 h2
    by_contra hne
    have := hm.framed s₀ (f r) (Option.isSome_iff_ne_none.2 hne)
    rw [hfree r h1 h2] at this
    cases this
  have hmoved : m.MovesTo (m.moveEntries s₀ moves newRow)
      (fun s r r' => r' = if s = s₀ ∧ moves r = true then f r else r) := fun s =>
    ⟨entriesIn_rekey hks hkeys (fun k hk => (hmem k).2 hk) hf hinj hfree s,
      entriesIn_rekey hks hkeys hcover hf hinj hframesFree s⟩
  exact ⟨⟨byIndexPath_rekey hkeys (fun k hk => (hmem k).2 hk) hf,
    byIndexPath_rekey hkeys hcover hf, hmoved.framed hm⟩, hmoved⟩

/-- Data inserted at the beginning of a section. -/
theorem insertAtBegining_moved {m : SDCellAutoHeightManager} (hm : m.WellKeyed) (s₀ count : ℕ) :
    (m.insertNewDataAtTheBeginingOfSection s₀ count).WellKeyed ∧
      m.MovesTo (m.insertNewDataAtTheBeginingOfSection s₀ count)
        (fun s r r' => r' = if s = s₀ then r + count else r) := by
  have := moveEntries_moved hm s₀ (fun _ => true) (fun row => row + count) (fun r => r + count)
    (fun r _ => rfl) (fun r₁ r₂ _ _ h => Nat.add_right_cancel h) (fun r _ h => absurd h (by simp))
  simp only [and_true] at this
  exact this

/-- **A row deleted.** -/
theorem delete_moved {m : SDCellAutoHeightManager} (hm : m.WellKeyed) (p : NSIndexPath) :
    (m.deleteThenResetHeightCache p).WellKeyed ∧
      m.MovesTo (m.deleteThenResetHeightCache p) (fun s r r' =>
        (if s = p.inSection then afterDelete p.row r else some r) = some r') := by
  have hfree : ∀ r : ℕ, decide ((r : ℤ) > p.row) = true →
      decide (((r - 1 : ℕ) : ℤ) > p.row) = false →
      (m.removeEntries p).heights p.inSection (r - 1) = none := by
    intro r h1 h2
    have h1 := of_decide_eq_true h1
    have h2 := of_decide_eq_false h2
    rw [heights, removeEntries, entriesIn_erase, if_pos ⟨rfl, by omega⟩]
  obtain ⟨hw, hmoved⟩ := moveEntries_moved (hm.removeEntries p) p.inSection
    (fun row => row > p.row) (fun row => row - 1) (fun r => r - 1)
    (fun r h => by
      have := of_decide_eq_true h
      change (r : ℤ) - 1 = (r - 1 : ℕ)
      omega)
    (fun r₁ r₂ h₁ h₂ h => by
      have := of_decide_eq_true h₁
      have := of_decide_eq_true h₂
      omega) hfree
  refine ⟨hw, fun s => ?_⟩
  -- the entry of the row is removed first, so that no row meets it
  have hfirst : Moved (fun r r' => r' = r ∧ ¬ (s = p.inSection ∧ r = p.row)) (m.heights s)
        ((m.removeEntries p).heights s) ∧
      Moved (fun r r' => r' = r ∧ ¬ (s = p.inSection ∧ r = p.row)) (m.frames s)
        ((m.removeEntries p).frames s) :=
    ⟨Moved.of_removed (entriesIn_erase m.cacheDictionary p s),
      Moved.of_removed (entriesIn_erase m.subviewFrameCacheDict p s)⟩
  have hcomp : ∀ r r'', (if s = p.inSection then afterDelete p.row r else some r) = some r'' ↔
      ∃ r', (r' = r ∧ ¬ (s = p.inSection ∧ r = p.row)) ∧
        r'' = if s = p.inSection ∧ decide ((r' : ℤ) > p.row) = true then r' - 1 else r' := by
    intro r r''
    simp only [decide_eq_true_eq, gt_iff_lt, Nat.cast_lt, and_assoc, exists_eq_left]
    by_cases hs : s = p.inSection
    · simp only [hs, if_true, true_and, afterDelete]
      by_cases hr : r = p.row
      · simp [hr]
      · simp [hr, eq_comm]
    · simp [hs, eq_comm]
  exact ⟨hfirst.1.comp (hmoved s).1 hcomp, hfirst.2.comp (hmoved s).2 hcomp⟩

/-- **Rows deleted one after the other.** -/
theorem deleteRows_moved {m : SDCellAutoHeightManager} (hm : m.WellKeyed)
    (indexPaths : List NSIndexPath) :
    (indexPaths.foldl deleteThenResetHeightCache m).WellKeyed ∧
      m.MovesTo (indexPaths.foldl deleteThenResetHeightCache m)
        (fun s r r' => afterDeletes (rowsIn s indexPaths) r = some r') := by
  induction indexPaths generalizing m with
  | nil =>
    refine ⟨hm, fun s => ?_⟩
    have hrefl : ∀ r r', afterDeletes (rowsIn s []) r = some r' ↔ r' = r := by
      intro r r'
      simp [rowsIn, afterDeletes, eq_comm]
    exact ⟨(Moved.refl _).congr hrefl, (Moved.refl _).congr hrefl⟩
  | cons p ps ih =>
    obtain ⟨hw, hfirst⟩ := delete_moved hm p
    obtain ⟨hw', hrest⟩ := ih hw
    refine ⟨hw', fun s => ?_⟩
    have hcomp : ∀ r r'', afterDeletes (rowsIn s (p :: ps)) r = some r'' ↔
        ∃ r', (if s = p.inSection then afterDelete p.row r else some r) = some r' ∧
          afterDeletes (rowsIn s ps) r' = some r'' := by
      intro r r''
      unfold rowsIn
      by_cases hs : s = p.inSection
      · rw [List.filter_cons_of_pos (by simp [hs]), List.map_cons, if_pos hs, afterDeletes,
          Option.bind_eq_some_iff]
      · rw [List.filter_cons_of_neg (by simpa [eq_comm] using hs), if_neg hs]
        simp
    exact ⟨(hfirst s).1.comp (hrest s).1 hcomp, (hfirst s).2.comp (hrest s).2 hcomp⟩

/-- Index paths listed from the last to the first in each section. -/
def FromLast (indexPaths : List NSIndexPath) : Prop :=
  indexPaths.Pairwise fun p q => p.inSection = q.inSection → q.row < p.row

omit [KeyOrder] in
theorem fromLast_iff (indexPaths : List NSIndexPath) :
    FromLast indexPaths ↔ ∀ s, (rowsIn s indexPaths).Pairwise (· > ·) := by
  have hsection : ∀ s, (rowsIn s indexPaths).Pairwise (· > ·) ↔
      indexPaths.Pairwise fun p q => p.inSection = s → q.inSection = s → q.row < p.row := by
    intro s
    rw [rowsIn, List.pairwise_map, List.pairwise_filter]
    simp only [decide_eq_true_eq, gt_iff_lt]
  simp only [FromLast, hsection, List.pairwise_iff_getElem]
  constructor
  · intro h s i j hi hj hij hp hq
    exact h i j hi hj hij (hp.trans hq.symm)
  · intro h i j hi hj hij hpq
    exact h _ i j hi hj hij rfl hpq.symm

/-- The manager with one cached height. -/
def single (s r : ℕ) (h : ℚ) : SDCellAutoHeightManager :=
  { init with cacheDictionary := AList.insert (cacheKey s r) h ∅ }

omit [KeyOrder] in
theorem single_heights (s r : ℕ) (h : ℚ) (k : ℕ) :
    (single s r h).heights s k = if k = r then some h else none := by
  unfold heights entriesIn single
  split_ifs with hk
  · rw [hk]
    exact AList.lookup_insert _
  · exact AList.lookup_insert_ne fun he => hk (cacheKey_inj.1 he).2

omit [KeyOrder] in
theorem single_wellKeyed (s r : ℕ) (h : ℚ) : (single s r h).WellKeyed := by
  refine ⟨?_, fun k hk => absurd hk (AList.notMem_empty k), ?_⟩
  · intro k hk
    rcases (AList.mem_insert _).1 hk with rfl | hk
    · exact ⟨s, r, rfl⟩
    · exact absurd hk (AList.notMem_empty k)
  · intro s' r' hs
    exact absurd hs (by simp [frames, entriesIn, single, init])

end SDCellAutoHeightManager

open SDCellAutoHeightManager

variable [KeyOrder] {β : Type}

/-- **Rows deleted by one call take their entries with them, and all others keep theirs, whatever
is cached, exactly when the rows of a section are listed from the last to the first.** -/
theorem sd_deleteRows_iff (indexPaths : List NSIndexPath) (rows : ℕ → List β) :
    (∀ t : UITableView β, t.cellAutoHeightManager.WellKeyed →
        t.cellAutoHeightManager.MovesTo (t.sd_deleteRows indexPaths rows).cellAutoHeightManager
          fun s r r' => afterDeletion (rowsIn s indexPaths) r = some r') ↔
      FromLast indexPaths := by
  rw [fromLast_iff]
  constructor
  · intro h s
    rw [← afterDeletes_eq_iff]
    intro r
    have hw := single_wellKeyed s r 0
    have honce := h ⟨single s r 0, rows, 0⟩ hw
    exact Moved.place_eq (single_heights s r 0) ((deleteRows_moved hw indexPaths).2 s).1
      (honce s).1
  · intro h t ht s
    have hmoved := (deleteRows_moved ht indexPaths).2 s
    simp only [(afterDeletes_eq_iff _).2 (h s)] at hmoved
    exact hmoved

end RCSdk
