import RCSdk.Lib.Run
import RCSdk.Proof.CellHeightInsert

/-!
# Cached heights are the heights of the rows

A run is any sequence of heights asked for, reloads, insertions and deletions, where each call says
what has happened to the data (`Describes`) and lists deleted rows as the table needs them
(`DeletesFromLast`). Then every cached height has been measured with the data its row shows now, and
at the current width unless a block waits on the main queue (`Coherent`, `cellHeight_of_run`), and
in a cell of the row's class where classes that inherit lay out alike (`CellLayout.Alike`). An
insertion raises exactly where a height was left without its frames by a change of width
(`insertRows_raises_iff`).
-/

namespace RCSdk

open RowEdits SDCellAutoHeightManager Trans

/-- **Cells that count as one of another class lay out as the cells of that class do.** So it is where
no class of the cells inherits from another. -/
def CellLayout.Alike {β : Type} (c : CellLayout β) : Prop := ∀ modelCell x,
  c.isKindOfClass modelCell (c.cellClass x) = true → c.layout modelCell x = c.layout (c.cellClass x) x

namespace UITableView

variable {β : Type}

/-- **The call says what has happened to the data.** Heights are asked for at positive widths. -/
def Describes (t : UITableView β) : Action β → Prop
  | .cellHeight indexPath model width =>
    (t.rows indexPath.inSection)[indexPath.row]? = some model ∧ 0 < width
  | .mainQueue => True
  | .reloadData _ => True
  | .reloadDataWithExistedHeightCache rows => ∀ s, t.rows s <+: rows s
  | .reloadDataWithInsertingDataAtTheBegining newData rows => ∀ s, ∃ new,
    rows s = new ++ t.rows s ∧
      new.length = ((newData.filter fun x => x.1 = s).map Prod.snd).sum
  | .reloadRows indexPaths rows =>
    ∀ s r, ⟨r, s⟩ ∉ indexPaths → (rows s)[r]? = (t.rows s)[r]?
  | .deleteRows indexPaths rows => ∀ s, rows s = kept (rowsIn s indexPaths) (t.rows s)
  | .insertRows indexPaths rows => indexPaths.Nodup ∧
    (∀ p ∈ indexPaths, p.row < (rows p.inSection).length) ∧
    ∀ s, (rows s).length = (t.rows s).length + (rowsIn s indexPaths).length ∧
      t.rows s = kept (rowsIn s indexPaths) (rows s)

/-- **Rows deleted by one call are listed from the last to the first** in each section. -/
def DeletesFromLast : Action β → Prop
  | .deleteRows indexPaths _ => FromLast indexPaths
  | _ => True

variable (c : CellLayout β)

/-- What the data of a row lays out to in a cell of its class. -/
def rowLayout (x : β) (w : ℚ) : ℚ × List (Grids.Rect ℚ) := c.layout (c.cellClass x) x w

/-- **The height of a row at a width.** -/
def heightOf (x : β) (w : ℚ) : ℚ := floatValue (rowLayout c x w).1

/-- The height has been measured with the data of the row, at the current width unless a block
waits. -/
def MeasuredHeight (t : UITableView β) (x : β) (h : ℚ) : Prop :=
  ∃ w, h = heightOf c x w ∧ (t.mainQueue = 0 → w = t.cellAutoHeightManager.contentViewWidth)

/-- The frames have been measured with the data of the row at the current width. -/
def MeasuredFrames (t : UITableView β) (x : β) (fs : List (Grids.Rect ℚ)) : Prop :=
  fs = (rowLayout c x t.cellAutoHeightManager.contentViewWidth).2

/-- Every cell that is laid out has a subview that is. -/
def LaysOut : Prop := ∀ x w, (rowLayout c x w).2 ≠ []

/-- **Every cached height and every cached list of frames belongs to the row it is kept for.** -/
structure Coherent (t : UITableView β) : Prop where
  wellKeyed : t.cellAutoHeightManager.WellKeyed
  heights : ∀ s, Agrees (MeasuredHeight c t) (fun r => (t.rows s)[r]?)
    (t.cellAutoHeightManager.heights s)
  frames : ∀ s, Agrees (MeasuredFrames c t) (fun r => (t.rows s)[r]?)
    (t.cellAutoHeightManager.frames s)
  width : 0 ≤ t.cellAutoHeightManager.contentViewWidth
  asked : t.cellAutoHeightManager.contentViewWidth = 0 →
    ∀ s r, t.cellAutoHeightManager.heights s r = none
  keep : t.cellAutoHeightManager.shouldKeepHeightCacheWhenReloadingData = false
  complete : LaysOut c → t.mainQueue = 0 → ∀ s r, (t.cellAutoHeightManager.heights s r).isSome →
    (t.cellAutoHeightManager.frames s r).isSome

variable {c} {t : UITableView β}

/-- Nothing is cached. -/
theorem coherent_of_empty (hc : t.cellAutoHeightManager.cacheDictionary = ∅)
    (hf : t.cellAutoHeightManager.subviewFrameCacheDict = ∅)
    (hw : 0 ≤ t.cellAutoHeightManager.contentViewWidth)
    (hk : t.cellAutoHeightManager.shouldKeepHeightCacheWhenReloadingData = false) :
    Coherent c t := by
  have hheights : ∀ s r, t.cellAutoHeightManager.heights s r = none := fun s r => by
    rw [SDCellAutoHeightManager.heights, entriesIn, hc]
    rfl
  have hframes : ∀ s r, t.cellAutoHeightManager.frames s r = none := fun s r => by
    rw [SDCellAutoHeightManager.frames, entriesIn, hf]
    rfl
  exact ⟨WellKeyed.empty hc hf, fun s r v hv => absurd (hheights s r ▸ hv) (by simp),
    fun s r v hv => absurd (hframes s r ▸ hv) (by simp), hw, fun _ => hheights, hk,
    fun _ _ s r hs => absurd (hheights s r ▸ hs) (by simp)⟩

theorem coherent_init (rows : ℕ → List β) : Coherent c (init rows) :=
  coherent_of_empty rfl rfl (le_refl 0) rfl

/-- **Rows and entries that move alike**, with the width and the main queue as they were. -/
theorem Coherent.move {ρ : ℕ → ℕ → ℕ → Prop} {t' : UITableView β} (h : Coherent c t)
    (hw : t'.cellAutoHeightManager.WellKeyed)
    (hm : t.cellAutoHeightManager.MovesTo t'.cellAutoHeightManager ρ)
    (hrows : ∀ s r r' x, ρ s r r' → (t.rows s)[r]? = some x → (t'.rows s)[r']? = some x)
    (hwidth : t'.cellAutoHeightManager.contentViewWidth =
      t.cellAutoHeightManager.contentViewWidth)
    (hqueue : t'.mainQueue = t.mainQueue)
    (hkeep : t'.cellAutoHeightManager.shouldKeepHeightCacheWhenReloadingData = false) :
    Coherent c t' := by
  have hmh : MeasuredHeight c t' = MeasuredHeight c t := by
    unfold MeasuredHeight
    rw [hwidth, hqueue]
  have hmf : MeasuredFrames c t' = MeasuredFrames c t := by
    unfold MeasuredFrames
    rw [hwidth]
  refine ⟨hw, fun s => ?_, fun s => ?_, hwidth ▸ h.width, fun h0 s r => ?_, hkeep,
    fun hl hq s r => (hm s).1.isSome (hm s).2 (h.complete hl (hqueue ▸ hq) s) r⟩
  · rw [hmh]
    exact (h.heights s).move (hm s).1 (hrows s)
  · rw [hmf]
    exact (h.frames s).move (hm s).2 (hrows s)
  · rw [hwidth] at h0
    by_contra hne
    obtain ⟨v, hv⟩ := Option.ne_none_iff_exists'.1 hne
    obtain ⟨r₀, -, hv⟩ := ((hm s).1 r v).1 hv
    rw [h.asked h0 s r₀] at hv
    cases hv

/-! ## Heights asked for -/

theorem Coherent.setContentViewWidth (h : Coherent c t) {w : ℚ} (hw : 0 < w) :
    Coherent c (t.setContentViewWidth w) ∧
      (t.setContentViewWidth w).cellAutoHeightManager.contentViewWidth = w ∧
      (t.setContentViewWidth w).rows = t.rows := by
  unfold UITableView.setContentViewWidth
  dsimp only
  split_ifs with h1 h2
  · exact ⟨h, h1, rfl⟩
  · -- the frames are gone, and the heights wait for the block
    refine ⟨⟨?_, fun s r v hv => ?_, fun s r v hv => ?_, hw.le, fun h0 => ?_, h.keep,
      fun _ hq => absurd hq (Nat.succ_ne_zero _)⟩, rfl, rfl⟩
    · exact ⟨h.wellKeyed.keys, fun k hk => absurd hk (AList.notMem_empty k), fun s r hs => by
        simp [SDCellAutoHeightManager.frames, entriesIn] at hs⟩
    · obtain ⟨x, hx, w', hl, -⟩ := h.heights s r v hv
      exact ⟨x, hx, w', hl, fun h0 => absurd h0 (Nat.succ_ne_zero _)⟩
    · simp [SDCellAutoHeightManager.frames, entriesIn] at hv
    · exact absurd h0 hw.ne'
  · have h0 : t.cellAutoHeightManager.contentViewWidth = 0 :=
      le_antisymm (not_lt.1 h2) h.width
    have hnone := h.asked h0
    have hnone' : ∀ s r, t.cellAutoHeightManager.frames s r = none := fun s r => by
      by_contra hne
      have := h.wellKeyed.framed s r (Option.isSome_iff_ne_none.2 hne)
      rw [hnone] at this
      cases this
    refine ⟨⟨⟨h.wellKeyed.keys, h.wellKeyed.frameKeys, h.wellKeyed.framed⟩, fun s r v hv => ?_,
      fun s r v hv => ?_, hw.le, fun _ => hnone, h.keep, fun _ _ s r hs => ?_⟩, rfl, rfl⟩
    · exact absurd ((hnone s r).symm.trans hv) (by simp)
    · exact absurd ((hnone' s r).symm.trans hv) (by simp)
    · exact absurd (((congrArg Option.isSome (hnone s r)).symm.trans hs)) (by simp)

/-- The frames of the subviews, put beside the height one after the other. -/
theorem foldl_setSubviewFrameCache (p : NSIndexPath) (fs : List (Grids.Rect ℚ))
    (m : SDCellAutoHeightManager) :
    (fs.foldl (setSubviewFrameCache p) m).cacheDictionary = m.cacheDictionary ∧
    (fs.foldl (setSubviewFrameCache p) m).contentViewWidth = m.contentViewWidth ∧
    (fs.foldl (setSubviewFrameCache p) m).shouldKeepHeightCacheWhenReloadingData =
      m.shouldKeepHeightCacheWhenReloadingData ∧
    (ByIndexPath m.subviewFrameCacheDict →
      ByIndexPath (fs.foldl (setSubviewFrameCache p) m).subviewFrameCacheDict) ∧
    ∀ s r, (fs.foldl (setSubviewFrameCache p) m).frames s r =
      if s = p.inSection ∧ r = p.row ∧ fs ≠ [] then some ((m.frames s r).getD [] ++ fs)
      else m.frames s r := by
  induction fs generalizing m with
  | nil => simp
  | cons f fs ih =>
    rw [List.foldl_cons]
    obtain ⟨h₁, h₂, h₃, h₄, h₅⟩ := ih (setSubviewFrameCache p m f)
    refine ⟨h₁, h₂, h₃, fun hb => h₄ fun k hk => ?_, fun s r => ?_⟩
    · rcases (AList.mem_insert _).1 hk with rfl | hk
      · exact ⟨p.inSection, p.row, rfl⟩
      · exact hb k hk
    · have hone : (setSubviewFrameCache p m f).frames s r =
          if s = p.inSection ∧ r = p.row then some ((m.frames s r).getD [] ++ [f])
          else m.frames s r := by
        unfold SDCellAutoHeightManager.frames entriesIn setSubviewFrameCache
        split_ifs with hp
        · rw [hp.1, hp.2]
          exact AList.lookup_insert _
        · exact AList.lookup_insert_ne fun he => hp (cacheKey_inj.1 he)
      rw [h₅, hone]
      by_cases hp : s = p.inSection ∧ r = p.row
      · by_cases hfs : fs = [] <;> simp [hp, hfs]
      · have hp' : ∀ q : Prop, ¬ (s = p.inSection ∧ r = p.row ∧ q) := fun q hq =>
          hp ⟨hq.1, hq.2.1⟩
        rw [if_neg (hp' _), if_neg hp, if_neg (hp' _)]

/-- A height that was not cached is measured and kept. -/
theorem Coherent.measure (h : Coherent c t) {p : NSIndexPath} {x : β}
    (hx : (t.rows p.inSection)[p.row]? = some x)
    (hwidth : 0 < t.cellAutoHeightManager.contentViewWidth)
    (hnone : t.cellAutoHeightManager.heights p.inSection p.row = none) :
    let width := t.cellAutoHeightManager.contentViewWidth
    Coherent c { t with
      cellAutoHeightManager := (rowLayout c x width).2.foldl (setSubviewFrameCache p)
        { t.cellAutoHeightManager with
          cacheDictionary := t.cellAutoHeightManager.cacheDictionary.insert
            (cacheKeyForIndexPath p) (heightOf c x width) } } := by
  intro width
  set v := heightOf c x width
  set fs := (rowLayout c x width).2 with hfs
  obtain ⟨h₁, h₂, h₃, h₄, h₅⟩ := foldl_setSubviewFrameCache p fs
    { t.cellAutoHeightManager with
      cacheDictionary :=
        t.cellAutoHeightManager.cacheDictionary.insert (cacheKeyForIndexPath p) v }
  set m' := fs.foldl (setSubviewFrameCache p)
    { t.cellAutoHeightManager with
      cacheDictionary :=
        t.cellAutoHeightManager.cacheDictionary.insert (cacheKeyForIndexPath p) v } with hm'
  have hheights : ∀ s r, m'.heights s r =
      if s = p.inSection ∧ r = p.row then some v else t.cellAutoHeightManager.heights s r := by
    intro s r
    unfold SDCellAutoHeightManager.heights entriesIn
    rw [h₁]
    split_ifs with hp
    · rw [hp.1, hp.2]
      exact AList.lookup_insert _
    · exact AList.lookup_insert_ne fun he => hp (cacheKey_inj.1 he)
  have hnone' : t.cellAutoHeightManager.frames p.inSection p.row = none := by
    by_contra hne
    have := h.wellKeyed.framed _ _ (Option.isSome_iff_ne_none.2 hne)
    rw [hnone] at this
    cases this
  have hframes : ∀ s r, m'.frames s r = if s = p.inSection ∧ r = p.row ∧ fs ≠ [] then some fs
      else t.cellAutoHeightManager.frames s r := by
    intro s r
    refine (h₅ s r).trans ?_
    split_ifs with hp
    · obtain ⟨rfl, rfl, -⟩ := hp
      have : (t.cellAutoHeightManager.frames p.inSection p.row).getD [] = [] := by
        rw [hnone']
        rfl
      exact congrArg some (by rw [← List.nil_append fs]; exact congrArg (· ++ ([] ++ fs)) this)
    · rfl
  refine ⟨⟨?_, h₄ h.wellKeyed.frameKeys, fun s r hs => ?_⟩, fun s r w hw => ?_,
    fun s r w hw => ?_, h₂ ▸ h.width, fun h0 => ?_, h₃.trans h.keep, fun hlay hq s r hs => ?_⟩
  · intro k hk
    rw [h₁] at hk
    rcases (AList.mem_insert _).1 hk with rfl | hk
    · exact ⟨p.inSection, p.row, rfl⟩
    · exact h.wellKeyed.keys k hk
  · change (m'.heights s r).isSome
    change (m'.frames s r).isSome at hs
    rw [hheights]
    rw [hframes] at hs
    split_ifs with hp
    · rfl
    · rw [if_neg fun hq => hp ⟨hq.1, hq.2.1⟩] at hs
      exact h.wellKeyed.framed s r hs
  · change m'.heights s r = some w at hw
    rw [hheights] at hw
    split_ifs at hw with hp
    · obtain ⟨rfl, rfl⟩ := hp
      obtain rfl := Option.some.inj hw
      exact ⟨x, hx, width, rfl, fun _ => h₂.symm⟩
    · obtain ⟨y, hy, w', hl', hw'⟩ := h.heights s r w hw
      exact ⟨y, hy, w', hl', fun h0 => (hw' h0).trans h₂.symm⟩
  · change m'.frames s r = some w at hw
    rw [hframes] at hw
    split_ifs at hw with hp
    · obtain ⟨rfl, rfl, -⟩ := hp
      obtain rfl := Option.some.inj hw
      exact ⟨x, hx, congrArg (fun width => (rowLayout c x width).2) h₂.symm⟩
    · obtain ⟨y, hy, hl'⟩ := h.frames s r w hw
      exact ⟨y, hy, hl'.trans (congrArg (fun width => (rowLayout c y width).2) h₂.symm)⟩
  · change m'.contentViewWidth = 0 at h0
    exact absurd (h₂.symm.trans h0) hwidth.ne'
  · change (m'.heights s r).isSome at hs
    change (m'.frames s r).isSome
    rw [hheights] at hs
    rw [hframes]
    by_cases hp : s = p.inSection ∧ r = p.row
    · rw [if_pos ⟨hp.1, hp.2, hlay x width⟩]
      rfl
    · rw [if_neg hp] at hs
      rw [if_neg fun hq => hp ⟨hq.1, hq.2.1⟩]
      exact h.complete hlay hq s r hs

/-- A question is answered from the cache, or by a cell that lays out as those of the row's class. -/
theorem cellHeightWithCellClass_eq (ha : c.Alike) (m : SDCellAutoHeightManager) (p : NSIndexPath)
    (x : β) : ∃ modelCell,
    m.cellHeightWithCellClass c p x (c.cellClass x) =
      match m.heightCacheForIndexPath p with
      | some v => ({ m with modelCell := modelCell }, floatValue v)
      | none =>
        ((rowLayout c x m.contentViewWidth).2.foldl (setSubviewFrameCache p)
          { m with
            modelCell := modelCell
            cacheDictionary := m.cacheDictionary.insert (cacheKeyForIndexPath p)
              (heightOf c x m.contentViewWidth) },
          heightOf c x m.contentViewWidth) := by
  obtain ⟨modelCell, hkind, heq⟩ : ∃ modelCell,
      c.isKindOfClass modelCell (c.cellClass x) = true ∧
      m.cellHeightWithCellClass c p x (c.cellClass x) =
        { m with modelCell := some modelCell }.cellHeightForIndexPath c p x := by
    unfold cellHeightWithCellClass
    cases hm : m.modelCell with
    | none => exact ⟨c.cellClass x, c.isKindOfClass_self _, rfl⟩
    | some modelCell =>
      by_cases hkind : c.isKindOfClass modelCell (c.cellClass x) = true
      · refine ⟨modelCell, hkind, ?_⟩
        have hself : { m with modelCell := some modelCell } = m := by rw [← hm]
        simp only [hself, Option.any_some, if_pos hkind]
      · refine ⟨c.cellClass x, c.isKindOfClass_self _, ?_⟩
        simp only [Option.any_some, if_neg hkind]
  refine ⟨some modelCell, ?_⟩
  rw [heq]
  simp only [SDCellAutoHeightManager.cellHeightForIndexPath, ha modelCell x hkind]
  rfl

/-- Which cell measures next is nothing the cache depends on. -/
theorem Coherent.modelCell (h : Coherent c t) (modelCell : Option String) :
    Coherent c { t with cellAutoHeightManager :=
      { t.cellAutoHeightManager with modelCell := modelCell } } :=
  ⟨⟨h.wellKeyed.keys, h.wellKeyed.frameKeys, h.wellKeyed.framed⟩, h.heights, h.frames, h.width,
    h.asked, h.keep, h.complete⟩

/-- **A height asked for.** -/
theorem Coherent.cellHeight (h : Coherent c t) (halike : c.Alike) {p : NSIndexPath} {x : β} {w : ℚ}
    (hx : (t.rows p.inSection)[p.row]? = some x) (hw : 0 < w) :
    Coherent c (t.cellHeightForIndexPath c p x w).1 := by
  obtain ⟨h₁, hwidth, hrows⟩ := h.setContentViewWidth hw
  unfold UITableView.cellHeightForIndexPath
  generalize t.setContentViewWidth w = t₁ at h₁ hwidth hrows ⊢
  rw [← hrows] at hx
  subst hwidth
  obtain ⟨modelCell, heq⟩ := cellHeightWithCellClass_eq halike t₁.cellAutoHeightManager p x
  simp only [heq]
  cases hc : t₁.cellAutoHeightManager.heightCacheForIndexPath p with
  | some v => exact h₁.modelCell modelCell
  | none => exact (h₁.modelCell modelCell).measure hx hw hc

theorem setContentViewWidth_cacheDictionary (t : UITableView β) (w : ℚ) :
    (t.setContentViewWidth w).cellAutoHeightManager.cacheDictionary =
      t.cellAutoHeightManager.cacheDictionary := by
  unfold UITableView.setContentViewWidth
  dsimp only
  split_ifs <;> rfl

/-- **What is answered**: the height measured with the data of the row, and at the width asked for
unless a block waits. -/
theorem Coherent.answer (h : Coherent c t) (halike : c.Alike) {p : NSIndexPath} {x : β} {w : ℚ}
    (hx : (t.rows p.inSection)[p.row]? = some x) (hw : 0 < w) :
    ∃ w', (t.cellHeightForIndexPath c p x w).2 = heightOf c x w' ∧
      (t.mainQueue = 0 → (t.cellAutoHeightManager.contentViewWidth = w ∨
        t.cellAutoHeightManager.contentViewWidth = 0) → w' = w) := by
  obtain ⟨h₁, hwidth, hrows⟩ := h.setContentViewWidth hw
  have hlookup : (t.setContentViewWidth w).cellAutoHeightManager.heightCacheForIndexPath p =
      t.cellAutoHeightManager.heightCacheForIndexPath p := by
    unfold heightCacheForIndexPath
    rw [setContentViewWidth_cacheDictionary]
  unfold UITableView.cellHeightForIndexPath
  obtain ⟨modelCell, heq⟩ :=
    cellHeightWithCellClass_eq halike (t.setContentViewWidth w).cellAutoHeightManager p x
  simp only [heq, hlookup, hwidth]
  cases hc : t.cellAutoHeightManager.heightCacheForIndexPath p with
  | some v =>
    obtain ⟨y, hy, w', rfl, hcur⟩ := h.heights p.inSection p.row v hc
    obtain rfl := Option.some.inj (hx.symm.trans hy)
    refine ⟨w', by simp [heightOf], fun hq hcase => ?_⟩
    rw [hcur hq]
    rcases hcase with hcase | hcase
    · exact hcase
    · -- at width zero nothing has been cached
      have := h.asked hcase p.inSection p.row
      rw [show t.cellAutoHeightManager.heights p.inSection p.row = some _ from hc] at this
      cases this
  | none => exact ⟨w, rfl, fun _ _ => rfl⟩

/-! ## Calls that change the data -/

theorem foldl_removeEntries {m : SDCellAutoHeightManager} (hm : m.WellKeyed)
    (ps : List NSIndexPath) :
    (ps.foldl removeEntries m).WellKeyed ∧
      m.MovesTo (ps.foldl removeEntries m) (fun s r r' => r' = r ∧ ⟨r, s⟩ ∉ ps) ∧
      (ps.foldl removeEntries m).contentViewWidth = m.contentViewWidth ∧
      (ps.foldl removeEntries m).shouldKeepHeightCacheWhenReloadingData =
        m.shouldKeepHeightCacheWhenReloadingData := by
  induction ps generalizing m with
  | nil =>
    refine ⟨hm, fun s => ?_, rfl, rfl⟩
    simp only [List.not_mem_nil, not_false_eq_true, and_true]
    exact ⟨Moved.refl _, Moved.refl _⟩
  | cons p ps ih =>
    obtain ⟨hw, hmoved, h₁, h₂⟩ := ih (hm.removeEntries p)
    refine ⟨hw, fun s => ?_, h₁, h₂⟩
    have hfirst := Moved.of_removed (entriesIn_erase m.cacheDictionary p s)
    have hfirst' := Moved.of_removed (entriesIn_erase m.subviewFrameCacheDict p s)
    have hcomp : ∀ r r'', (r'' = r ∧ (⟨r, s⟩ : NSIndexPath) ∉ p :: ps) ↔
        ∃ r', (r' = r ∧ ¬ (s = p.inSection ∧ r = p.row)) ∧ r'' = r' ∧ ⟨r', s⟩ ∉ ps := by
      intro r r''
      have hp : (⟨r, s⟩ : NSIndexPath) = p ↔ s = p.inSection ∧ r = p.row := by
        cases p
        simp [and_comm]
      rw [List.mem_cons, not_or, hp]
      constructor
      · rintro ⟨rfl, h1, h2⟩
        exact ⟨r'', ⟨rfl, h1⟩, rfl, h2⟩
      · rintro ⟨r', ⟨rfl, h1⟩, rfl, h2⟩
        exact ⟨rfl, h1, h2⟩
    exact ⟨hfirst.comp (hmoved s).1 hcomp, hfirst'.comp (hmoved s).2 hcomp⟩

section Order

variable [KeyOrder]

theorem foldl_insertAtBegining {m : SDCellAutoHeightManager} (hm : m.WellKeyed)
    (newData : List (ℕ × ℕ)) :
    let m' := newData.foldl (fun m x => m.insertNewDataAtTheBeginingOfSection x.1 x.2) m
    m'.WellKeyed ∧
      m.MovesTo m' (fun s r r' =>
        r' = r + ((newData.filter fun x => x.1 = s).map Prod.snd).sum) ∧
      m'.contentViewWidth = m.contentViewWidth ∧
      m'.shouldKeepHeightCacheWhenReloadingData = m.shouldKeepHeightCacheWhenReloadingData := by
  induction newData generalizing m with
  | nil => exact ⟨hm, fun s => ⟨Moved.refl _, Moved.refl _⟩, rfl, rfl⟩
  | cons x newData ih =>
    obtain ⟨hw₁, hfirst⟩ := insertAtBegining_moved hm x.1 x.2
    obtain ⟨hw, hmoved, h₁, h₂⟩ := ih hw₁
    refine ⟨hw, fun s => ?_, h₁, h₂⟩
    have hcomp : ∀ r r'', r'' = r + (((x :: newData).filter fun x => x.1 = s).map Prod.snd).sum ↔
        ∃ r', (r' = if s = x.1 then r + x.2 else r) ∧
          r'' = r' + ((newData.filter fun x => x.1 = s).map Prod.snd).sum := by
      intro r r''
      by_cases hs : s = x.1
      · rw [List.filter_cons_of_pos (by simp [hs])]
        simp [hs, Nat.add_assoc]
      · rw [List.filter_cons_of_neg (by simpa [eq_comm] using hs)]
        simp [hs]
    exact ⟨(hfirst s).1.comp (hmoved s).1 hcomp, (hfirst s).2.comp (hmoved s).2 hcomp⟩

theorem foldl_delete_width (ps : List NSIndexPath) (m : SDCellAutoHeightManager) :
    (ps.foldl deleteThenResetHeightCache m).contentViewWidth = m.contentViewWidth ∧
      (ps.foldl deleteThenResetHeightCache m).shouldKeepHeightCacheWhenReloadingData =
        m.shouldKeepHeightCacheWhenReloadingData := by
  induction ps generalizing m with
  | nil => exact ⟨rfl, rfl⟩
  | cons p ps ih => exact ih (m.deleteThenResetHeightCache p)

/-- Rows inserted as the table inserts them. -/
theorem Coherent.insert {ps : List NSIndexPath} {rows : ℕ → List β} (h : Coherent c t)
    (ha : Describes t (.insertRows ps rows)) :
    ((t.cellAutoHeightManager.insertNewDataAtIndexPaths (fun s => (t.rows s).length) ps).isSome ↔
      ∀ p ∈ ps, ∀ r, (t.cellAutoHeightManager.heights p.inSection r).isSome →
        (t.cellAutoHeightManager.frames p.inSection r).isSome) ∧
    ∀ m', t.cellAutoHeightManager.insertNewDataAtIndexPaths (fun s => (t.rows s).length) ps =
        some m' → m'.WellKeyed ∧
      t.cellAutoHeightManager.MovesTo m' (fun s r r' => afterDeletion (rowsIn s ps) r' = some r) ∧
      m'.contentViewWidth = t.cellAutoHeightManager.contentViewWidth ∧
      m'.shouldKeepHeightCacheWhenReloadingData =
        t.cellAutoHeightManager.shouldKeepHeightCacheWhenReloadingData := by
  refine insertNewDataAtIndexPaths_moved _ ⟨ha.1, fun p hp => ?_⟩ h.wellKeyed fun s r hs => ?_
  · rw [← (ha.2.2 p.inSection).1]
    exact ha.2.1 p hp
  · obtain ⟨v, hv⟩ := Option.isSome_iff_exists.1 hs
    obtain ⟨x, hx, -⟩ := h.heights s r v hv
    exact (List.getElem?_eq_some_iff.1 hx).1

/-- **One call keeps every cached height with its row.** -/
theorem Coherent.step {t' : UITableView β} {a : Action β} (h : Coherent c t) (halike : c.Alike)
    (ha : Describes t a) (hlast : DeletesFromLast a) (hs : step c t a = some t') :
    Coherent c t' := by
  cases a with
  | cellHeight p x w =>
    obtain rfl := Option.some.inj hs
    exact h.cellHeight halike ha.1 ha.2
  | mainQueue =>
    simp only [UITableView.step] at hs
    split_ifs at hs
    obtain rfl := Option.some.inj hs
    simp only [sd_reloadData, clearHeightCache, h.keep]
    exact coherent_of_empty rfl rfl h.width rfl
  | reloadData rows =>
    obtain rfl := Option.some.inj hs
    simp only [sd_reloadData, h.keep]
    exact coherent_of_empty rfl rfl h.width rfl
  | reloadDataWithExistedHeightCache rows =>
    obtain rfl := Option.some.inj hs
    have hw := h.wellKeyed
    refine h.move (ρ := fun _ r r' => r' = r) ⟨hw.keys, hw.frameKeys, hw.framed⟩
      (fun s => ⟨Moved.refl _, Moved.refl _⟩) (fun s r r' x hr hx => ?_) rfl rfl rfl
    subst hr
    obtain ⟨new, hnew⟩ := ha s
    change (rows s)[r']? = some x
    rw [← hnew, List.getElem?_append_left (List.getElem?_eq_some_iff.1 hx).1, hx]
  | reloadDataWithInsertingDataAtTheBegining newData rows =>
    obtain rfl := Option.some.inj hs
    have hw : t.keepHeightCache.cellAutoHeightManager.WellKeyed :=
      ⟨h.wellKeyed.keys, h.wellKeyed.frameKeys, h.wellKeyed.framed⟩
    obtain ⟨hw', hmoved, h₁, h₂⟩ := foldl_insertAtBegining hw newData
    unfold UITableView.reloadDataWithInsertingDataAtTheBegining sd_reloadData
    simp only [h₂]
    refine h.move ⟨hw'.keys, hw'.frameKeys, hw'.framed⟩ hmoved (fun s r r' x hr hx => ?_) h₁ rfl rfl
    obtain ⟨new, hnew, hlen⟩ := ha s
    change (rows s)[r']? = some x
    rw [hr, hnew, ← hlen, Nat.add_comm, List.getElem?_append_right (Nat.le_add_right _ _),
      Nat.add_sub_cancel_left, hx]
  | reloadRows ps rows =>
    obtain rfl := Option.some.inj hs
    obtain ⟨hw, hmoved, h₁, h₂⟩ := foldl_removeEntries h.wellKeyed ps
    refine h.move hw hmoved (fun s r r' x hr hx => ?_) h₁ rfl (h₂.trans h.keep)
    obtain ⟨rfl, hr⟩ := hr
    exact (ha s r' hr).trans hx
  | deleteRows ps rows =>
    obtain rfl := Option.some.inj hs
    obtain ⟨hw, hmoved⟩ := deleteRows_moved h.wellKeyed ps
    obtain ⟨h₁, h₂⟩ := foldl_delete_width ps t.cellAutoHeightManager
    refine h.move hw hmoved (fun s r r' x hr hx => ?_) h₁ rfl (h₂.trans h.keep)
    rw [(afterDeletes_eq_iff _).2 ((fromLast_iff ps).1 hlast s)] at hr
    change (rows s)[r']? = some x
    rw [ha s, getElem?_kept _ hr, hx]
  | insertRows ps rows =>
    simp only [UITableView.step, sd_insertRows, Option.map_eq_some_iff] at hs
    obtain ⟨m', hm', rfl⟩ := hs
    obtain ⟨hw, hmoved, h₁, h₂⟩ := (h.insert ha).2 m' hm'
    refine h.move hw hmoved (fun s r r' x hr hx => ?_) h₁ rfl (h₂.trans h.keep)
    have hkept := (ha.2.2 s).2
    change (rows s)[r']? = some x
    rw [← getElem?_kept _ hr, ← hkept, hx]

/-! ## Runs -/

/-- **Every state of a run is coherent.** -/
theorem coherent_of_run (halike : c.Alike) {rows : ℕ → List β}
    {h : List (UITableView β × Action β)} (hr : Run (step c) (init rows) h t)
    (hd : ∀ q ∈ h, Describes q.1 q.2) (hlast : ∀ q ∈ h, DeletesFromLast q.2) : Coherent c t :=
  hr.invariant_of (P := Coherent c) (C := fun t a => Describes t a ∧ DeletesFromLast a)
    (coherent_init rows) (fun _ _ _ hc ha hs => hc.step halike ha.1 ha.2 hs)
    fun q hq => ⟨hd q hq, hlast q hq⟩

/-- **The height answered is the height of the row**: in a run whose calls say what has happened to
the data and delete rows from the last to the first, it has been measured with the data the row
shows now, and at the width asked for if no block of an earlier change of width waits and this is
no change of width. -/
theorem cellHeight_of_run (halike : c.Alike) {rows : ℕ → List β}
    {h : List (UITableView β × Action β)} (hr : Run (step c) (init rows) h t)
    (hd : ∀ q ∈ h, Describes q.1 q.2) (hlast : ∀ q ∈ h, DeletesFromLast q.2) {p : NSIndexPath}
    {x : β} {w : ℚ} (ha : Describes t (.cellHeight p x w)) :
    ∃ w', (t.cellHeightForIndexPath c p x w).2 = heightOf c x w' ∧
      (t.mainQueue = 0 → (t.cellAutoHeightManager.contentViewWidth = w ∨
        t.cellAutoHeightManager.contentViewWidth = 0) → w' = w) :=
  (coherent_of_run halike hr hd hlast).answer halike ha.1 ha.2

/-- **An insertion raises exactly when a section with a new row has a cached height without
frames**, in every state of such a run; and where every cell lays out a subview, only while a
block of a change of width waits. -/
theorem insertRows_raises_iff (halike : c.Alike) {rows : ℕ → List β}
    {h : List (UITableView β × Action β)} (hr : Run (step c) (init rows) h t)
    (hd : ∀ q ∈ h, Describes q.1 q.2) (hlast : ∀ q ∈ h, DeletesFromLast q.2)
    {ps : List NSIndexPath} {rows' : ℕ → List β} (ha : Describes t (.insertRows ps rows')) :
    (step c t (.insertRows ps rows') = none ↔ ∃ p ∈ ps, ∃ r,
      (t.cellAutoHeightManager.heights p.inSection r).isSome ∧
        t.cellAutoHeightManager.frames p.inSection r = none) ∧
    (LaysOut c → step c t (.insertRows ps rows') = none → t.mainQueue ≠ 0) := by
  have hc := coherent_of_run halike hr hd hlast
  have hiff : step c t (.insertRows ps rows') = none ↔ ∃ p ∈ ps, ∃ r,
      (t.cellAutoHeightManager.heights p.inSection r).isSome ∧
        t.cellAutoHeightManager.frames p.inSection r = none := by
    have hraise := (hc.insert ha).1
    rw [← not_iff_not, ← ne_eq, ← Option.isSome_iff_ne_none]
    simp only [UITableView.step, sd_insertRows, Option.isSome_map]
    rw [hraise]
    push Not
    simp only [Option.isSome_iff_ne_none]
  refine ⟨hiff, fun hl hnone hq => ?_⟩
  obtain ⟨p, -, r, hh, hf⟩ := hiff.1 hnone
  have := hc.complete hl hq p.inSection r hh
  rw [hf] at this
  cases this

end Order

/-- Cells of one class that are as high as their data says, with one subview. -/
def oneLabel : CellLayout ℚ where
  cellClass _ := "LabelCell"
  isKindOfClass cell cellClass := cell = cellClass
  isKindOfClass_self _ := decide_eq_true rfl
  layout _ x w := (x, [⟨0, 0, w, x⟩])

theorem alike_oneLabel : oneLabel.Alike := fun _ _ _ => rfl

/-- Two rows, and what is left of them without the first. -/
def lowAndHigh : ℕ → List ℚ := fun s => if s = 0 then [30, 50] else []

def highLeft : ℕ → List ℚ := fun s => kept (rowsIn s [⟨0, 0⟩]) (lowAndHigh s)

/-- A table in which the second row is measured and the first one deleted. -/
def firstDeleted : UITableView ℚ :=
  ((init lowAndHigh).cellHeightForIndexPath oneLabel ⟨1, 0⟩ 50 320).1.sd_deleteRows [⟨0, 0⟩] highLeft

/-- The row that moved up is answered with its own height. -/
theorem cellHeight_of_run_delete :
    (firstDeleted.cellHeightForIndexPath oneLabel ⟨0, 0⟩ 50 320).2 = 50 := by
  have hr : Run (step oneLabel) (init lowAndHigh) _ firstDeleted :=
    (Run.nil.snoc (a := .cellHeight ⟨1, 0⟩ 50 320) rfl).snoc
      (a := .deleteRows [⟨0, 0⟩] highLeft) rfl
  obtain ⟨w', h, -⟩ := cellHeight_of_run (p := ⟨0, 0⟩) (x := 50) (w := 320) alike_oneLabel hr
    (by
      rw [List.nil_append, List.singleton_append, List.forall_mem_cons, List.forall_mem_singleton]
      exact ⟨⟨rfl, by norm_num⟩, fun _ => rfl⟩)
    (by
      rw [List.nil_append, List.singleton_append, List.forall_mem_cons, List.forall_mem_singleton]
      exact ⟨trivial, List.pairwise_singleton _ _⟩)
    ⟨rfl, by norm_num⟩
  rw [h]
  exact show floatValue 50 = 50 by decide +kernel

/-- One row, and one more in front of it. -/
def lowAlone : ℕ → List ℚ := fun s => if s = 0 then [30] else []

def lowerInFront : ℕ → List ℚ := fun s => if s = 0 then [10, 30] else []

/-- A table whose row is measured for two widths. -/
def twoWidths : UITableView ℚ :=
  (((init lowAlone).cellHeightForIndexPath oneLabel ⟨0, 0⟩ 30 320).1.cellHeightForIndexPath
    oneLabel ⟨0, 0⟩ 30 375).1

/-- A row inserted behind a change of width. -/
theorem insertRows_raises_width :
    step oneLabel twoWidths (.insertRows [⟨0, 0⟩] lowerInFront) = none := by
  have hr : Run (step oneLabel) (init lowAlone) _ twoWidths :=
    (Run.nil.snoc (a := .cellHeight ⟨0, 0⟩ 30 320) rfl).snoc (a := .cellHeight ⟨0, 0⟩ 30 375) rfl
  have ha : Describes twoWidths (.insertRows [⟨0, 0⟩] lowerInFront) := by
    refine ⟨List.nodup_singleton _, by decide, fun s => ?_⟩
    by_cases hs : s = 0
    · subst hs
      exact ⟨rfl, rfl⟩
    · have h1 : lowAlone s = [] := if_neg hs
      have h2 : lowerInFront s = [] := if_neg hs
      have h3 : rowsIn s [⟨0, 0⟩] = [] := by simp [rowsIn, Ne.symm hs]
      change (lowerInFront s).length = (lowAlone s).length + _ ∧ lowAlone s = _
      rw [h1, h2, h3]
      exact ⟨rfl, rfl⟩
  refine (insertRows_raises_iff alike_oneLabel hr ?_ ?_ ha).1.2
    ⟨⟨0, 0⟩, List.mem_cons_self, 0, by decide +kernel, by decide +kernel⟩
  · rw [List.nil_append, List.singleton_append, List.forall_mem_cons, List.forall_mem_singleton]
    exact ⟨⟨rfl, by norm_num⟩, rfl, by norm_num⟩
  · rw [List.nil_append, List.singleton_append, List.forall_mem_cons, List.forall_mem_singleton]
    exact ⟨trivial, trivial⟩

end UITableView

end RCSdk
