import RCSdk.Lib.RowEdits
import RCSdk.Spec.AutoLayout
import RCSdk.Spec.PickerDate

/-!
# The cache of cell heights (`UITableView+SDAutoTableViewCellHeight.m`)

The manager of a table keeps the height of each row it was asked for, and the frames of the
subviews, under a text made of section and row. When rows are inserted or deleted it moves the
entries. A height that is not kept is measured with a model cell, the one of the last question where
that is of a kind of the class asked for. What a cell lays out to is a parameter; classes are their
names. A dictionary that does not exist yet is an empty one.
-/

namespace RCSdk

open Grids RowEdits

structure NSIndexPath where
  row : ℕ
  inSection : ℕ
  deriving DecidableEq, Repr

/-- A dictionary with texts as keys. -/
abbrev NSMutableDictionary (α : Type) := AList fun _ : List Char => α

/-- **The order in which a dictionary lists its keys**, which Foundation does not fix. -/
class KeyOrder where
  allKeys {α : Type} : NSMutableDictionary α → List (List Char)
  perm {α : Type} (d : NSMutableDictionary α) : (allKeys d).Perm d.keys

/-- The order to evaluate the model with. -/
instance : KeyOrder where
  allKeys d := d.keys
  perm d := List.Perm.refl d.keys

/-- `%ld`, which is also `stringValue`. -/
def stringValue : ℤ → List Char
  | Int.ofNat n => Nat.toDigits 10 n
  | Int.negSucc n => '-' :: Nat.toDigits 10 (n + 1)

/-- `[NSString stringWithFormat:@"%ld-%ld", section, row]`. -/
def cacheKey (inSection row : ℤ) : List Char := stringValue inSection ++ '-' :: stringValue row

/-- `[key componentsSeparatedByString:@"-"].firstObject`, as a number. -/
def sectionOfKey (key : List Char) : ℤ := integerValue ((key.splitOn '-').headD [])

/-- `[key componentsSeparatedByString:@"-"].lastObject`, as a number. -/
def rowOfKey (key : List Char) : ℤ := integerValue ((key.splitOn '-').getLastD [])

/-- **The cells of a table.** A cell that is given the data of a row lays out to what follows from its
class, that data and the width, whatever it has shown before. -/
structure CellLayout (β : Type) where
  /-- The class the table is asked with for a row. -/
  cellClass : β → String
  /-- A cell of the first class is one of the second: of a subclass of it, or of that class. -/
  isKindOfClass : String → String → Bool
  isKindOfClass_self : ∀ cellClass, isKindOfClass cellClass cellClass = true
  /-- For a cell of a class, with the data of a row and a width of the content view, the height and
  the frames of the subviews. -/
  layout : String → β → ℚ → ℚ × List (Rect ℚ)

/-- `modelCell` is the class of the model cell that was used last. -/
structure SDCellAutoHeightManager where
  cacheDictionary : NSMutableDictionary ℚ
  subviewFrameCacheDict : NSMutableDictionary (List (Rect ℚ))
  contentViewWidth : ℚ
  shouldKeepHeightCacheWhenReloadingData : Bool
  modelCell : Option String

namespace SDCellAutoHeightManager

/-- `init`. -/
def init : SDCellAutoHeightManager := ⟨∅, ∅, 0, false, none⟩

/-- `cacheKeyForIndexPath:`. -/
def cacheKeyForIndexPath (indexPath : NSIndexPath) : List Char :=
  cacheKey indexPath.inSection indexPath.row

/-- `clearHeightCache`. -/
def clearHeightCache (m : SDCellAutoHeightManager) : SDCellAutoHeightManager :=
  { m with cacheDictionary := ∅, subviewFrameCacheDict := ∅ }

/-- Both entries of an index path removed. -/
def removeEntries (m : SDCellAutoHeightManager) (indexPath : NSIndexPath) :
    SDCellAutoHeightManager :=
  { m with
    cacheDictionary := m.cacheDictionary.erase (cacheKeyForIndexPath indexPath)
    subviewFrameCacheDict := m.subviewFrameCacheDict.erase (cacheKeyForIndexPath indexPath) }

/-- `clearHeightCacheOfIndexPaths:`. -/
def clearHeightCacheOfIndexPaths (m : SDCellAutoHeightManager) (indexPaths : List NSIndexPath) :
    SDCellAutoHeightManager :=
  indexPaths.foldl removeEntries m

/-! ## Entries that move -/

variable [KeyOrder]

open KeyOrder

/-- The new key of an entry in a section whose rows move. -/
def movedKey (inSection : ℤ) (moves : ℤ → Bool) (newRow : ℤ → ℤ) (key : List Char) :
    Option (List Char) :=
  if sectionOfKey key = inSection && moves (rowOfKey key) then
    some (cacheKey (sectionOfKey key) (newRow (rowOfKey key)))
  else none

/-- The loop over the keys of the height cache that `deleteThenResetHeightCache:` and
`insertNewDataAtTheBeginingOfSection:newDataCount:` share: the entries of a section that move are
taken out, under their new keys, and added again at the end. -/
def moveEntries (m : SDCellAutoHeightManager) (inSection : ℤ) (moves : ℤ → Bool)
    (newRow : ℤ → ℤ) : SDCellAutoHeightManager :=
  let keys := allKeys m.cacheDictionary
  { m with
    cacheDictionary := rekey (movedKey inSection moves newRow) keys m.cacheDictionary
    subviewFrameCacheDict := rekey (movedKey inSection moves newRow) keys m.subviewFrameCacheDict }

/-- `deleteThenResetHeightCache:`. -/
def deleteThenResetHeightCache (m : SDCellAutoHeightManager) (indexPathToDelete : NSIndexPath) :
    SDCellAutoHeightManager :=
  (m.removeEntries indexPathToDelete).moveEntries indexPathToDelete.inSection
    (fun row => row > indexPathToDelete.row) (fun row => row - 1)

/-- `insertNewDataAtTheBeginingOfSection:newDataCount:`. -/
def insertNewDataAtTheBeginingOfSection (m : SDCellAutoHeightManager) (inSection count : ℕ) :
    SDCellAutoHeightManager :=
  m.moveEntries inSection (fun _ => true) (fun row => row + count)

/-! ## Insertions anywhere -/

/-- `setObject:atIndexedSubscript:` of an array that holds `NSNull` where there is nothing. It
raises (`none`) for `nil` and for an index beyond the end. -/
def setObject {α : Type} (array : List (Option α)) (obj : Option α) (index : ℤ) :
    Option (List (Option α)) :=
  match obj with
  | none => none
  | some obj =>
    if 0 ≤ index ∧ index < array.length then some (array.set index.toNat (some obj))
    else if index = array.length then some (array ++ [some obj])
    else none

/-- The arrays of the rows of one section, and the dictionaries without them. -/
structure SectionArrays where
  tempHeightCaches : List (Option ℚ)
  tempFrameCaches : List (Option (List (Rect ℚ)))
  cacheDictionary : NSMutableDictionary ℚ
  subviewFrameCacheDict : NSMutableDictionary (List (Rect ℚ))

/-- One key, in the loop over the keys of the height cache. -/
def takeKey (inSection : ℤ) (a : SectionArrays) (key : List Char) : Option SectionArrays :=
  if sectionOfKey key = inSection then
    match setObject a.tempHeightCaches (a.cacheDictionary.lookup key) (rowOfKey key),
      setObject a.tempFrameCaches (a.subviewFrameCacheDict.lookup key) (rowOfKey key) with
    | some heights, some frames =>
      some ⟨heights, frames, a.cacheDictionary.erase key, a.subviewFrameCacheDict.erase key⟩
    | _, _ => none
  else some a

/-- `insertObjects:atIndexes:` of as many `NSNull`s as there are index paths, at their rows. It
raises when the index set has fewer indexes than there are objects. -/
def insertNulls {α : Type} (rows : List ℕ) (array : List (Option α)) : Option (List (Option α)) :=
  if (rows.toFinset.sort (· ≤ ·)).length = rows.length then
    insertAll none (rows.toFinset.sort (· ≤ ·)) array
  else none

/-- One row, when the arrays are written back. -/
def writeRow (inSection : ℤ) (tempFrameCaches : List (Option (List (Rect ℚ))))
    (m : SDCellAutoHeightManager) (entry : Option ℚ × ℕ) : SDCellAutoHeightManager :=
  match entry.1 with
  | none => m
  | some heightCache =>
    { m with
      cacheDictionary := put (cacheKey inSection entry.2) (some heightCache) m.cacheDictionary
      subviewFrameCacheDict :=
        put (cacheKey inSection entry.2) (tempFrameCaches[entry.2]?.join)
          m.subviewFrameCacheDict }

/-- One section, in `insertNewDataAtIndexPaths:`, with the number of its rows before. -/
def insertRowsInSection (m : SDCellAutoHeightManager) (inSection : ℤ) (rowCount : ℕ)
    (rows : List ℕ) : Option SDCellAutoHeightManager :=
  if rowCount = 0 then some m
  else do
    let a ← (allKeys m.cacheDictionary).foldlM (takeKey inSection)
      ⟨List.replicate rowCount none, List.replicate rowCount none, m.cacheDictionary,
        m.subviewFrameCacheDict⟩
    let heights ← insertNulls rows a.tempHeightCaches
    let frames ← insertNulls rows a.tempFrameCaches
    pure (heights.zipIdx.foldl (writeRow inSection frames)
      { m with cacheDictionary := a.cacheDictionary
               subviewFrameCacheDict := a.subviewFrameCacheDict })

/-- `sectionsdict`: the index paths by section. -/
def sectionsdict (indexPaths : List NSIndexPath) : NSMutableDictionary (List NSIndexPath) :=
  indexPaths.foldl (fun d indexPath =>
    let sectionkey := stringValue indexPath.inSection
    d.insert sectionkey ((d.lookup sectionkey).getD [] ++ [indexPath])) ∅

/-- `insertNewDataAtIndexPaths:`. -/
def insertNewDataAtIndexPaths (m : SDCellAutoHeightManager) (numberOfRowsInSection : ℕ → ℕ)
    (indexPaths : List NSIndexPath) : Option SDCellAutoHeightManager :=
  (allKeys (sectionsdict indexPaths)).foldlM (fun m sectionkey =>
    m.insertRowsInSection (integerValue sectionkey)
      (numberOfRowsInSection (integerValue sectionkey).toNat)
      ((((sectionsdict indexPaths).lookup sectionkey).getD []).map NSIndexPath.row)) m

/-! ## Heights -/

/-- `heightCacheForIndexPath:`. -/
def heightCacheForIndexPath (m : SDCellAutoHeightManager) (indexPath : NSIndexPath) : Option ℚ :=
  m.cacheDictionary.lookup (cacheKeyForIndexPath indexPath)

/-- `subviewFrameCachesWithIndexPath:`. -/
def subviewFrameCachesWithIndexPath (m : SDCellAutoHeightManager) (indexPath : NSIndexPath) :
    Option (List (Rect ℚ)) :=
  m.subviewFrameCacheDict.lookup (cacheKeyForIndexPath indexPath)

/-- `setSubviewFrameCache:WithIndexPath:`. -/
def setSubviewFrameCache (indexPath : NSIndexPath) (m : SDCellAutoHeightManager)
    (rect : Rect ℚ) : SDCellAutoHeightManager :=
  let caches := (m.subviewFrameCachesWithIndexPath indexPath).getD []
  { m with
    subviewFrameCacheDict :=
      m.subviewFrameCacheDict.insert (cacheKeyForIndexPath indexPath) (caches ++ [rect]) }

variable {β : Type}

/-- `cellHeightForIndexPath:model:keyPath:`. `autoHeight` is kept as a number and read as a
`float`. -/
def cellHeightForIndexPath (c : CellLayout β) (m : SDCellAutoHeightManager)
    (indexPath : NSIndexPath) (model : β) : SDCellAutoHeightManager × ℚ :=
  match m.heightCacheForIndexPath indexPath with
  | some cacheHeight => (m, floatValue cacheHeight)
  | none =>
    match m.modelCell with
    | none => (m, 0)
    | some modelCell =>
      let (height, frames) := c.layout modelCell model m.contentViewWidth
      let autoHeight := floatValue height
      let m := { m with
        cacheDictionary := m.cacheDictionary.insert (cacheKeyForIndexPath indexPath) autoHeight }
      (frames.foldl (setSubviewFrameCache indexPath) m, autoHeight)

/-- `cellHeightForIndexPath:model:keyPath:cellClass:`. The cell that was used last stays where it is
one of the class. Else there is one of that very class: from `_modelCellsDict`, or dequeued once
the class is registered. -/
def cellHeightWithCellClass (c : CellLayout β) (m : SDCellAutoHeightManager)
    (indexPath : NSIndexPath) (model : β) (cellClass : String) : SDCellAutoHeightManager × ℚ :=
  let m := if m.modelCell.any fun modelCell => c.isKindOfClass modelCell cellClass then m
    else { m with modelCell := some cellClass }
  m.cellHeightForIndexPath c indexPath model

end SDCellAutoHeightManager

/-! ## The table -/

/-- A table with the data its rows show and the blocks that `setContentViewWidth:` has put on the
main queue. -/
structure UITableView (β : Type) where
  cellAutoHeightManager : SDCellAutoHeightManager
  rows : ℕ → List β
  mainQueue : ℕ

namespace UITableView

open SDCellAutoHeightManager

variable {β : Type}

/-- A table that has not been asked for a height. -/
def init (rows : ℕ → List β) : UITableView β := ⟨.init, rows, 0⟩

/-- `setContentViewWidth:`. -/
def setContentViewWidth (t : UITableView β) (contentViewWidth : ℚ) : UITableView β :=
  let m := t.cellAutoHeightManager
  if m.contentViewWidth = contentViewWidth then t
  else if m.contentViewWidth > 0 then
    { t with
      cellAutoHeightManager :=
        { m with contentViewWidth := contentViewWidth, subviewFrameCacheDict := ∅ }
      mainQueue := t.mainQueue + 1 }
  else { t with cellAutoHeightManager := { m with contentViewWidth := contentViewWidth } }

/-- `cellHeightForIndexPath:model:keyPath:cellClass:contentViewWidth:`, with the class of the row's
data. -/
def cellHeightForIndexPath (c : CellLayout β) (t : UITableView β) (indexPath : NSIndexPath)
    (model : β) (contentViewWidth : ℚ) : UITableView β × ℚ :=
  let t := t.setContentViewWidth contentViewWidth
  let r := t.cellAutoHeightManager.cellHeightWithCellClass c indexPath model (c.cellClass model)
  ({ t with cellAutoHeightManager := r.1 }, r.2)

/-- `sd_reloadData`, with the data the table shows from then on. -/
def sd_reloadData (t : UITableView β) (rows : ℕ → List β) : UITableView β :=
  let m := t.cellAutoHeightManager
  let m := if m.shouldKeepHeightCacheWhenReloadingData then m else m.clearHeightCache
  { t with
    cellAutoHeightManager := { m with shouldKeepHeightCacheWhenReloadingData := false }
    rows := rows }

/-- `shouldKeepHeightCacheWhenReloadingData = YES`. -/
def keepHeightCache (t : UITableView β) : UITableView β :=
  { t with
    cellAutoHeightManager :=
      { t.cellAutoHeightManager with shouldKeepHeightCacheWhenReloadingData := true } }

/-- `reloadDataWithExistedHeightCache`. -/
def reloadDataWithExistedHeightCache (t : UITableView β) (rows : ℕ → List β) : UITableView β :=
  t.keepHeightCache.sd_reloadData rows

variable [KeyOrder]

/-- `reloadDataWithInsertingDataAtTheBeginingOfSections:newDataCounts:`, with the counts beside
the sections. -/
def reloadDataWithInsertingDataAtTheBegining (t : UITableView β) (newData : List (ℕ × ℕ))
    (rows : ℕ → List β) : UITableView β :=
  let t := t.keepHeightCache
  let m := newData.foldl (fun m sectionAndCount =>
    m.insertNewDataAtTheBeginingOfSection sectionAndCount.1 sectionAndCount.2)
    t.cellAutoHeightManager
  { t with cellAutoHeightManager := m }.sd_reloadData rows

/-- `sd_reloadRowsAtIndexPaths:withRowAnimation:`. -/
def sd_reloadRows (t : UITableView β) (indexPaths : List NSIndexPath) (rows : ℕ → List β) :
    UITableView β :=
  { t with
    cellAutoHeightManager := t.cellAutoHeightManager.clearHeightCacheOfIndexPaths indexPaths
    rows := rows }

/-- `sd_deleteRowsAtIndexPaths:withRowAnimation:`. -/
def sd_deleteRows (t : UITableView β) (indexPaths : List NSIndexPath) (rows : ℕ → List β) :
    UITableView β :=
  { t with
    cellAutoHeightManager :=
      indexPaths.foldl deleteThenResetHeightCache t.cellAutoHeightManager
    rows := rows }

/-- `sd_insertRowsAtIndexPaths:withRowAnimation:`. -/
def sd_insertRows (t : UITableView β) (indexPaths : List NSIndexPath) (rows : ℕ → List β) :
    Option (UITableView β) :=
  (t.cellAutoHeightManager.insertNewDataAtIndexPaths (fun s => (t.rows s).length) indexPaths).map
    fun m => { t with cellAutoHeightManager := m, rows := rows }

/-- What happens to a table. Where its data changes, the new data comes with it. -/
inductive Action (β : Type) where
  | cellHeight (indexPath : NSIndexPath) (model : β) (contentViewWidth : ℚ)
  | mainQueue
  | reloadData (rows : ℕ → List β)
  | reloadDataWithExistedHeightCache (rows : ℕ → List β)
  | reloadDataWithInsertingDataAtTheBegining (newData : List (ℕ × ℕ)) (rows : ℕ → List β)
  | reloadRows (indexPaths : List NSIndexPath) (rows : ℕ → List β)
  | deleteRows (indexPaths : List NSIndexPath) (rows : ℕ → List β)
  | insertRows (indexPaths : List NSIndexPath) (rows : ℕ → List β)

/-- One action; `none` where it raises, and for a block that is not there. -/
def step (c : CellLayout β) (t : UITableView β) : Action β → Option (UITableView β)
  | .cellHeight indexPath model width => some (t.cellHeightForIndexPath c indexPath model width).1
  | .mainQueue =>
    if t.mainQueue = 0 then none
    else
      let t := { t with
        cellAutoHeightManager := t.cellAutoHeightManager.clearHeightCache
        mainQueue := t.mainQueue - 1 }
      some (t.sd_reloadData t.rows)
  | .reloadData rows => some (t.sd_reloadData rows)
  | .reloadDataWithExistedHeightCache rows => some (t.reloadDataWithExistedHeightCache rows)
  | .reloadDataWithInsertingDataAtTheBegining newData rows =>
    some (t.reloadDataWithInsertingDataAtTheBegining newData rows)
  | .reloadRows indexPaths rows => some (t.sd_reloadRows indexPaths rows)
  | .deleteRows indexPaths rows => some (t.sd_deleteRows indexPaths rows)
  | .insertRows indexPaths rows => t.sd_insertRows indexPaths rows

end UITableView

end RCSdk
