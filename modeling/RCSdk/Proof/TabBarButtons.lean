import RCSdk.Proof.TabBarItems

/-!
# The buttons of the tab bar

What the tab controller sees of its bar are the tags of the buttons and which of them is selected
(`tabButtons`). A new bar, selecting a tab and removing one are described on these alone.

* `initWithFrame_tabButtons`: a bar that is built has its buttons numbered, up to the first
  dictionary that lacks an image.
* `selectTabAtIndex_tabButtons`, `removeTabAtIndex_tabButtons`: selecting and removing raise
  together with what they do to the buttons, and lead to the same.
* `selectTabAtIndex_spec`, `removeTabAtIndex_spec`: they raise where there is no button, and what
  they leave where there is one.
-/

namespace RCSdk

/-- No index of an array reaches it. -/
def NSNotFound : ℕ := 2 ^ 63 - 1

namespace TabButtons

/-- Buttons tagged in order, none of them selected. -/
def numbered (n : ℕ) : List TabButton :=
  (List.range n).map fun i : ℕ => { tag := (i : ℤ) + 100, selected := false }

/-- One button selected, and no other. -/
def select (index : Int64) (buttons : List TabButton) : Option (List TabButton) :=
  let buttons := buttons.map fun b => { b with selected := false }
  let place := index.toUInt64.toNat
  buttons[place]?.map fun btn => buttons.set place { btn with selected := true }

/-- One button taken off, and the tags behind it moved up. -/
def remove (index : Int64) (buttons : List TabButton) : Option (List TabButton) :=
  let place := index.toUInt64.toNat
  buttons[place]?.map fun _ =>
    (buttons.eraseIdx place).map fun btn =>
      if btn.tag > index.toInt + 100 then { btn with tag := btn.tag - 1 } else btn

theorem numbered_succ (n : ℕ) : numbered (n + 1) = numbered n ++ [⟨(n : ℤ) + 100, false⟩] := by
  simp [numbered, List.range_succ]

theorem numbered_tag {n i : ℕ} {b : TabButton} (h : (numbered n)[i]? = some b) :
    b.tag = (i : ℤ) + 100 := by
  rw [numbered, List.getElem?_map, Option.map_eq_some_iff] at h
  obtain ⟨j, hj, rfl⟩ := h
  have hij : i = j := by
    have := (List.getElem?_eq_some_iff.1 hj).2
    rwa [List.getElem_range] at this
  rw [hij]

/-- Only the button at this place is highlighted. -/
def highlight (place : ℕ) (buttons : List TabButton) : List TabButton :=
  buttons.mapIdx fun i b => { b with selected := decide (i = place) }

theorem highlight_getElem? {place i : ℕ} {buttons : List TabButton} {b : TabButton}
    (h : (highlight place buttons)[i]? = some b) :
    ∃ b', buttons[i]? = some b' ∧ b = { b' with selected := decide (i = place) } := by
  rw [highlight, List.getElem?_mapIdx, Option.map_eq_some_iff] at h
  obtain ⟨b', hb', rfl⟩ := h
  exact ⟨b', hb', rfl⟩

@[simp] theorem highlight_length (place : ℕ) (buttons : List TabButton) :
    (highlight place buttons).length = buttons.length := List.length_mapIdx

theorem select_eq (index : Int64) (buttons : List TabButton) :
    select index buttons =
      if index.toUInt64.toNat < buttons.length then
        some (highlight index.toUInt64.toNat buttons)
      else none := by
  set place := index.toUInt64.toNat with hplace
  simp only [select, ← hplace, List.getElem?_map]
  by_cases hlt : place < buttons.length
  · rw [if_pos hlt, List.getElem?_eq_getElem hlt, Option.map_some, Option.map_some]
    refine congrArg some (List.ext_getElem? fun i => ?_)
    rw [highlight, List.getElem?_mapIdx, List.getElem?_set]
    by_cases hi : place = i
    · subst hi
      simp [hlt]
    · have hi' : ¬ i = place := fun h => hi h.symm
      simp [hi, hi']
  · rw [if_neg hlt, List.getElem?_eq_none_iff.2 (Nat.le_of_not_lt hlt)]
    rfl

/-- The index of a place, as the signed number the bar is given. -/
theorem toInt_place {index : UInt64} (h : index.toNat < NSNotFound) :
    index.toInt64.toInt = (index.toNat : ℤ) := by
  have hlt : 2 * index.toBitVec.toNat < 2 ^ 64 := by
    have : index.toBitVec.toNat = index.toNat := rfl
    unfold NSNotFound at h
    omega
  exact BitVec.toInt_eq_toNat_of_lt hlt

/-- A button after one was taken off: where it was, and under the tag of its place. -/
theorem remove_eq {index : UInt64} {buttons : List TabButton}
    (hlt : index.toNat < buttons.length) (hfew : buttons.length < NSNotFound)
    (htag : ∀ (i : ℕ) b, buttons[i]? = some b → b.tag = (i : ℤ) + 100) :
    ∃ buttons', remove index.toInt64 buttons = some buttons' ∧
      buttons'.length = buttons.length - 1 ∧ ∀ (i : ℕ) b', buttons'[i]? = some b' →
        b'.tag = (i : ℤ) + 100 ∧ ∃ b,
          buttons[if i < index.toNat then i else i + 1]? = some b ∧ b'.selected = b.selected := by
  have hint := toInt_place (Nat.lt_trans hlt hfew)
  simp only [remove, UInt64.toUInt64_toInt64, List.getElem?_eq_getElem hlt,
    Option.map_some, hint]
  refine ⟨_, rfl, ?_, fun i b' hb' => ?_⟩
  · rw [List.length_map, List.length_eraseIdx_of_lt hlt]
  · rw [List.getElem?_map, Option.map_eq_some_iff] at hb'
    obtain ⟨b, hb, rfl⟩ := hb'
    rw [List.getElem?_eraseIdx] at hb
    by_cases hi : i < index.toNat
    · rw [if_pos hi] at hb ⊢
      have ht := htag i b hb
      rw [if_neg (by omega)]
      exact ⟨ht, b, hb, rfl⟩
    · rw [if_neg hi] at hb ⊢
      have ht := htag (i + 1) b hb
      rw [if_pos (by omega)]
      refine ⟨?_, b, hb, rfl⟩
      show b.tag - 1 = (i : ℤ) + 100
      omega

end TabButtons

namespace TabBar

variable {s t : TabBar}

/-- The buttons without their views. -/
def tabButtons (s : TabBar) : List TabButton := s.buttons.map BarButton.toTabButton

@[simp] theorem tabButtons_length (s : TabBar) : s.tabButtons.length = s.buttons.length :=
  List.length_map _

/-! ## A new bar -/

/-- What the loop over the dictionaries has built: a button for each of the first ones. -/
structure Built (l : List TabImageDic) (s : TabBar) : Prop where
  tabButtons : s.tabButtons = TabButtons.numbered s.buttons.length
  few : s.buttons.length ≤ MAXNEWPOINT
  le : s.buttons.length ≤ l.length
  pos : 0 < s.buttons.length ↔ l.head?.any TabImageDic.complete = true

/-- There is no place in the array of dots for an eleventh tab. -/
theorem insert_full {dict : Option TabImageDic} (h : Makes dict) {index maxTag : ℕ}
    (hi : MAXNEWPOINT ≤ index) (hmax : index < maxTag) :
    s.insertTabWithImageDic dict index maxTag = none := by
  obtain ⟨d, rfl, hcomplete⟩ := h.not_skipped
  unfold insertTabWithImageDic
  dsimp only
  rw [if_neg (by omega), if_neg hcomplete, if_pos hi]

theorem Built.concat {l : List TabImageDic} {d : TabImageDic} {maxTag : ℕ} (hb : Built l s)
    (hmax : l.length < maxTag)
    (ht : s.insertTabWithImageDic (some d) l.length maxTag = some t) : Built (l ++ [d]) t := by
  have hlen : (l ++ [d]).length = l.length + 1 := List.length_append
  by_cases hd : Makes (some d)
  · -- an earlier one was complete too, or this one would come beyond the end
    have hend : l.length = s.buttons.length := by
      by_contra hne
      rw [insert_beyond hd (Nat.lt_of_le_of_ne hb.le (Ne.symm hne)) hmax] at ht
      cases ht
    have hroom : l.length < MAXNEWPOINT := by
      by_contra hfull
      rw [insert_full hd (Nat.le_of_not_lt hfull) hmax] at ht
      cases ht
    rw [insert_end hd maxTag hend hroom] at ht
    obtain rfl := Option.some.inj ht
    refine ⟨?_, ?_, ?_, ?_⟩
    · simp only [TabBar.tabButtons, List.map_append, List.length_append, List.length_singleton,
        TabButtons.numbered_succ]
      rw [← hb.tabButtons, ← hend]
      rfl
    · rw [List.length_append, List.length_singleton]
      omega
    · rw [List.length_append, List.length_singleton]
      omega
    · refine iff_of_true (by simp) ?_
      cases l with
      | nil => exact makes_iff.1 hd
      | cons e l => exact hb.pos.1 (by rw [← hend]; exact Nat.succ_pos _)
  · rw [insert_skip hd] at ht
    obtain rfl := Option.some.inj ht
    refine ⟨hb.tabButtons, hb.few, by have := hb.le; omega, ?_⟩
    cases l with
    | nil =>
      refine iff_of_false (Nat.not_lt.2 hb.le) fun h => hd (makes_iff.2 h)
    | cons e l => exact hb.pos

/-- **A bar that is built** has numbered buttons, and some if the first dictionary is complete. -/
theorem initWithFrame_tabButtons {imageArray : List TabImageDic}
    (hs : initWithFrame imageArray = some s) : Built imageArray s := by
  suffices h : ∀ (maxTag : ℕ) (l : List TabImageDic) (s : TabBar), l.length ≤ maxTag →
      initUpTo maxTag l = some s → Built l s from h _ imageArray s le_rfl hs
  intro maxTag l
  induction l using List.reverseRecOn with
  | nil =>
    intro s _ hs
    obtain rfl := Option.some.inj hs
    exact ⟨rfl, Nat.zero_le _, le_rfl, iff_of_false (Nat.lt_irrefl 0) Bool.false_ne_true⟩
  | append_singleton l d ih =>
    intro s hmax hs
    rw [List.length_append, List.length_singleton] at hmax
    rw [initUpTo_concat, Option.bind_eq_some_iff] at hs
    obtain ⟨s₁, hs₁, hs⟩ := hs
    exact (ih s₁ (by omega) hs₁).concat hmax hs

/-! ## Selecting and removing -/

/-- A signed index is the place it is taken for, unless it is negative, and then that place is in
no array. -/
theorem place_cases {n : ℕ} (hn : n < NSNotFound) (index : Int64) :
    index.toInt = (index.toUInt64.toNat : ℤ) ∨ index.toInt < 0 ∧ n ≤ index.toUInt64.toNat := by
  have h : index.toInt = if 2 * index.toUInt64.toNat < 2 ^ 64 then (index.toUInt64.toNat : ℤ)
      else (index.toUInt64.toNat : ℤ) - 2 ^ 64 := BitVec.toInt_eq_toNat_cond index.toBitVec
  have hlt := index.toUInt64.toNat_lt
  unfold NSNotFound at hn
  split_ifs at h with hsigned
  · exact Or.inl h
  · exact Or.inr (by omega)

/-- **A tab is selected in both.** -/
theorem selectTabAtIndex_tabButtons (hl : s.buttons.length < NSNotFound) (index : Int64) :
    (s.selectTabAtIndex index.toInt).map tabButtons =
      TabButtons.select index s.tabButtons := by
  unfold selectTabAtIndex TabButtons.select
  rcases place_cases hl index with h | ⟨hneg, hplace⟩
  · rw [if_neg (by omega), h, Int.toNat_natCast]
    simp [tabButtons, Function.comp_def, List.map_set]
  · rw [if_pos hneg]
    dsimp only
    rw [List.getElem?_eq_none_iff.2 (by simpa [tabButtons] using hplace)]
    rfl

/-- **A tab is removed in both.** -/
theorem removeTabAtIndex_tabButtons (hl : s.buttons.length < NSNotFound) (index : Int64) :
    (s.removeTabAtIndex index.toInt).map tabButtons =
      TabButtons.remove index s.tabButtons := by
  unfold removeTabAtIndex TabButtons.remove
  rcases place_cases hl index with h | ⟨hneg, hplace⟩
  · rw [if_neg (by omega)]
    simp only [tabButtons, Option.map_map, Function.comp_def, List.map_map,
      apply_ite BarButton.toTabButton, List.getElem?_map, List.eraseIdx_map, h, Int.toNat_natCast]
  · rw [if_pos hneg]
    dsimp only
    rw [List.getElem?_eq_none_iff.2 (by simpa [tabButtons] using hplace)]
    rfl

/-- **A tab of the bar is selected** if there is one at the place. -/
theorem selectTabAtIndex_spec {bar : TabBar} (hfew : bar.tabButtons.length < NSNotFound)
    (index : Int64) :
    (index.toUInt64.toNat < bar.tabButtons.length → ∃ bar',
      bar.selectTabAtIndex index.toInt = some bar' ∧
        bar'.tabButtons = TabButtons.highlight index.toUInt64.toNat bar.tabButtons) ∧
    (bar.tabButtons.length ≤ index.toUInt64.toNat → bar.selectTabAtIndex index.toInt = none) := by
  have h := selectTabAtIndex_tabButtons (by simpa using hfew) index
  rw [TabButtons.select_eq] at h
  refine ⟨fun hlt => ?_, fun hle => ?_⟩
  · rw [if_pos hlt] at h
    exact Option.map_eq_some_iff.1 h
  · rw [if_neg (Nat.not_lt.2 hle)] at h
    exact Option.map_eq_none_iff.1 h

/-- **A tab of the bar is removed** if there is one at the place. -/
theorem removeTabAtIndex_spec {bar : TabBar} (hfew : bar.tabButtons.length < NSNotFound)
    (htag : ∀ (i : ℕ) b, bar.tabButtons[i]? = some b → b.tag = (i : ℤ) + 100) (index : UInt64) :
    (index.toNat < bar.tabButtons.length → ∃ bar',
      bar.removeTabAtIndex index.toInt64.toInt = some bar' ∧
        bar'.tabButtons.length = bar.tabButtons.length - 1 ∧
        ∀ (i : ℕ) b', bar'.tabButtons[i]? = some b' → b'.tag = (i : ℤ) + 100 ∧ ∃ b,
          bar.tabButtons[if i < index.toNat then i else i + 1]? = some b ∧
            b'.selected = b.selected) ∧
    (bar.tabButtons.length ≤ index.toNat → bar.removeTabAtIndex index.toInt64.toInt = none) := by
  have h := removeTabAtIndex_tabButtons (by simpa using hfew) index.toInt64
  refine ⟨fun hlt => ?_, fun hle => ?_⟩
  · obtain ⟨buttons', hb, hlen, hget⟩ := TabButtons.remove_eq hlt hfew htag
    rw [hb] at h
    obtain ⟨bar', hbar, rfl⟩ := Option.map_eq_some_iff.1 h
    exact ⟨bar', hbar, hlen, hget⟩
  · rw [TabButtons.remove, UInt64.toUInt64_toInt64, List.getElem?_eq_none_iff.2 hle] at h
    exact Option.map_eq_none_iff.1 h

end TabBar

end RCSdk
