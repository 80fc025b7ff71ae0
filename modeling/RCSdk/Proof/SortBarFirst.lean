import RCSdk.Proof.SortBar

/-!
# The first show of a sort bar

`beginShow` fires the item that is selected when its mark says so, through the handler of taps. The
handler ignores a tap on an item that is selected already, and takes one on a Multiselect item for a
change of its order.

* `first_show_iff`: the bar shows the items as they were configured, and tells its delegate of the
  marked item, exactly when no selected item is marked.
* `first_show_marked`: a marked Radio item is not reported, and a marked Multiselect item is turned
  round.
-/

namespace RCSdk

namespace SortSelect

/-- **A bar that shows its items as they were configured**, and has told its delegate of the marked
one. -/
structure ShownAsConfigured (models : Models) (list : List ItemRef) (s : SortSelect) : Prop where
  isSelected : ∀ one ∈ list, (s.models one).isSelected = (models one).isSelected
  tagSelecte : ∀ one ∈ list, (s.models one).tagSelecte = (models one).tagSelecte
  button : ∀ i one, list[i]? = some one → ∃ b ∈ s.sortScroll, b.tag = 100 + i ∧ b.model = one
  highlighted : ∀ b ∈ s.sortScroll, b.selected = true ↔ (models b.model).isSelected = true
  fired : ∀ one ∈ list, (models one).isSelected = true → (models one).isFirstFire = true →
    s.calls = [.downSelectView one]
  silent : (∀ one ∈ list, (models one).isSelected = true → (models one).isFirstFire = false) →
    s.calls = []
  cleared : ∀ one ∈ list, (models one).isSelected = true → (s.models one).isFirstFire = false

/-! ## The marks -/

/-- What the loop of `beginShow` notes of the marks, where at most one item is selected. -/
structure Noted (s : SortSelect) (list : List ItemRef) (x : Building) : Prop where
  rest : ∀ one ∉ list, x.bar.models one = s.models one
  cleared : ∀ one ∈ list, (s.models one).isSelected = true → (x.bar.models one).isFirstFire = false
  calls : x.bar.calls = s.calls
  isFirstFire : ∀ one ∈ list, (s.models one).isSelected = true →
    (∀ two ∈ list, (s.models two).isSelected = true → two = one) →
    x.isFirstFire = (s.models one).isFirstFire

theorem noted_append {s : SortSelect} {list : List ItemRef} {x : Building} {one : ItemRef}
    (hone : one ∉ list) (h : Noted s list x) :
    Noted s (list ++ [one]) (buildButton x one list.length) := by
  obtain ⟨hrest, hcleared, hcalls, hfire⟩ := h
  have hm := hrest one hone
  cases hsel : (s.models one).isSelected with
  | true =>
    -- its mark is noted, and taken off
    have hx : buildButton x one list.length =
        { bar := { x.bar with
            sortScroll := x.bar.sortScroll ++ [button one (s.models one) list.length]
            models := Function.update x.bar.models one { s.models one with isFirstFire := false } }
          firstBtn := some (100 + list.length)
          isFirstFire := (s.models one).isFirstFire } := by
      simp [buildButton, hm, hsel, button]
    rw [hx]
    refine ⟨fun two htwo => ?_, fun two htwo hsel2 => ?_, hcalls, fun two htwo hsel2 hunique => ?_⟩
    · rw [List.mem_append, List.mem_singleton, not_or] at htwo
      exact (Function.update_of_ne htwo.2 _ _).trans (hrest two htwo.1)
    · by_cases h2 : two = one
      · subst h2
        simp
      · have hmem : two ∈ list := by simpa [h2] using htwo
        dsimp only
        rw [Function.update_of_ne h2]
        exact hcleared two hmem hsel2
    · obtain rfl := hunique one (by simp) hsel
      rfl
  | false =>
    have hx : buildButton x one list.length =
        { x with bar := { x.bar with
            sortScroll := x.bar.sortScroll ++ [button one (s.models one) list.length] } } := by
      simp [buildButton, hm, hsel]
    rw [hx]
    have hmem : ∀ two ∈ list ++ [one], (s.models two).isSelected = true → two ∈ list := by
      intro two htwo hsel2
      rcases List.mem_append.1 htwo with h2 | h2
      · exact h2
      · rw [List.mem_singleton.1 h2, hsel] at hsel2
        cases hsel2
    refine ⟨fun two htwo => ?_, fun two htwo hsel2 => hcleared two (hmem two htwo hsel2) hsel2,
      hcalls, fun two htwo hsel2 hunique => ?_⟩
    · exact hrest two fun h2 => htwo (List.mem_append_left _ h2)
    · exact hfire two (hmem two htwo hsel2) hsel2 fun three h3 =>
        hunique three (List.mem_append_left _ h3)

theorem noted {s : SortSelect} (hnodup : s.sortModelArr.Nodup) :
    Noted s s.sortModelArr s.buildButtons := by
  have hall : s.sortModelArr.Nodup → Noted s s.sortModelArr s.buildButtons := by
    refine Traverse.foldl_zipIdx_invariant (P := fun list x => list.Nodup → Noted s list x) ?_
      (fun list one x h hn => ?_) _
    · exact fun _ => ⟨fun _ _ => rfl, by simp, rfl, by simp⟩
    · rw [← List.concat_eq_append, List.nodup_concat] at hn
      exact noted_append hn.1 (h hn.2)
  exact hall hnodup

/-! ## What the bar shows in the end -/

@[simp] theorem reorderSelectUI_models (sender : Option ℕ) (s : SortSelect) :
    (s.reorderSelectUI sender).models = s.models := by
  simp only [reorderSelectUI]
  split <;> rfl

@[simp] theorem reorderSelectUI_calls (sender : Option ℕ) (s : SortSelect) :
    (s.reorderSelectUI sender).calls = s.calls := by
  simp only [reorderSelectUI]
  split <;> rfl

/-- A Multiselect item that is selected is turned round by another selection, whatever its tag. -/
theorem selectModelToDo_turns {m : SelectToModel} (ht : m.typeSelect = .multiselect)
    (hs : m.isSelected = true) : (m.selectModelToDo true).tagSelecte ≠ m.tagSelecte := by
  simp only [SelectToModel.selectModelToDo, ht, hs, if_true]
  split_ifs with h0 h1
  · rw [h1]
    decide
  · exact fun h => h1 h.symm
  · rw [not_not] at h0
    rw [h0]
    decide

variable {models : Models} {list : List ItemRef} {s : SortSelect}

/-- A bar whose items are those that were built, and whose buttons are marked as they were built
with only that of tag `sender` highlighted. -/
theorem shownAsConfigured_of {x : Building} (hb : Built ⟨models, list, [], []⟩ list x)
    (hn : Noted ⟨models, list, [], []⟩ list x) (hmodels : s.models = x.bar.models)
    (hcalls : s.calls = x.bar.calls)
    (hunmarked : ∀ one ∈ list, (models one).isSelected = true → (models one).isFirstFire = false)
    (hbutton : ∀ i one, list[i]? = some one → ∃ b ∈ s.sortScroll, b.tag = 100 + i ∧ b.model = one)
    (hhigh : ∀ b ∈ s.sortScroll, b.selected = true ↔ (models b.model).isSelected = true) :
    ShownAsConfigured models list s where
  isSelected one _ := by
    rw [hmodels]
    exact (hb.models one).isSelected
  tagSelecte one _ := by
    rw [hmodels]
    exact (hb.models one).tagSelecte
  button := hbutton
  highlighted := hhigh
  fired one hone hsel hmark := by
    rw [hunmarked one hone hsel] at hmark
    cases hmark
  silent _ := hcalls.trans hn.calls
  cleared one hone hsel := by
    rw [hmodels]
    exact hn.cleared one hone hsel

/-- `reorderSelectToDo:` of an item that is not repeated selects it once more. -/
theorem reorderSelectToDo_models (hnodup : s.sortModelArr.Nodup)
    (hfew : s.sortModelArr.length < 900) {sender : ℕ} {x : ItemRef} (h100 : 100 ≤ sender)
    (hx : s.sortModelArr[sender - 100]? = some x) (hr : (s.models x).isRepeated = false) :
    (s.reorderSelectToDo (some sender)).models x = (s.models x).selectModelToDo true := by
  have hu := asUnsigned_tag hfew h100 hx
  have hm := congrArg Prod.fst (selectLoop_eq (u := unselect) (fun _ => rfl) hnodup
    x sender s.models s.sortScroll)
  simp only [reorderSelectToDo, hu, hx, hr, Bool.false_eq_true, if_false, reorderSelectUI_models,
    hm]
  rw [selectedOnly_of_mem (List.mem_of_getElem? hx), decide_eq_true rfl]

section Show

variable {x : Building} {one : ItemRef} {i : ℕ}

/-- The button of a place. -/
theorem Built.button {s : SortSelect} (hb : Built s list x) (hi : list[i]? = some one) :
    ∃ b ∈ x.bar.sortScroll, b.tag = 100 + i ∧ b.model = one := by
  obtain ⟨b, hmem, ht⟩ := hb.all i one hi
  have hplace := (hb.buttons b hmem).2.1
  rw [ht, Nat.add_sub_cancel_left, hi] at hplace
  exact ⟨b, hmem, ht, (Option.some.inj hplace).symm⟩

theorem Built.model_mem {s : SortSelect} (hb : Built s list x) {b : UIButton}
    (h : b ∈ x.bar.sortScroll) : b.model ∈ list :=
  List.mem_of_getElem? (hb.buttons b h).2.1

/-- A button has the tag of the one selected item exactly when its item is selected. -/
theorem Built.tag_iff (hb : Built ⟨models, list, [], []⟩ list x) (hnodup : list.Nodup)
    (hi : list[i]? = some one) (hsel : (models one).isSelected = true)
    (hunique : ∀ two ∈ list, (models two).isSelected = true → two = one) {b : UIButton}
    (h : b ∈ x.bar.sortScroll) : b.tag = 100 + i ↔ (models b.model).isSelected = true := by
  obtain ⟨h100, hplace, -⟩ := hb.buttons b h
  constructor
  · intro ht
    rw [ht, Nat.add_sub_cancel_left, hi] at hplace
    rw [← Option.some.inj hplace]
    exact hsel
  · intro hbsel
    have hm : b.model = one := hunique _ (hb.model_mem h) hbsel
    rw [hm, ← hi] at hplace
    obtain ⟨hlt, -⟩ := List.getElem?_eq_some_iff.1 hi
    have hidx := (List.getElem?_inj hlt hnodup).1 hplace.symm
    omega

/-- Nothing is selected: the bar stays as it was built. -/
theorem shown_unselected (hb : Built ⟨models, list, [], []⟩ list x)
    (hn : Noted ⟨models, list, [], []⟩ list x)
    (hnone : ∀ one ∈ list, (models one).isSelected = false) :
    ShownAsConfigured models list x.bar := by
  refine shownAsConfigured_of hb hn rfl rfl (fun one hone hsel => ?_)
    (fun i one hi => hb.button hi) fun b h => ?_
  · rw [hnone one hone] at hsel
    cases hsel
  · rw [(hb.buttons b h).2.2.1, hnone _ (hb.model_mem h)]

/-- The item selected is not marked: its button is highlighted, and nothing else is done. -/
theorem shown_unmarked (hb : Built ⟨models, list, [], []⟩ list x)
    (hn : Noted ⟨models, list, [], []⟩ list x) (hnodup : list.Nodup)
    (hfew : x.bar.sortModelArr.length < 900) (hi : list[i]? = some one)
    (hx : x.bar.sortModelArr[100 + i - 100]? = some one) (hsel : (models one).isSelected = true)
    (hunique : ∀ two ∈ list, (models two).isSelected = true → two = one)
    (hunmarked : ∀ two ∈ list, (models two).isSelected = true →
      (models two).isFirstFire = false) :
    ShownAsConfigured models list (x.bar.reorderSelectUI (some (100 + i))) := by
  have hoff : ∀ b ∈ x.bar.sortScroll, b.selected = true → b.tag = 100 + i := by
    intro b h hon
    rw [(hb.buttons b h).2.2.1] at hon
    cases hon
  obtain ⟨sortScroll, he, f, hmap, hmarks⟩ :=
    reorderSelectUI_marked hfew (Nat.le_add_right 100 i) hx hoff
  have hmap : sortScroll = x.bar.sortScroll.map f := hmap
  rw [he]
  refine shownAsConfigured_of hb hn rfl rfl hunmarked (fun j two hj => ?_) ?_
  · obtain ⟨b, h, ht, hm⟩ := hb.button hj
    refine ⟨f b, ?_, (hmarks b h).1.trans ht, (hmarks b h).2.1.trans hm⟩
    exact hmap ▸ List.mem_map_of_mem h
  · dsimp only
    rw [hmap, List.forall_mem_map]
    intro b h
    rw [(hmarks b h).2.2.2, (hmarks b h).2.1]
    exact hb.tag_iff hnodup hi hsel hunique h

/-- The item selected is marked: the handler takes the show for a second tap, and ignores it, or
turns the item round. -/
theorem not_shown_marked (hb : Built ⟨models, list, [], []⟩ list x)
    (hn : Noted ⟨models, list, [], []⟩ list x) (hnodup : x.bar.sortModelArr.Nodup)
    (hfew : x.bar.sortModelArr.length < 900) (hone : one ∈ list)
    (hx : x.bar.sortModelArr[100 + i - 100]? = some one) (hsel : (models one).isSelected = true)
    (hmark : (models one).isFirstFire = true) :
    ¬ ShownAsConfigured models list (x.bar.reorderSelectToDo (some (100 + i))) := by
  intro hshown
  have h100 : 100 ≤ 100 + i := Nat.le_add_right 100 i
  have hsel' : (x.bar.models one).isSelected = true := (hb.models one).isSelected.trans hsel
  cases hr : (x.bar.models one).isRepeated with
  | true =>
    rw [reorderSelectToDo_of_repeated hfew h100 hx hr] at hshown
    have hcalls := hshown.fired one hone hsel hmark
    rw [reorderSelectUI_calls, hn.calls] at hcalls
    cases hcalls
  | false =>
    have ht : (x.bar.models one).typeSelect = .multiselect := by
      simpa [SelectToModel.isRepeated, hsel'] using hr
    have htag := hshown.tagSelecte one hone
    rw [reorderSelectToDo_models hnodup hfew h100 hx hr, ← (hb.models one).tagSelecte] at htag
    exact selectModelToDo_turns ht hsel' htag

end Show

/-- **The first show**: the items are shown as they were configured, and a marked one is reported,
exactly when no selected item is marked. -/
theorem first_show_iff (hnodup : list.Nodup) (hfew : list.length < 900)
    (honce : ∀ one ∈ list, ∀ two ∈ list,
      (models one).isSelected = true → (models two).isSelected = true → one = two)
    (hs : shown models list = some s) : ShownAsConfigured models list s ↔
      ∀ one ∈ list, (models one).isSelected = true → (models one).isFirstFire = false := by
  simp only [shown, initWithFrame, Option.map_eq_some_iff, Option.ite_none_left_eq_some,
    Option.some.injEq] at hs
  obtain ⟨bar, ⟨-, rfl⟩, rfl⟩ := hs
  have hb := built (s := ⟨models, list, [], []⟩) rfl
  have hn : Noted ⟨models, list, [], []⟩ list _ := noted (s := ⟨models, list, [], []⟩) hnodup
  set x := buildButtons ⟨models, list, [], []⟩ with hx
  have hsort : x.bar.sortModelArr = list := hb.sortModelArr
  have hfew' : x.bar.sortModelArr.length < 900 := hsort ▸ hfew
  simp only [beginShow, ← hx]
  rcases hb.first with ⟨hf, hff, hnone⟩ | ⟨i, one, hi, hsel, hf⟩
  · -- nothing is selected
    rw [hff, hf, if_neg Bool.false_ne_true, reorderSelectUI_nil]
    refine iff_of_true (shown_unselected hb hn hnone) fun one hone hsel => ?_
    have hsel' : (models one).isSelected = false := hnone one hone
    rw [hsel] at hsel'
    cases hsel'
  · have hone : one ∈ list := List.mem_of_getElem? hi
    have hsel : (models one).isSelected = true := hsel
    have hunique : ∀ two ∈ list, (models two).isSelected = true → two = one := fun two htwo hsel2 =>
      honce two htwo one hone hsel2 hsel
    have hfire := hn.isFirstFire one hone hsel hunique
    have hx' : x.bar.sortModelArr[100 + i - 100]? = some one := by
      rw [hsort, Nat.add_sub_cancel_left, hi]
    rw [hf, hfire]
    cases hmark : (models one).isFirstFire with
    | false =>
      have hunmarked : ∀ two ∈ list, (models two).isSelected = true →
          (models two).isFirstFire = false := by
        intro two htwo hsel2
        rw [hunique two htwo hsel2]
        exact hmark
      rw [if_neg Bool.false_ne_true]
      exact iff_of_true (shown_unmarked hb hn hnodup hfew' hi hx' hsel hunique hunmarked) hunmarked
    | true =>
      rw [if_pos rfl]
      refine iff_of_false (not_shown_marked hb hn (hsort ▸ hnodup) hfew' hone hx' hsel hmark) ?_
      intro hunmarked
      rw [hunmarked one hone hsel] at hmark
      cases hmark

/-- A selected item of a type, marked or not. -/
def selectedItem (type : ItemSelectType) (isFirstFire : Bool) : SelectToModel :=
  { (SelectToModel.initWithType type).selectModelToDo true with isFirstFire }

/-- A selected Multiselect item without a mark. -/
theorem first_show_unmarked : ∃ s, shown (fun _ => selectedItem .multiselect false) [0] = some s ∧
    ShownAsConfigured (fun _ => selectedItem .multiselect false) [0] s :=
  ⟨_, rfl, (first_show_iff (by decide) (by decide) (by decide) rfl).2 (by decide)⟩

/-- **A marked Radio item is not reported; a marked Multiselect item is turned round.** -/
theorem first_show_marked :
    (∃ s, shown (fun _ => selectedItem .radio true) [0] = some s ∧ s.calls = [] ∧
      ¬ ShownAsConfigured (fun _ => selectedItem .radio true) [0] s) ∧
    ∃ s, shown (fun _ => selectedItem .multiselect true) [0] = some s ∧
      (selectedItem .multiselect true).tagSelecte = 1 ∧ (s.models 0).tagSelecte = 2 ∧
      ¬ ShownAsConfigured (fun _ => selectedItem .multiselect true) [0] s := by
  refine ⟨⟨_, rfl, by decide, fun h => ?_⟩, _, rfl, by decide, by decide, fun h => ?_⟩
  · exact absurd (h.fired 0 (by decide) (by decide) (by decide)) (by decide)
  · exact absurd (h.tagSelecte 0 (by decide)) (by decide)

end SortSelect

end RCSdk
