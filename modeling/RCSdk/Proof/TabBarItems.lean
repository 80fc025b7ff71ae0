import Mathlib.Data.List.Nodup
import RCSdk.Lib.Run
import RCSdk.Lib.Tables
import RCSdk.Spec.TabBarItems

/-!
# The three orders of the tabs of a bar

The place of a button in the array, its tag, and the place of its dot in the array of dots
(`InOrder`). A button put in at the end, or taken off there, keeps the three together; one put in
further ahead leaves the tags behind it as they were, one taken off ahead leaves the dots.

* `tabs_indexed_iff`: a bar is built and stays indexed by place exactly when no dictionary that
  lacks an image comes before one that has both, and buttons come and go at the end only.
* `tabs_out_of_order`: what may happen otherwise.
-/

namespace RCSdk

open Trans

/-- The dictionary has both images. -/
def TabImageDic.complete (d : TabImageDic) : Bool := d.tabBarDefault && d.tabBarSeleted

namespace TabBar

/-- **The bar is indexed by place**: the tag of a button is that of its place, a tap selects the
place, and the dot and the ball that are set at a place are those of its button. -/
structure Indexed (s : TabBar) : Prop where
  tag : ∀ (i : ℕ) b, s.buttons[i]? = some b → b.tag = 100 + (i : ℤ)
  tapped : ∀ (i : ℕ) b, s.buttons[i]? = some b →
    ∃ t, s.selectTabAtIndex i = some t ∧ s.tabBarButtonClicked b = some (t, (i : ℤ))
  point : ∀ (i : ℕ) b toHid, s.buttons[i]? = some b → s.setToNewPoint i toHid =
    some { s with isHidden := Function.update s.isHidden b.point toHid }
  numb : ∀ (i : ℕ) b numbStr, s.buttons[i]? = some b → s.setToNew i numbStr =
    { s with numbs := Function.update s.numbs b.numb (.takeNumb numbStr) }

/-- The tags and the dots are in the order of the buttons. -/
structure InOrder (s : TabBar) : Prop where
  tag : ∀ (i : ℕ) b, s.buttons[i]? = some b → b.tag = 100 + (i : ℤ)
  point : ∀ (i : ℕ) b, s.buttons[i]? = some b → s.newPoint i = some b.point

/-- There is room for the dots of all buttons, and each has its own. -/
structure Distinct (s : TabBar) : Prop where
  few : s.buttons.length ≤ MAXNEWPOINT
  nodup : (s.buttons.map (·.point)).Nodup
  lt : ∀ b ∈ s.buttons, b.point < s.views

variable {s t : TabBar}

/-! ## What the marks are set on -/

theorem lt_of_getElem? {l : List BarButton} {i : ℕ} {b : BarButton} (h : l[i]? = some b) :
    i < l.length := (List.getElem?_eq_some_iff.1 h).1

/-- The dot that is set at a place is the one in the array. -/
theorem setToNewPoint_eq {i : ℕ} (hi : i < MAXNEWPOINT) (toHid : Bool) (s : TabBar) :
    s.setToNewPoint i toHid = some { s with isHidden :=
      ((s.newPoint i).map fun v => Function.update s.isHidden v toHid).getD s.isHidden } := by
  unfold setToNewPoint
  rw [if_pos (by exact_mod_cast hi), if_neg (by omega), Int.toNat_natCast]
  cases s.newPoint i <;> rfl

/-- The ball that is set at a place is always the one of its button. -/
theorem setToNew_eq {i : ℕ} {b : BarButton} (hi : i < MAXNEWPOINT) (hb : s.buttons[i]? = some b)
    (numbStr : Option String) : s.setToNew i numbStr =
      { s with numbs := Function.update s.numbs b.numb (.takeNumb numbStr) } := by
  unfold setToNew
  rw [if_pos ⟨by exact_mod_cast hi, Int.natCast_nonneg i⟩, Int.toNat_natCast, hb]
  rfl

/-- A tap selects the place that the tag says. -/
theorem selectTabAtIndex_isSome {i : ℕ} (hi : i < s.buttons.length) :
    ∃ t, s.selectTabAtIndex i = some t := by
  unfold selectTabAtIndex
  rw [if_neg (by omega), Int.toNat_natCast]
  dsimp only
  rw [List.getElem?_map, List.getElem?_eq_getElem hi]
  exact ⟨_, rfl⟩

/-- Setting another dot than the one that is meant shows. -/
theorem point_of_sets {i : ℕ} {b : BarButton} (hi : i < MAXNEWPOINT)
    (h : ∀ toHid, s.setToNewPoint i toHid =
      some { s with isHidden := Function.update s.isHidden b.point toHid }) :
    s.newPoint i = some b.point := by
  have hne := h (!s.isHidden b.point)
  rw [setToNewPoint_eq hi, Option.some.injEq, TabBar.mk.injEq] at hne
  have hpoint := congrFun hne.2.2.2.2.1 b.point
  rw [Function.update_self] at hpoint
  cases hv : s.newPoint i with
  | none => simp [hv] at hpoint
  | some v =>
    by_cases hvb : v = b.point
    · rw [hvb]
    · simp [hv, Function.update_of_ne (Ne.symm hvb)] at hpoint

/-- **Being indexed by place is being in order.** -/
theorem indexed_iff (hfew : s.buttons.length ≤ MAXNEWPOINT) : Indexed s ↔ InOrder s := by
  constructor
  · rintro ⟨htag, -, hpoint, -⟩
    refine ⟨htag, fun i b hb => ?_⟩
    have hi := lt_of_getElem? hb
    exact point_of_sets (by omega) fun toHid => hpoint i b toHid hb
  · rintro ⟨htag, hpoint⟩
    refine ⟨htag, fun i b hb => ?_, fun i b toHid hb => ?_, fun i b numbStr hb => ?_⟩
    · obtain ⟨t, ht⟩ := selectTabAtIndex_isSome (lt_of_getElem? hb)
      have hplace : b.tag - 100 = (i : ℤ) := by
        rw [htag i b hb]
        omega
      refine ⟨t, ht, ?_⟩
      rw [tabBarButtonClicked, hplace, ht]
      rfl
    · have hi := lt_of_getElem? hb
      rw [setToNewPoint_eq (by omega), hpoint i b hb]
      rfl
    · have hi := lt_of_getElem? hb
      exact setToNew_eq (by omega) hb numbStr

/-! ## A button put in -/

/-- A dictionary that makes a button. -/
def Makes (dict : Option TabImageDic) : Prop := ∃ d, dict = some d ∧ d.complete = true

theorem Makes.not_skipped {dict : Option TabImageDic} (h : Makes dict) :
    ∃ d, dict = some d ∧ ¬ (!(d.tabBarDefault && d.tabBarSeleted)) = true := by
  obtain ⟨d, rfl, hd⟩ := h
  refine ⟨d, rfl, ?_⟩
  rw [Bool.not_eq_true', Bool.not_eq_false]
  exact hd

theorem insert_skip {dict : Option TabImageDic} (h : ¬ Makes dict) (index maxTag : ℕ)
    (s : TabBar) : s.insertTabWithImageDic dict index maxTag = some s := by
  unfold insertTabWithImageDic
  cases dict with
  | none => rfl
  | some d =>
    have hd : (!(d.tabBarDefault && d.tabBarSeleted)) = true := by
      rw [Bool.not_eq_true']
      exact Bool.eq_false_iff.2 fun hc => h ⟨d, rfl, hc⟩
    dsimp only
    rw [if_pos hd, ite_self]

/-- **At the end** a button comes with its own tag and its own dot. -/
theorem insert_end {dict : Option TabImageDic} (h : Makes dict) {index : ℕ} (maxTag : ℕ)
    (hi : index = s.buttons.length) (hfew : index < MAXNEWPOINT) :
    s.insertTabWithImageDic dict index maxTag = some { s.withNewViews index with
      buttons := s.buttons ++ [s.newButton index]
      subviews := s.subviews ++ [(s.newButton index).view] } := by
  obtain ⟨d, rfl, hcomplete⟩ := h.not_skipped
  have hbuttons : (s.withNewViews index).buttons = s.buttons := rfl
  unfold insertTabWithImageDic
  dsimp only
  rw [if_neg (by omega), if_neg hcomplete, if_neg (by omega), hbuttons, if_pos hi]
  rfl

/-- **Ahead of the end** it only moves the buttons behind it. -/
theorem insert_ahead {dict : Option TabImageDic} (h : Makes dict) {index : ℕ} (maxTag : ℕ)
    (hi : index < s.buttons.length) (hfew : index < MAXNEWPOINT) :
    ∃ subviews, s.insertTabWithImageDic dict index maxTag = some { s.withNewViews index with
      buttons := s.buttons.insertIdx index (s.newButton index)
      subviews := subviews } := by
  obtain ⟨d, rfl, hcomplete⟩ := h.not_skipped
  have hbuttons : (s.withNewViews index).buttons = s.buttons := rfl
  unfold insertTabWithImageDic
  dsimp only
  rw [if_neg (by omega), if_neg hcomplete, if_neg (by omega), hbuttons, if_neg (by omega),
    if_neg (by omega)]
  split
  · exact ⟨_, rfl⟩
  · exact ⟨_, rfl⟩

/-- **Beyond the end** it raises, unless the bar is said to have fewer tabs. -/
theorem insert_beyond {dict : Option TabImageDic} (h : Makes dict) {index maxTag : ℕ}
    (hi : s.buttons.length < index) (hmax : index < maxTag) :
    s.insertTabWithImageDic dict index maxTag = none := by
  obtain ⟨d, rfl, hcomplete⟩ := h.not_skipped
  have hbuttons : (s.withNewViews index).buttons = s.buttons := rfl
  unfold insertTabWithImageDic
  dsimp only
  rw [if_neg (by omega), if_neg hcomplete, hbuttons, if_neg (Nat.ne_of_gt hi), if_pos hi]
  exact ite_self _

/-- The new dot is none of the others. -/
theorem Distinct.insert (h : Distinct s) {index : ℕ} (hfew : s.buttons.length < MAXNEWPOINT)
    {buttons : List BarButton} (subviews : List ViewRef)
    (hp : buttons.Perm (s.newButton index :: s.buttons)) :
    Distinct { s.withNewViews index with buttons := buttons, subviews := subviews } := by
  have hnew : (s.newButton index).point = s.views + 1 := rfl
  refine ⟨?_, ?_, fun b hb => ?_⟩
  · change buttons.length ≤ MAXNEWPOINT
    rw [hp.length_eq, List.length_cons]
    omega
  · change (buttons.map (·.point)).Nodup
    rw [(hp.map _).nodup_iff, List.map_cons, List.nodup_cons, hnew]
    refine ⟨fun hmem => ?_, h.nodup⟩
    obtain ⟨b, hb, hbp⟩ := List.mem_map.1 hmem
    have hlt := h.lt b hb
    rw [hbp] at hlt
    exact absurd hlt (Nat.not_lt.2 (Nat.le_succ _))
  · rcases List.mem_cons.1 (hp.mem_iff.1 hb) with rfl | hb
    · exact Nat.add_lt_add_left (by decide) s.views
    · exact Nat.lt_add_right 3 (h.lt b hb)

theorem InOrder.insert_end (h : InOrder s) {index : ℕ} (hi : index = s.buttons.length)
    (subviews : List ViewRef) :
    InOrder { s.withNewViews index with
      buttons := s.buttons ++ [s.newButton index], subviews := subviews } := by
  refine ⟨fun i b hb => ?_, fun i b hb => ?_⟩
  · rcases Tables.getElem?_concat_eq_some.1 hb with hb | ⟨rfl, rfl⟩
    · exact h.tag i b hb
    · change (index : ℤ) + 100 = _
      rw [hi]
      omega
  · change Function.update s.newPoint index (some (s.newButton index).point) i = _
    rcases Tables.getElem?_concat_eq_some.1 hb with hb | ⟨rfl, rfl⟩
    · have hlt := lt_of_getElem? hb
      rw [Function.update_of_ne (by omega)]
      exact h.point i b hb
    · rw [← hi, Function.update_self]

/-- The button behind the new one has the tag of the place ahead. -/
theorem not_inOrder_ahead (h : InOrder s) {index : ℕ} (hi : index < s.buttons.length)
    (subviews : List ViewRef) :
    ¬ InOrder { s.withNewViews index with
      buttons := s.buttons.insertIdx index (s.newButton index), subviews := subviews } := by
  intro h'
  have hb := List.getElem?_eq_getElem hi
  have hmoved : (s.buttons.insertIdx index (s.newButton index))[index + 1]? =
      some s.buttons[index] := by
    rw [List.getElem?_insertIdx_of_gt (by omega)]
    exact hb
  have h1 := h.tag index _ hb
  have h2 := h'.tag (index + 1) _ hmoved
  push_cast at h2
  omega

/-! ## A button taken off -/

/-- The tag of a button when the one at a place is taken off. -/
def retag (index : ℕ) (btn : BarButton) : BarButton :=
  if btn.tag > (index : ℤ) + 100 then { btn with tag := btn.tag - 1 } else btn

@[simp] theorem retag_point (index : ℕ) (btn : BarButton) :
    (retag index btn).point = btn.point := by
  unfold retag
  split_ifs <;> rfl

/-- A bar without the button at a place. -/
def without (index : ℕ) (subviews : List ViewRef) (s : TabBar) : TabBar :=
  { s with subviews := subviews, buttons := (s.buttons.eraseIdx index).map (retag index) }

theorem remove_eq {index : ℕ} (hi : index < s.buttons.length) :
    ∃ subviews, s.removeTabAtIndex index = some (s.without index subviews) := by
  unfold removeTabAtIndex
  rw [if_neg (by omega), Int.toNat_natCast, List.getElem?_eq_getElem hi]
  exact ⟨_, rfl⟩

/-- A button that is left was at its place, or one further on. -/
theorem getElem?_without {index i : ℕ} {subviews : List ViewRef} {b : BarButton} :
    (s.without index subviews).buttons[i]? = some b ↔
      ∃ b', s.buttons[if i < index then i else i + 1]? = some b' ∧ b = retag index b' := by
  unfold without
  rw [List.getElem?_map, List.getElem?_eraseIdx, Option.map_eq_some_iff]
  split_ifs <;> simp only [eq_comm]

theorem Distinct.without (h : Distinct s) (index : ℕ) (subviews : List ViewRef) :
    Distinct (s.without index subviews) := by
  have hpoints : (s.without index subviews).buttons.map (·.point) =
      (s.buttons.eraseIdx index).map (·.point) := by
    unfold TabBar.without
    rw [List.map_map]
    exact List.map_congr_left fun b _ => retag_point index b
  have hsub := List.eraseIdx_sublist s.buttons index
  refine ⟨?_, ?_, fun b hb => ?_⟩
  · unfold TabBar.without
    rw [List.length_map]
    exact Nat.le_trans hsub.length_le h.few
  · rw [hpoints]
    exact h.nodup.sublist (hsub.map _)
  · obtain ⟨b', hb', rfl⟩ := List.mem_map.1 hb
    rw [retag_point]
    exact h.lt b' (hsub.subset hb')

/-- **The tags follow a button that is taken off; the dots do only at the end.** -/
theorem inOrder_without_iff (h : InOrder s) (hd : Distinct s) {index : ℕ}
    (hi : index < s.buttons.length) (subviews : List ViewRef) :
    InOrder (s.without index subviews) ↔ index + 1 = s.buttons.length := by
  constructor
  · intro h'
    by_contra hne
    have hnext := List.getElem?_eq_getElem (show index + 1 < s.buttons.length by omega)
    have hleft : (s.without index subviews).buttons[index]? =
        some (retag index s.buttons[index + 1]) := by
      rw [getElem?_without]
      exact ⟨_, by rw [if_neg (Nat.lt_irrefl index)]; exact hnext, rfl⟩
    -- the dot at the place is still that of the button taken off
    have hold := h.point index _ (List.getElem?_eq_getElem hi)
    have hnew : s.newPoint index = some (retag index s.buttons[index + 1]).point :=
      h'.point index _ hleft
    rw [retag_point, hold, Option.some.injEq] at hnew
    have hlt : index < (s.buttons.map (·.point)).length := by rw [List.length_map]; exact hi
    have hlt' : index + 1 < (s.buttons.map (·.point)).length := by rw [List.length_map]; omega
    have hsame : (s.buttons.map (·.point))[index] = (s.buttons.map (·.point))[index + 1] := by
      simpa using hnew
    have := hd.nodup.getElem_inj_iff.1 hsame
    omega
  · intro hlast
    -- the buttons that are left are those before the last
    have hbefore : ∀ {i : ℕ} {b : BarButton}, (s.without index subviews).buttons[i]? = some b →
        ∃ b', s.buttons[i]? = some b' ∧ i < index ∧ b = retag index b' := by
      intro i b hb
      obtain ⟨b', hb', hretag⟩ := getElem?_without.1 hb
      have hlt := lt_of_getElem? hb'
      have hii : i < index := by
        split_ifs at hlt <;> omega
      rw [if_pos hii] at hb'
      exact ⟨b', hb', hii, hretag⟩
    refine ⟨fun i b hb => ?_, fun i b hb => ?_⟩
    · obtain ⟨b', hb', hii, rfl⟩ := hbefore hb
      have htag := h.tag i b' hb'
      unfold retag
      rw [if_neg (by omega)]
      exact htag
    · obtain ⟨b', hb', hii, rfl⟩ := hbefore hb
      rw [retag_point]
      exact h.point i b' hb'

/-! ## Steps -/

/-- The steps that are looked at: a button put in up to the end, where the bar has room for it, and
one taken off that is there. -/
def Allowed (s : TabBar) : Event → Prop
  | .insert dict index _ =>
    index ≤ s.buttons.length ∧ (Makes dict → s.buttons.length < MAXNEWPOINT)
  | .remove index => 0 ≤ index ∧ index < s.buttons.length

/-- **The condition on a step**: buttons come and go at the end. -/
def AtEnd (s : TabBar) : Event → Prop
  | .insert dict index _ => Makes dict → index = s.buttons.length
  | .remove index => index + 1 = s.buttons.length

/-- **A step keeps the bar in order exactly at the end.** -/
theorem step_inOrder_iff (hd : Distinct s) {a : Event} (ha : Allowed s a) (h : InOrder s) :
    ∃ t, step s a = some t ∧ Distinct t ∧ (InOrder t ↔ AtEnd s a) := by
  cases a with
  | insert dict index maxTag =>
    obtain ⟨hi, hfew⟩ := ha
    by_cases hm : Makes dict
    · have hfew := hfew hm
      rcases Nat.eq_or_lt_of_le hi with hi | hi
      · refine ⟨_, insert_end hm maxTag hi (by omega), hd.insert hfew _ ?_, ?_⟩
        · exact List.perm_append_singleton _ _
        · exact iff_of_true (h.insert_end hi _) fun _ => hi
      · obtain ⟨subviews, hstep⟩ := insert_ahead hm maxTag hi (by omega)
        refine ⟨_, hstep, hd.insert hfew _ (List.perm_insertIdx _ _ hi.le), ?_⟩
        exact iff_of_false (not_inOrder_ahead h hi _) fun hend => Nat.ne_of_lt hi (hend hm)
    · exact ⟨s, insert_skip hm index maxTag s, hd, iff_of_true h fun hm' => absurd hm' hm⟩
  | remove index =>
    obtain ⟨h0, hi⟩ := ha
    obtain ⟨i, rfl⟩ := Int.eq_ofNat_of_zero_le h0
    have hi : i < s.buttons.length := by exact_mod_cast hi
    obtain ⟨subviews, hstep⟩ := remove_eq hi
    refine ⟨_, hstep, hd.without i subviews, (inOrder_without_iff h hd hi subviews).trans ?_⟩
    change i + 1 = s.buttons.length ↔ (i : ℤ) + 1 = s.buttons.length
    omega

/-! ## The new bar -/

/-- No dictionary that lacks an image comes before one that has both. -/
def CompleteFirst (imageArray : List TabImageDic) : Prop :=
  imageArray.Pairwise fun d e => e.complete = true → d.complete = true

/-- The loop of `initWithFrame:buttonImages:ShowHeight:` up to some dictionary. -/
def initUpTo (maxTag : ℕ) (imageArray : List TabImageDic) : Option TabBar :=
  imageArray.zipIdx.foldlM (fun s (dict, i) => s.insertTabWithImageDic (some dict) i maxTag) empty

theorem initUpTo_concat (maxTag : ℕ) (l : List TabImageDic) (d : TabImageDic) :
    initUpTo maxTag (l ++ [d]) =
      (initUpTo maxTag l).bind fun s => s.insertTabWithImageDic (some d) l.length maxTag := by
  unfold initUpTo
  rw [List.zipIdx_append, List.foldlM_append]
  simp

theorem makes_iff {d : TabImageDic} : Makes (some d) ↔ d.complete = true := by
  constructor
  · rintro ⟨d', h, hd⟩
    obtain rfl := Option.some.inj h
    exact hd
  · exact fun h => ⟨d, rfl, h⟩

/-- **The loop puts its buttons in at the end, until it skips one and then raises.** -/
theorem initUpTo_cases (maxTag : ℕ) (l : List TabImageDic) (hmax : l.length ≤ maxTag)
    (hfew : l.length ≤ MAXNEWPOINT) :
    (CompleteFirst l → ∃ s, initUpTo maxTag l = some s ∧ Distinct s ∧ InOrder s ∧
      s.buttons.length = l.countP TabImageDic.complete) ∧
    (¬ CompleteFirst l → initUpTo maxTag l = none) := by
  induction l using List.reverseRecOn with
  | nil =>
    refine ⟨fun _ => ⟨empty, rfl, ⟨Nat.zero_le _, List.nodup_nil, ?_⟩, ⟨?_, ?_⟩, rfl⟩,
      fun h => absurd List.Pairwise.nil h⟩
    · exact fun b hb => absurd hb List.not_mem_nil
    · exact fun i b hb => by cases hb
    · exact fun i b hb => by cases hb
  | append_singleton l d ih =>
    rw [List.length_append, List.length_singleton] at hmax hfew
    obtain ⟨hsome, hnone⟩ := ih (by omega) (by omega)
    have hfirst : CompleteFirst (l ++ [d]) ↔
        CompleteFirst l ∧ (d.complete = true → ∀ e ∈ l, e.complete = true) := by
      unfold CompleteFirst
      rw [List.pairwise_append]
      simp only [List.pairwise_singleton, List.mem_singleton, forall_eq, true_and]
      exact and_congr_right fun _ => ⟨fun h hd e he => h e he hd, fun h e he hd => h hd e he⟩
    rw [initUpTo_concat, hfirst, List.countP_append]
    by_cases hl : CompleteFirst l
    · obtain ⟨s, hs, hdist, horder, hlen⟩ := hsome hl
      rw [hs, Option.bind_some]
      cases hd : d.complete with
      | false =>
        have hskip := insert_skip (fun h => by
          rw [makes_iff, hd] at h
          cases h) l.length maxTag s
        refine ⟨fun _ => ⟨s, hskip, hdist, horder, ?_⟩, fun h => absurd ⟨hl, fun h => by cases h⟩ h⟩
        simp [hlen, hd]
      | true =>
        -- after an incomplete one the index is beyond the buttons there are
        by_cases hall : ∀ e ∈ l, e.complete = true
        · rw [List.countP_eq_length.2 hall] at hlen ⊢
          refine ⟨fun _ => ⟨_, insert_end (makes_iff.2 hd) maxTag hlen.symm (by omega),
            hdist.insert (by omega) _ (List.perm_append_singleton _ _),
            horder.insert_end hlen.symm _, ?_⟩, fun h => absurd ⟨hl, fun _ => hall⟩ h⟩
          simp [hlen, hd]
        · have hlt : l.countP TabImageDic.complete < l.length :=
            Nat.lt_of_le_of_ne List.countP_le_length fun h => hall (List.countP_eq_length.1 h)
          exact ⟨fun h => absurd (h.2 rfl) hall,
            fun _ => insert_beyond (makes_iff.2 hd) (by omega) (by omega)⟩
    · rw [hnone hl]
      exact ⟨fun h => absurd h.1 hl, fun _ => rfl⟩

/-! ## Runs -/

/-- **A bar is built and stays indexed by place exactly when no dictionary that lacks an image comes
before one that has both, and every button comes and goes at the end.** -/
theorem tabs_indexed_iff {imageArray : List TabImageDic} (hfew : imageArray.length ≤ MAXNEWPOINT)
    (events : List Event)
    (ha : ∀ s, initWithFrame imageArray = some s → ∀ q ∈ visited step s events, Allowed q.1 q.2) :
    (∃ s, initWithFrame imageArray = some s ∧ ∃ t, exec step s events = some t ∧
      (∀ q ∈ visited step s events, Indexed q.1) ∧ Indexed t) ↔
      CompleteFirst imageArray ∧
        ∀ s, initWithFrame imageArray = some s → ∀ q ∈ visited step s events, AtEnd q.1 q.2 := by
  obtain ⟨hsome, hnone⟩ := initUpTo_cases imageArray.length imageArray (Nat.le_refl _) hfew
  have hinit : initWithFrame imageArray = initUpTo imageArray.length imageArray := rfl
  rw [hinit] at ha ⊢
  by_cases hfirst : CompleteFirst imageArray
  · obtain ⟨s, hs, hdist, horder, -⟩ := hsome hfirst
    rw [hs] at ha ⊢
    simp only [Option.some.injEq, exists_eq_left', forall_eq', hfirst, true_and] at ha ⊢
    have hiff := exec_always_iff (I := Distinct) (P := Indexed) (A := Allowed) (C := AtEnd)
      (fun s a hs ha hp => ?_) events hdist ha
    · rw [hiff]
      exact and_iff_right ((indexed_iff hdist.few).2 horder)
    · obtain ⟨t, ht, hdist, hiff⟩ := step_inOrder_iff hs ha ((indexed_iff hs.few).1 hp)
      exact ⟨t, ht, hdist, (indexed_iff hdist.few).trans hiff⟩
  · rw [hnone hfirst]
    exact iff_of_false (fun ⟨s, hs, _⟩ => by cases hs) fun h => hfirst h.1

/-- Two tabs, a third put in at the end and taken off again. -/
theorem two_tabs_indexed :
    ∃ s, initWithFrame [⟨true, true⟩, ⟨true, true⟩] = some s ∧
      ∃ t, exec step s [.insert (some ⟨true, true⟩) 2 3, .remove 2] = some t ∧
        (∀ q ∈ visited step s [.insert (some ⟨true, true⟩) 2 3, .remove 2], Indexed q.1) ∧
        Indexed t := by
  refine (tabs_indexed_iff (by decide) _ fun s hs q hq => ?_).2
    ⟨by unfold CompleteFirst; decide, fun s hs q hq => ?_⟩
  · obtain rfl := Option.some.inj hs
    rcases List.mem_cons.1 hq with rfl | hq
    · exact ⟨by decide, fun _ => by decide⟩
    · obtain rfl := List.mem_singleton.1 hq
      exact ⟨by decide, by decide⟩
  · obtain rfl := Option.some.inj hs
    rcases List.mem_cons.1 hq with rfl | hq
    · exact fun _ => rfl
    · obtain rfl := List.mem_singleton.1 hq
      exact rfl

/-- A dictionary that lacks an image comes before one that has both: the bar raises. A third tab is
put in ahead of two: the second button has the tag of the first place. The first of two is taken
off: the dot of the first place is still that of the button taken off. -/
theorem tabs_out_of_order :
    (initWithFrame [⟨false, true⟩, ⟨true, true⟩]).isNone = true ∧
    ((do
      let s ← initWithFrame [⟨true, true⟩, ⟨true, true⟩]
      let s ← exec step s [.insert (some ⟨true, true⟩) 0 3]
      some (s.buttons.map (·.tag))) = some [100, 100, 101]) ∧
    ((do
      let s ← initWithFrame [⟨true, true⟩, ⟨true, true⟩]
      let s ← exec step s [.remove 0]
      some (s.buttons.map (·.point), s.newPoint 0)) = some ([4], some 1)) := by
  decide

end TabBar

end RCSdk
